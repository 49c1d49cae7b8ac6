import SourceAtlas.Pattern.Fault

/-! Patterns as they are written. Each part knows the stretch of the pattern it comes
from. -/
namespace SourceAtlas.Pattern

/-- A switch that changes how what follows is read. -/
inductive Flag where
  | caseInsensitive
  | multiLine
  | dotMatchesLineEnd
  | swapGreed
  | unicode
  | carriageReturn
  | ignoreBlanks
deriving DecidableEq, Repr

/-- A written list of switches: those turned on and those turned off. -/
structure Flags where
  enabled : List Flag
  disabled : List Flag
deriving DecidableEq, Repr

def Flags.state? (flags : Flags) (flag : Flag) : Option Bool :=
  if flags.disabled.contains flag then some false
  else if flags.enabled.contains flag then some true
  else none

inductive Assertion where
  | lineStart
  | lineEnd
  | textStart
  | textEnd
  | wordBoundary
  | notWordBoundary
  | wordStart
  | wordEnd
  | wordStartHalf
  | wordEndHalf
deriving DecidableEq, Repr

inductive LetterClass where
  | digit
  | space
  | word
deriving DecidableEq, Repr

/-- Classes named by a word in brackets and colons. -/
inductive NamedClass where
  | alnum | alpha | ascii | blank | cntrl | digit | graph
  | lower | print | punct | space | upper | word | xdigit
deriving DecidableEq, Repr

/-- A class by a property of characters: a name alone, or a property and its value. -/
inductive PropertyQuery where
  | byName (name : String)
  | byValue (property value : String) (differs : Bool)
deriving DecidableEq, Repr

/-- A character as written. `byteEscape` marks one given by two hexadecimal digits. -/
structure Literal where
  span : Span
  char : Char
  byteEscape : Bool := false
deriving DecidableEq, Repr

inductive ClassOperation where
  | intersection
  | difference
  | symmetricDifference
deriving DecidableEq, Repr

inductive ClassSet where
  | literal (written : Literal)
  | range (span : Span) (low high : Literal)
  | named (span : Span) (kind : NamedClass) (negated : Bool)
  | letter (span : Span) (kind : LetterClass) (negated : Bool)
  | property (span : Span) (query : PropertyQuery) (negated : Bool)
  | bracketed (span : Span) (negated : Bool) (body : ClassSet)
  | union (span : Span) (items : List ClassSet)
  | operation (span : Span) (kind : ClassOperation) (left right : ClassSet)

inductive GroupKind where
  | capture (index : Nat)
  | plain (flags : Flags)

inductive Expression where
  | empty (span : Span)
  | flags (span : Span) (flags : Flags)
  | literal (written : Literal)
  | dot (span : Span)
  | assertion (span : Span) (kind : Assertion)
  | letterClass (span : Span) (kind : LetterClass) (negated : Bool)
  | propertyClass (span : Span) (query : PropertyQuery) (negated : Bool)
  | bracketed (span : Span) (negated : Bool) (body : ClassSet)
  | repetition (span : Span) (least : Nat) (most : Option Nat) (greedy : Bool) (body : Expression)
  | group (span : Span) (kind : GroupKind) (body : Expression)
  | alternation (span : Span) (branches : List Expression)
  | concatenation (span : Span) (parts : List Expression)

namespace ClassSet

def span : ClassSet → Span
  | .literal written => written.span
  | .range span _ _ | .named span _ _ | .letter span _ _ | .property span _ _
  | .bracketed span _ _ | .union span _ | .operation span _ _ _ => span

/-- Items side by side; a single one stands for itself. Without any, the class stands at
a place of its own. -/
def ofItems (place : Nat) : List ClassSet → ClassSet
  | [] => .union ⟨place, place⟩ []
  | [item] => item
  | item :: rest => .union ⟨item.span.start, ((rest.getLast?).getD item).span.stop⟩ (item :: rest)

end ClassSet

namespace Expression

def span : Expression → Span
  | .literal written => written.span
  | .empty span | .flags span _ | .dot span | .assertion span _ | .letterClass span _ _
  | .propertyClass span _ _ | .bracketed span _ _ | .repetition span _ _ _ _
  | .group span _ _ | .alternation span _ | .concatenation span _ => span

/-- Parts one after the other; a single one stands for itself. -/
def ofParts (span : Span) : List Expression → Expression
  | [] => .empty span
  | [part] => part
  | parts => .concatenation span parts

end Expression

section Nesting

def nestLimit : Nat := 250

def deeper (depth : Nat) (span : Span) : Except Fault Nat :=
  if depth < nestLimit then .ok (depth + 1)
  else .error { kind := .nestLimitExceeded nestLimit, span }

mutual

def ClassSet.checkNesting (depth : Nat) : ClassSet → Except Fault Unit
  | .bracketed span _ body => do
    let depth ← deeper depth span
    body.checkNesting depth
  | .union span items =>
    if items.isEmpty then pure ()
    else do
      let depth ← deeper depth span
      checkNestingOfItems depth items
  | .operation span _ left right => do
    let depth ← deeper depth span
    left.checkNesting depth
    right.checkNesting depth
  | _ => pure ()

def checkNestingOfItems (depth : Nat) : List ClassSet → Except Fault Unit
  | [] => pure ()
  | item :: rest => do
    item.checkNesting depth
    checkNestingOfItems depth rest

end

mutual

def Expression.checkNesting (depth : Nat) : Expression → Except Fault Unit
  | .bracketed span _ body => do
    let depth ← deeper depth span
    body.checkNesting depth
  | .repetition span _ _ _ body => do
    let depth ← deeper depth span
    body.checkNesting depth
  | .group span _ body => do
    let depth ← deeper depth span
    body.checkNesting depth
  | .alternation span branches => do
    let depth ← deeper depth span
    checkNestingOfParts depth branches
  | .concatenation span parts => do
    let depth ← deeper depth span
    checkNestingOfParts depth parts
  | _ => pure ()

def checkNestingOfParts (depth : Nat) : List Expression → Except Fault Unit
  | [] => pure ()
  | part :: rest => do
    part.checkNesting depth
    checkNestingOfParts depth rest

end

end Nesting

end SourceAtlas.Pattern
