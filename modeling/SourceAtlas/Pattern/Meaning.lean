import SourceAtlas.Pattern.Class
import SourceAtlas.Pattern.Matching
import SourceAtlas.Pattern.Reading

/-! The meaning of written patterns. Switches hold from where they are set to the end of
the group around them. -/
namespace SourceAtlas.Pattern

structure Mode where
  caseInsensitive : Bool := false
  multiLine : Bool := false
  dotMatchesLineEnd : Bool := false
  swapGreed : Bool := false
  unicode : Bool := true
  carriageReturn : Bool := false

namespace Mode

def update (mode : Mode) (flags : Flags) : Mode :=
  { caseInsensitive := (flags.state? .caseInsensitive).getD mode.caseInsensitive
    multiLine := (flags.state? .multiLine).getD mode.multiLine
    dotMatchesLineEnd := (flags.state? .dotMatchesLineEnd).getD mode.dotMatchesLineEnd
    swapGreed := (flags.state? .swapGreed).getD mode.swapGreed
    unicode := (flags.state? .unicode).getD mode.unicode
    carriageReturn := (flags.state? .carriageReturn).getD mode.carriageReturn }

def fold (mode : Mode) (members : CharClass) : CharClass :=
  if !mode.caseInsensitive then members
  else if mode.unicode then members.foldCase
  else members.foldAsciiCase

end Mode

def faultAt {α : Type} (kind : FaultKind) (span : Span) : Except Fault α :=
  .error { kind, span }

section Classes

/-- A class as written, folded and negated as asked. Bytes beyond ASCII are no text by
themselves, so no class may have them. -/
def closeClass (mode : Mode) (span : Span) (negated : Bool) (members : CharClass) :
    Except Fault CharClass :=
  let folded := mode.fold members
  let closed := if negated then folded.negate else folded
  if !mode.unicode && !closed.isAscii then faultAt .invalidUtf8 span else .ok closed

/-- A character by itself. Without Unicode a byte beyond ASCII is no text. -/
def literalChar (mode : Mode) (written : Literal) : Except Fault Char :=
  if !mode.unicode && written.byteEscape && 127 < written.char.toNat then
    faultAt .invalidUtf8 written.span
  else .ok written.char

def classChar (mode : Mode) (written : Literal) : Except Fault Char := do
  let c ← literalChar mode written
  if !mode.unicode && 127 < c.toNat then faultAt .unicodeNotAllowed written.span else return c

def letterMembers (mode : Mode) (span : Span) (kind : LetterClass) (negated : Bool) :
    Except Fault CharClass :=
  let members := kind.members mode.unicode
  let closed := if negated then members.negate else members
  if !mode.unicode && !closed.isAscii then faultAt .invalidUtf8 span else .ok closed

def propertyMembers (mode : Mode) (span : Span) (query : PropertyQuery) (negated : Bool) :
    Except Fault CharClass :=
  if !mode.unicode then faultAt .unicodeNotAllowed span
  else
    match query.members with
    | .error kind => faultAt kind span
    | .ok members => closeClass mode span negated members

def combine (kind : ClassOperation) (left right : CharClass) : CharClass :=
  match kind with
  | .intersection => fun c => left c && right c
  | .difference => fun c => left c && !right c
  | .symmetricDifference => fun c => left c != right c

mutual

def ClassSet.members (mode : Mode) : ClassSet → Except Fault CharClass
  | .literal written => do
    let c ← classChar mode written
    return (· == c)
  | .range _ low high => do
    return CharClass.between (← classChar mode low) (← classChar mode high)
  | .named span kind negated => closeClass mode span negated kind.members
  | .letter span kind negated => letterMembers mode span kind negated
  | .property span query negated => propertyMembers mode span query negated
  | .bracketed span negated body => do closeClass mode span negated (← body.members mode)
  | .union _ items => membersOfItems mode items
  | .operation _ kind left right => do
    return combine kind (mode.fold (← left.members mode)) (mode.fold (← right.members mode))

def membersOfItems (mode : Mode) : List ClassSet → Except Fault CharClass
  | [] => return fun _ => false
  | item :: rest => do
    let members ← item.members mode
    return members.union (← membersOfItems mode rest)

end

end Classes

section Conditions

/-- The start of a line, where a line may also end in a carriage return with or without a
line feed. -/
def atLineStart (carriageReturn : Bool) (before after : Option Char) : Bool :=
  match before with
  | none => true
  | some c => c == '\n' || (carriageReturn && c == '\r' && after != some '\n')

def atLineEnd (carriageReturn : Bool) (before after : Option Char) : Bool :=
  match after with
  | none => true
  | some c =>
    if carriageReturn then c == '\r' || (c == '\n' && before != some '\r') else c == '\n'

def Assertion.holds (mode : Mode) (kind : Assertion) (before after : Option Char) : Bool :=
  let word := LetterClass.members mode.unicode .word
  let wordBefore := before.any word
  let wordAfter := after.any word
  match kind with
  | .lineStart =>
    if mode.multiLine then atLineStart mode.carriageReturn before after else before.isNone
  | .lineEnd =>
    if mode.multiLine then atLineEnd mode.carriageReturn before after else after.isNone
  | .textStart => before.isNone
  | .textEnd => after.isNone
  | .wordBoundary => wordBefore != wordAfter
  | .notWordBoundary => wordBefore == wordAfter
  | .wordStart => !wordBefore && wordAfter
  | .wordEnd => wordBefore && !wordAfter
  | .wordStartHalf => !wordBefore
  | .wordEndHalf => !wordAfter

/-- What the dot stands for. Without Unicode it would stand for bytes. -/
def dotMembers (mode : Mode) (span : Span) : Except Fault CharClass :=
  if !mode.unicode then faultAt .invalidUtf8 span
  else if mode.dotMatchesLineEnd then .ok fun _ => true
  else if mode.carriageReturn then .ok fun c => c != '\n' && c != '\r'
  else .ok fun c => c != '\n'

end Conditions

section Repetitions

def oneOrMore (body : Pattern) (greedy : Bool) : Pattern :=
  match body with
  | .one accepts => .many accepts greedy
  | body => .repeated body greedy

def times (body : Pattern) (rest : Pattern) : Nat → Pattern
  | 0 => rest
  | count + 1 => .sequence body (times body rest count)

def atMost (body : Pattern) (greedy : Bool) : Nat → Pattern
  | 0 => .empty
  | count + 1 => .optional (.sequence body (atMost body greedy count)) greedy

/-- A pattern repeated between `least` and `most` times. -/
def repetition (body : Pattern) (least : Nat) (most : Option Nat) (greedy : Bool) : Pattern :=
  match least, most with
  | _, some most => times body (atMost body greedy (most - least)) least
  | 0, none => .optional (oneOrMore body greedy) greedy
  | least + 1, none => times body (oneOrMore body greedy) least

end Repetitions

mutual

def Expression.meaning (mode : Mode) : Expression → Except Fault (Pattern × Mode)
  | .empty _ => return (.empty, mode)
  | .flags _ flags => return (.empty, mode.update flags)
  | .literal written => do
    let c ← literalChar mode written
    return (.one (mode.fold (· == c)), mode)
  | .dot span => return (.one (← dotMembers mode span), mode)
  | .assertion _ kind => return (.look (kind.holds mode), mode)
  | .letterClass span kind negated => return (.one (← letterMembers mode span kind negated), mode)
  | .propertyClass span query negated =>
    return (.one (← propertyMembers mode span query negated), mode)
  | .bracketed span negated body =>
    return (.one (← closeClass mode span negated (← body.members mode)), mode)
  | .repetition _ least most greedy body => do
    let (body, mode) ← body.meaning mode
    return (Pattern.repetition body least most (greedy != mode.swapGreed), mode)
  | .group _ kind body => do
    match kind with
    | .capture index => return (.group index (← body.meaning mode).1, mode)
    | .plain flags => return ((← body.meaning (mode.update flags)).1, mode)
  | .alternation _ branches => meaningOfBranches mode branches
  | .concatenation _ parts => meaningOfParts mode parts

def meaningOfParts (mode : Mode) : List Expression → Except Fault (Pattern × Mode)
  | [] => return (.empty, mode)
  | part :: rest => do
    let (first, mode) ← part.meaning mode
    let (second, mode) ← meaningOfParts mode rest
    return (.sequence first second, mode)

def meaningOfBranches (mode : Mode) : List Expression → Except Fault (Pattern × Mode)
  | [] => return (.one fun _ => false, mode)
  | branch :: rest => do
    let (first, mode) ← branch.meaning mode
    let (second, mode) ← meaningOfBranches mode rest
    return (.either first second, mode)

end

def compile (written : String) : Except Fault Pattern := do
  let expression ← Expression.read written
  return (← expression.meaning {}).1

end SourceAtlas.Pattern
