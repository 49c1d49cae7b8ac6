import SourceAtlas.Log
import SourceAtlas.Unicode.Letter
import SourceAtlas.Unicode.Word

/-! Which notes are written. A filter is a list of directives, divided by commas, of the
form "level", "origin" or "origin=level"; of those that apply to a note the most specific
one decides. -/
namespace SourceAtlas.Log

abbrev Limit := Option Level

def Limit.admits (limit : Limit) (level : Level) : Bool :=
  match limit with
  | some least => level.rank ≤ least.rank
  | none => false

/-- Sets the limit for notes whose origin starts with a text and that have some fields. -/
structure Directive where
  origin : Option String
  fields : List String
  limit : Limit
deriving DecidableEq

namespace Directive

def messageField : String := "message"

def applies (note : Note) (directive : Directive) : Bool :=
  (match directive.origin with
    | some origin => origin.toList.isPrefixOf note.origin.toList
    | none => true) &&
    directive.fields.all (· = messageField)

/-- Directives with an origin are more specific than others, and the longer the origin the
more; then those with more fields are. -/
def specificity (directive : Directive) : Nat × Nat :=
  (directive.origin.elim 0 fun origin => origin.utf8ByteSize + 1, directive.fields.length)

/-- The more specific of two directives; of equal ones the later. -/
def prefer (earlier later : Directive) : Directive :=
  let (old, oldFields) := earlier.specificity
  let (new, newFields) := later.specificity
  if new < old || new = old && newFields < oldFields then earlier else later

end Directive

/-- Directives in the order in which they were given. -/
structure Filter where
  directives : List Directive
deriving DecidableEq

namespace Filter

def ofLimit (limit : Limit) : Filter :=
  ⟨[⟨none, [], limit⟩]⟩

def decisive? (note : Note) (filter : Filter) : Option Directive :=
  (filter.directives.filter (·.applies note)).foldl
    (fun best directive => some (best.elim directive (·.prefer directive))) none

def admits (filter : Filter) (note : Note) : Bool :=
  match filter.decisive? note with
  | some directive => directive.limit.admits note.level
  | none => false

end Filter

section Reading

def smallNumber? (text : String) : Option Nat :=
  let digits := match text.toList with
    | '+' :: rest => rest
    | all => all
  if digits.isEmpty || !digits.all Char.isDigit then none
  else
    match digits.dropWhile (· = '0') with
    | [] => some 0
    | [digit] => some (digit.toNat - '0'.toNat)
    | _ => none

/-- Levels are written by name in any case, or by rank with zero for none. -/
def limit? (text : String) : Option Limit :=
  match smallNumber? text with
  | some 0 => some none
  | some 1 => some (some .error)
  | some 2 => some (some .warn)
  | some 3 => some (some .info)
  | some 4 => some (some .debug)
  | some 5 => some (some .trace)
  | _ =>
    match String.ofList (text.toList.map Char.toLower) with
    | "off" => some none
    | "error" => some (some .error)
    | "warn" => some (some .warn)
    | "info" => some (some .info)
    | "debug" => some (some .debug)
    | "trace" => some (some .trace)
    | _ => none

/-- A directive as it is written. One about spans, or about the value of a field, is
accepted and concerns no note. -/
structure Written where
  origin : Option String := none
  span : Bool := false
  fields : List String := []
  limit : Limit := some .trace

namespace Written

def toDirective? (written : Written) : Option Directive :=
  if written.span || written.fields.any (·.contains '=') then none
  else some ⟨written.origin, written.fields, written.limit⟩

def slice (bytes : Bytes) (start stop : Nat) : String :=
  Bytes.toText ((bytes.take stop).drop start)

/-- Reads the level after an equals sign; without one it is the least important. -/
def withLimit? (written : Written) (text : String) : Option Written :=
  if text.isEmpty then some { written with limit := some .trace }
  else (limit? text).map fun limit => { written with limit }

def afterBracket? (written : Written) (bytes found : Bytes) (place : Nat) : Option Written :=
  match found.drop place with
  | [] => some written
  | 0x3D :: _ => written.withLimit? (slice bytes (place + 1) bytes.length)
  | _ => none

def nextOf? (bytes : Bytes) (first second : UInt8) (start : Nat) : Option Nat :=
  ((bytes.drop start).findIdx? fun byte => byte == first || byte == second).map (· + start)

def afterOpening? (written : Written) (bytes found : Bytes) (start : Nat) : Option Written := do
  let place ← nextOf? found 0x5D 0x7B start
  if found[place]? == some 0x5D then
    afterBracket? { written with span := true } bytes found (place + 1)
  else
    let stop ← nextOf? found 0x7D 0x7D (place + 1)
    let field := slice bytes (place + 1) stop
    if field.isEmpty || found[stop + 1]? != some 0x5D then none
    else
      afterBracket? { written with span := start < place, fields := [field] } bytes found (stop + 2)

end Written

open Written

def startsDirective (c : Char) : Bool :=
  c = '-' || c = ':' || c = '_' || Unicode.letter.contains c || Unicode.number.contains c

def trimBlanks (text : List Char) : List Char :=
  ((text.dropWhile Unicode.blank.contains).reverse.dropWhile Unicode.blank.contains).reverse

/-- Reads one directive. Signs are looked for in the text without the blanks around it,
while the parts are then cut from the whole text at the places that were found. -/
def written? (text : String) : Option Written :=
  let bytes := Bytes.ofText text
  let trimmed := trimBlanks text.toList
  let found := Bytes.ofText (String.ofList trimmed)
  match trimmed with
  | [] => none
  | '[' :: _ => afterOpening? {} bytes found 1
  | first :: _ =>
    if !startsDirective first then none
    else
      match nextOf? found 0x3D 0x5B 1 with
      | none =>
        match limit? text with
        | some limit => some { limit }
        | none => some { origin := some text }
      | some place =>
        let origin := slice bytes 0 place
        if found[place]? == some 0x3D then
          withLimit? { origin := some origin } (slice bytes (place + 1) bytes.length)
        else afterOpening? { origin := some origin } bytes found (place + 1)

/-- Reads a filter. Empty directives do not count. -/
def Filter.ofText? (text : String) : Option Filter := do
  let parts := (text.splitOn ",").filter (!·.isEmpty)
  let written ← parts.mapM written?
  return ⟨written.filterMap Written.toDirective?⟩

end Reading

end SourceAtlas.Log
