/-! What is wrong with a written pattern, and the message that shows it. -/
namespace SourceAtlas.Pattern

/-- A stretch of a written pattern, in characters. -/
structure Span where
  start : Nat
  stop : Nat
deriving DecidableEq, Repr, Inhabited

/-- What can be wrong. The last group are faults of meaning: they are looked for in
patterns that are written properly. -/
inductive FaultKind where
  | classEscapeInvalid
  | classRangeInvalid
  | classRangeLiteral
  | classUnclosed
  | decimalEmpty
  | decimalInvalid
  | escapeHexEmpty
  | escapeHexInvalid
  | escapeHexInvalidDigit
  | escapeUnexpectedEnd
  | escapeUnrecognized
  | flagDanglingNegation
  | flagDuplicate
  | flagRepeatedNegation
  | flagUnexpectedEnd
  | flagUnrecognized
  | groupNameDuplicate
  | groupNameEmpty
  | groupNameInvalid
  | groupNameUnexpectedEnd
  | groupUnclosed
  | groupUnopened
  | nestLimitExceeded (limit : Nat)
  | repetitionCountInvalid
  | repetitionCountDecimalEmpty
  | repetitionCountUnclosed
  | repetitionMissing
  | wordBoundaryUnclosed
  | wordBoundaryUnrecognized
  | wordBoundaryUnexpectedEnd
  | unicodeClassInvalid
  | backreference
  | lookAround
  | unicodeNotAllowed
  | invalidUtf8
  | propertyNotFound
  | propertyValueNotFound
deriving DecidableEq, Repr

/-- A fault, where it is and, for things given twice, where the first one is. -/
structure Fault where
  kind : FaultKind
  span : Span
  first : Option Span := none
deriving DecidableEq, Repr

namespace FaultKind

def message : FaultKind → String
  | classEscapeInvalid => "invalid escape sequence found in character class"
  | classRangeInvalid => "invalid character class range, the start must be <= the end"
  | classRangeLiteral => "invalid range boundary, must be a literal"
  | classUnclosed => "unclosed character class"
  | decimalEmpty => "decimal literal empty"
  | decimalInvalid => "decimal literal invalid"
  | escapeHexEmpty => "hexadecimal literal empty"
  | escapeHexInvalid => "hexadecimal literal is not a Unicode scalar value"
  | escapeHexInvalidDigit => "invalid hexadecimal digit"
  | escapeUnexpectedEnd => "incomplete escape sequence, reached end of pattern prematurely"
  | escapeUnrecognized => "unrecognized escape sequence"
  | flagDanglingNegation => "dangling flag negation operator"
  | flagDuplicate => "duplicate flag"
  | flagRepeatedNegation => "flag negation operator repeated"
  | flagUnexpectedEnd => "expected flag but got end of regex"
  | flagUnrecognized => "unrecognized flag"
  | groupNameDuplicate => "duplicate capture group name"
  | groupNameEmpty => "empty capture group name"
  | groupNameInvalid => "invalid capture group character"
  | groupNameUnexpectedEnd => "unclosed capture group name"
  | groupUnclosed => "unclosed group"
  | groupUnopened => "unopened group"
  | nestLimitExceeded limit =>
    "exceed the maximum number of nested parentheses/brackets (" ++ toString limit ++ ")"
  | repetitionCountInvalid => "invalid repetition count range, the start must be <= the end"
  | repetitionCountDecimalEmpty => "repetition quantifier expects a valid decimal"
  | repetitionCountUnclosed => "unclosed counted repetition"
  | repetitionMissing => "repetition operator missing expression"
  | wordBoundaryUnclosed =>
    "special word boundary assertion is either unclosed or contains an invalid character"
  | wordBoundaryUnrecognized =>
    "unrecognized special word boundary assertion, valid choices are: start, end, " ++
      "start-half or end-half"
  | wordBoundaryUnexpectedEnd =>
    "found either the beginning of a special word boundary or a bounded repetition on a " ++
      "\\b with an opening brace, but no closing brace"
  | unicodeClassInvalid => "invalid Unicode character class"
  | backreference => "backreferences are not supported"
  | lookAround => "look-around, including look-ahead and look-behind, is not supported"
  | unicodeNotAllowed => "Unicode not allowed here"
  | invalidUtf8 => "pattern can match invalid UTF-8"
  | propertyNotFound => "Unicode property not found"
  | propertyValueNotFound => "Unicode property value not found"

end FaultKind

section Display

structure Mark where
  line : Nat
  column : Nat
deriving DecidableEq

def markOf (pattern : List Char) (offset : Nat) : Mark :=
  let before := pattern.take offset
  ⟨before.count '\n' + 1, (before.reverse.takeWhile (· != '\n')).length + 1⟩

/-- The lines of a pattern without their ends. A line end at the very end starts no
further line. -/
def linesOf (pattern : List Char) : List (List Char) :=
  let pieces := pattern.splitOn '\n'
  let pieces := if pieces.getLast? = some [] then pieces.dropLast else pieces
  pieces.map fun line => if line.getLast? = some '\r' then line.dropLast else line

def carets : (column : Nat) → List (Nat × Nat) → List Char
  | _, [] => []
  | column, (start, stop) :: rest =>
    let width := max 1 (stop - start)
    List.replicate (start - column) ' ' ++ List.replicate width '^' ++
      carets (max column start + width) rest

def padded (width number : Nat) : String :=
  let digits := toString number
  String.ofList (List.replicate (width - digits.length) ' ') ++ digits

/-- A pattern line by line, with carets under what is marked. Patterns of several lines
have their lines numbered. -/
def annotate (pattern : List Char) (spans : List (Mark × Mark)) : String :=
  let lines := linesOf pattern
  let lineCount := lines.length + (if pattern.getLast? = some '\n' then 1 else 0)
  let width := if lineCount ≤ 1 then 0 else (toString lineCount).length
  let padding := if width = 0 then 4 else width + 2
  String.join <| lines.zipIdx.map fun (line, index) =>
    let front := if width = 0 then "    " else padded width (index + 1) ++ ": "
    let marked := spans.filter fun (start, _) => start.line = index + 1
    let notes :=
      if marked.isEmpty then ""
      else String.ofList (List.replicate padding ' ' ++
        carets 1 (marked.map fun (start, stop) => (start.column, stop.column))) ++ "\n"
    front ++ String.ofList line ++ "\n" ++ notes

end Display

namespace Fault

def message (pattern : String) (fault : Fault) : String :=
  let chars := pattern.toList
  let spans := (fault.first.toList ++ [fault.span]).map fun span =>
    (markOf chars span.start, markOf chars span.stop)
  let sorted := spans.mergeSort fun left right =>
    left.1.line < right.1.line || (left.1.line = right.1.line && left.1.column ≤ right.1.column)
  let within := sorted.filter fun (start, stop) => start.line = stop.line
  let across := sorted.filter fun (start, stop) => start.line != stop.line
  let notes := across.map fun (start, stop) =>
    "on line " ++ toString start.line ++ " (column " ++ toString start.column ++
      ") through line " ++ toString stop.line ++ " (column " ++ toString (stop.column - 1) ++ ")\n"
  let divider :=
    if chars.contains '\n' then String.ofList (List.replicate 79 '~') ++ "\n" else ""
  let notes := if chars.contains '\n' then String.join notes else ""
  "regex parse error:\n" ++ divider ++ annotate chars within ++ divider ++ notes ++
    "error: " ++ fault.kind.message

end Fault

end SourceAtlas.Pattern
