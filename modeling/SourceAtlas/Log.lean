import SourceAtlas.Outline
import SourceAtlas.Problem

/-! What a survey tells about itself while it runs, and how that is written. -/
namespace SourceAtlas

inductive Level where
  | error
  | warn
  | info
  | debug
  | trace
deriving DecidableEq, Repr

namespace Level

def name : Level → String
  | error => "ERROR"
  | warn => "WARN"
  | info => "INFO"
  | debug => "DEBUG"
  | trace => "TRACE"

def rank : Level → Nat
  | error => 1
  | warn => 2
  | info => 3
  | debug => 4
  | trace => 5

end Level

inductive Note where
  | scanning (root : Path)
  | skipped (path : Path)
  | warned (path : Path) (problem : Problem)
  | found (files : Nat)
  | outlined (key : String) (outline : Outline) (language : String)
  | outlinedAll (files : Nat)
  | documented (files : Nat)
  | saved (output : Path)
  | failed (problem : Problem)
  | finished (warnings : Nat)
deriving DecidableEq

namespace Note

def level : Note → Level
  | skipped _ => .debug
  | outlined _ _ _ => .debug
  | warned _ _ => .warn
  | failed _ => .error
  | _ => .info

def origin : Note → String
  | skipped _ => "codesurvey::core::scanner"
  | outlined _ _ _ => "codesurvey::core::symbols"
  | warned _ _ => "codesurvey::core::diagnostics"
  | _ => "codesurvey::core::analyzer"

/-- The wording of a note. The time that the survey took is given as a text. -/
def message (elapsed : String) : Note → String
  | scanning root => "Scanning " ++ root.display
  | skipped path => "skipping symlinked directory " ++ path.display
  | warned _ problem => problem.message
  | found files => "Found " ++ toString files ++ " files"
  | outlined key outline language =>
    key ++ ": " ++ toString outline.classes.length ++ " classes, " ++
      toString outline.functions.length ++ " functions, " ++
      toString outline.imports.length ++ " imports (" ++ language ++ ")"
  | outlinedAll files => "Extracted symbols from " ++ toString files ++ " files"
  | documented files => "Collected " ++ toString files ++ " documentation files"
  | saved output => "Results written to " ++ output.display ++ " in " ++ elapsed
  | failed problem => problem.message
  | finished warnings => toString warnings ++ " warnings during the run"

def warning? : Note → Option Warning
  | warned path problem => some (Warning.ofProblem path problem)
  | _ => none

end Note

def warnings (notes : List Note) : List Warning :=
  notes.filterMap Note.warning?

namespace Log

def hexDigits (width number : Nat) : String :=
  let digits := Nat.toDigits 16 number
  String.ofList (List.replicate (width - digits.length) '0' ++ digits)

/-- Characters that would act on a terminal are written by number. Line ends and tabs
stay. -/
def escape (c : Char) : String :=
  if c ∈ ['\x07', '\x08', '\x0c', '\x1b', '\x7f'] then "\\x" ++ hexDigits 2 c.toNat
  else if 0x80 ≤ c.toNat && c.toNat ≤ 0x9F then "\\u\x7b" ++ hexDigits 2 c.toNat ++ "\x7d"
  else c.toString

def line (elapsed : String) (note : Note) : String :=
  note.level.name ++ ": " ++ String.join ((note.message elapsed).toList.map escape) ++ "\n"

end Log

end SourceAtlas
