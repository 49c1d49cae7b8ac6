import SourceAtlas.Path
import SourceAtlas.Text

/-! What can go wrong in a survey. All but the last two concern one file or directory,
and the survey goes on without it. -/
namespace SourceAtlas

inductive Problem where
  | unreadable (path : Path) (reason : String)
  | tooLarge (path : Path) (size limit : Nat)
  | malformed (path : Path) (line column : Nat)
  | badParser (reason : String)
  | unwalkable (path : Path) (reason : String)
  | unsaved (path : Path) (reason : String)
  | unwritable (reason : String)
deriving DecidableEq

namespace Problem

def kind : Problem → String
  | unreadable _ _ => "read"
  | tooLarge _ _ _ => "size"
  | malformed _ _ _ => "parse"
  | badParser _ => "parse"
  | unwalkable _ _ => "walk"
  | unsaved _ _ => "save"
  | unwritable _ => "save"

def message : Problem → String
  | unreadable path reason => "failed to read " ++ path.display ++ ": " ++ reason
  | tooLarge path size limit =>
    "file too large: " ++ path.display ++ " is " ++ toString size ++ " bytes (limit " ++
      toString limit ++ ")"
  | malformed path line column =>
    "syntax error in " ++ path.display ++ " at line " ++ toString line ++ ", column " ++
      toString column
  | badParser reason => "parser setup failed: " ++ reason
  | unwalkable path reason => "failed to walk " ++ path.display ++ ": " ++ reason
  | unsaved path reason => "failed to save results to " ++ path.display ++ ": " ++ reason
  | unwritable reason => "failed to serialize report: " ++ reason

end Problem

/-- A failure that the survey went on after, as it is shown at the end. -/
structure Warning where
  path : String
  kind : String
  message : String
deriving DecidableEq, Repr

namespace Warning

def ofProblem (path : Path) (problem : Problem) : Warning :=
  ⟨path.display, problem.kind, problem.message⟩

def mentions (needle : String) (warning : Warning) : Bool :=
  Text.occursIn needle.toList warning.path.toList

end Warning

end SourceAtlas
