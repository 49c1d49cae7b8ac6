import SourceAtlas.Directory
import SourceAtlas.Outline

/-! The result of a survey. -/
namespace SourceAtlas

/-- The tree of directories, the outlines of source files and the texts of documentation
files. Both maps are in the order of their keys. -/
structure Report where
  tree : Directory
  outlines : List (String × Outline)
  documents : List (String × String)
deriving DecidableEq

namespace Report

def structureTitle : String := "Directory and File Structure"

def outlinesTitle : String := "Classes, Functions, and Imports"

def documentsTitle : String := "Documentation and Comments"

def emptyOutlines (report : Report) : List String :=
  (report.outlines.filter (·.2.isEmpty)).map (·.1)

end Report

end SourceAtlas
