/-! The outline of a source file: what it defines and what it imports. -/
namespace SourceAtlas

/-- Names of classes and functions and the import statements, in the order in which they
were found. -/
structure Outline where
  classes : List String := []
  functions : List String := []
  imports : List String := []
deriving DecidableEq, Repr, Inhabited

namespace Outline

def isEmpty (outline : Outline) : Bool :=
  outline.classes.isEmpty && outline.functions.isEmpty && outline.imports.isEmpty

end Outline

end SourceAtlas
