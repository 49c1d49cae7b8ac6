import SourceAtlas.Syntax.Node

/-! Import statements of Python by content, and the one way in which they are written:
blanks, comments, brackets and line breaks of the source do not show. -/
namespace SourceAtlas.Python
open SourceAtlas.Syntax

/-- An imported thing: a dotted name, and what it is called here. -/
structure Target where
  name : List String
  localName : Option String
deriving DecidableEq, Repr

inductive Selection where
  | everything
  | targets (targets : List Target)
deriving DecidableEq, Repr

/-- An import statement. The module of the second form is dotted, and the dots in front
of it are counted. -/
inductive Import where
  | modules (targets : List Target)
  | names (dots : Nat) (module : List String) (selection : Selection)
deriving DecidableEq, Repr

def dotted (names : List String) : String :=
  ".".intercalate names

namespace Target

def render (target : Target) : String :=
  match target.localName with
  | some name => dotted target.name ++ " as " ++ name
  | none => dotted target.name

def renderAll (targets : List Target) : String :=
  ", ".intercalate (targets.map render)

def identifiers (source : Source) (node : Node) : List String :=
  (node.children.filter (·.kind = "identifier")).map (·.text source)

def ofNode? (source : Source) (node : Node) : Option Target :=
  if node.kind = "dotted_name" then some ⟨identifiers source node, none⟩
  else if node.kind = "aliased_import" then
    some ⟨((node.child? "dotted_name").map (identifiers source)).getD [],
      (node.child? "identifier").map (·.text source)⟩
  else none

end Target

namespace Import

def render : Import → String
  | .modules targets => "import " ++ Target.renderAll targets
  | .names dots module selection =>
    let selected := match selection with
      | .everything => "*"
      | .targets targets => Target.renderAll targets
    "from " ++ String.ofList (List.replicate dots '.') ++ dotted module ++ " import " ++ selected

/-- The nodes before the word `import` and those after it. -/
def splitAtImport (children : List Node) : List Node × List Node :=
  (children.takeWhile (·.kind != "import"), (children.dropWhile (·.kind != "import")).tail)

def moduleOf (source : Source) (node : Node) : Nat × List String :=
  if node.kind = "relative_import" then
    (((node.child? "import_prefix").map fun dots =>
        (dots.text source).toList.count '.').getD 0,
      ((node.child? "dotted_name").map (Target.identifiers source)).getD [])
  else (0, Target.identifiers source node)

def ofNode? (source : Source) (node : Node) : Option Import :=
  let (before, after) := splitAtImport node.children
  let targets := after.filterMap (Target.ofNode? source)
  if node.kind = "import_statement" then some (.modules targets)
  else if node.kind = "future_import_statement" then
    some (.names 0 ["__future__"] (.targets targets))
  else if node.kind = "import_from_statement" then
    let module := before.find? fun part =>
      part.kind = "relative_import" || part.kind = "dotted_name"
    let (dots, name) := (module.map (moduleOf source)).getD (0, [])
    let selection :=
      if (node.child? "wildcard_import").isSome then Selection.everything else .targets targets
    some (.names dots name selection)
  else none

end Import

end SourceAtlas.Python
