import SourceAtlas.Outline
import SourceAtlas.Python.Automaton
import SourceAtlas.Python.Import
import SourceAtlas.Syntax.Recovery

/-! Reads Python: a text is accepted if it parses without an error and has none of the
rejected constructs, and then has an outline. -/
namespace SourceAtlas.Python
open SourceAtlas.Syntax

def parse (rejected : List String) (source : Source) : Except Position Node :=
  ((Parser.parse language source).toNode language).checked rejected

/-- Statements of Python 2 that the grammar knows and that are not accepted. -/
def obsoleteStatements : List String := ["print_statement", "exec_statement"]

def transparentKinds : List String :=
  ["block", "else_clause", "finally_clause", "decorated_definition"]

def definedName? (source : Source) (node : Node) : Option String :=
  (node.child? "identifier").map (·.text source)

/-- Whether a function definition starts with `async`. -/
def isCoroutine (node : Node) : Bool :=
  (node.children.head?.map (·.kind)) = some "async"

/-- The outline of a syntax tree: outer definitions first, coroutines left out. -/
def outlineOf (source : Source) (root : Node) : Outline :=
  let nodes := root.breadthFirst transparentKinds
  { classes := (nodes.filter (·.kind = "class_definition")).filterMap (definedName? source)
    functions := (nodes.filter fun node =>
      node.kind = "function_definition" && !isCoroutine node).filterMap (definedName? source)
    imports := (nodes.filterMap (Import.ofNode? source)).map Import.render }

def outline (text : String) : Except Position Outline :=
  let source := Source.ofString text
  (parse obsoleteStatements source).map (outlineOf source)

end SourceAtlas.Python
