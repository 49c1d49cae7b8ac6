import SourceAtlas.Syntax.Tree

/-! Syntax nodes: the visible part of a parse tree. A node knows whether it is an error,
stands for missing text, or has any error in it. -/
namespace SourceAtlas.Syntax

/-- A node with its place in the text, which `position` measures. Named nodes stand for
constructs of the language, the others for fixed pieces of text. -/
structure Node where
  kind : String
  named : Bool
  start : Nat
  stop : Nat
  position : Length
  isError : Bool
  isMissing : Bool
  hasError : Bool
  children : List Node
deriving Inhabited

namespace Tree
variable {σ : Type}

def appearance (language : Language σ) (facts : Facts σ) : Appearance :=
  match facts.label with
  | .symbol id => language.appearance id
  | .error => ⟨"ERROR", true, true⟩
  | .gathered => ⟨"ERROR", false, true⟩

mutual

/-- The visible nodes that a tree leaves, in front of others. A hidden tree leaves those
of its children. The tree starts at `position`, as does its first child. -/
def nodes (language : Language σ) (position : Length) (renamed : Option Appearance) :
    Tree σ → List Node → List Node
  | .mk facts children, others =>
    let shown := renamed.getD (appearance language facts)
    if shown.visible then
      { kind := shown.name
        named := shown.named
        start := facts.start
        stop := facts.stop
        position
        isError := facts.label = .error
        isMissing := facts.missing
        hasError := 0 < (Tree.mk facts children).cost
        children := nodesOfAll language position facts.aliases children [] } :: others
    else nodesOfAll language position facts.aliases children others

/-- The visible nodes of trees that stand one after the other, with the names that
their parent gives to them, extras aside. Behind a tree come the blanks in front of
the next one. -/
def nodesOfAll (language : Language σ) :
    Length → List (Option Appearance) → List (Tree σ) → List Node → List Node
  | _, _, [], others => others
  | position, aliases, tree :: rest, others =>
    let next := position + tree.facts.size + (rest.head?.map (·.facts.padding)).getD 0
    if tree.extra then
      nodes language position none tree (nodesOfAll language next aliases rest others)
    else
      nodes language position aliases.head?.join tree
        (nodesOfAll language next aliases.tail rest others)

end

def toNode (language : Language σ) (tree : Tree σ) : Node :=
  (nodes language tree.facts.padding none tree []).headD default

end Tree

namespace Node

def text (source : Source) (node : Node) : String :=
  source.slice node.start node.stop

def child? (node : Node) (kind : String) : Option Node :=
  node.children.find? (·.kind = kind)

mutual

/-- The first wanted node in source order, the node itself included. Of the children only
those that may be entered are looked into. -/
def findFirst? (enter wanted : Node → Bool) : Node → Option Node
  | ⟨kind, named, start, stop, position, isError, isMissing, hasError, children⟩ =>
    if wanted ⟨kind, named, start, stop, position, isError, isMissing, hasError, children⟩ then
      some ⟨kind, named, start, stop, position, isError, isMissing, hasError, children⟩
    else findFirstIn? enter wanted children

def findFirstIn? (enter wanted : Node → Bool) : List Node → Option Node
  | [] => none
  | node :: rest =>
    if enter node then
      match findFirst? enter wanted node with
      | some found => some found
      | none => findFirstIn? enter wanted rest
    else findFirstIn? enter wanted rest

end

def isFault (node : Node) : Bool :=
  node.isError || node.isMissing

/-- The first error or missing node. Only nodes with an error in them are looked into. -/
def firstError? (root : Node) : Option Node :=
  root.findFirst? (·.hasError) isFault

def firstOfKind? (kinds : List String) (root : Node) : Option Node :=
  root.findFirst? (·.named) fun node => kinds.contains node.kind

/-- What makes a text unacceptable: its first error, or else the first node of a rejected
kind. -/
def offender? (rejected : List String) (root : Node) : Option Node :=
  if root.hasError then some ((firstError? root).getD root)
  else firstOfKind? rejected root

def checked (rejected : List String) (root : Node) : Except Position Node :=
  match root.offender? rejected with
  | some node => .error node.position.toPosition
  | none => .ok root

mutual

/-- The nodes that come next below a node: its named children, where one of a transparent
kind is left out and those next below it take its place. -/
def successors (transparent : List String) : Node → List Node
  | ⟨_, _, _, _, _, _, _, _, children⟩ => successorsOfAll transparent children

def successorsOfAll (transparent : List String) : List Node → List Node
  | [] => []
  | node :: rest =>
    let later := successorsOfAll transparent rest
    if !node.named then later
    else if transparent.contains node.kind then successors transparent node ++ later
    else node :: later

end

section Size

mutual

def size : Node → Nat
  | ⟨_, _, _, _, _, _, _, _, children⟩ => sizeOfAll children + 1

def sizeOfAll : List Node → Nat
  | [] => 0
  | node :: rest => size node + sizeOfAll rest

end

@[simp] theorem sizeOfAll_append (first second : List Node) :
    sizeOfAll (first ++ second) = sizeOfAll first + sizeOfAll second := by
  induction first with
  | nil => simp [sizeOfAll]
  | cons node first ih => simp [sizeOfAll, ih, Nat.add_assoc]

@[simp] theorem sizeOfAll_reverse (nodes : List Node) : sizeOfAll nodes.reverse = sizeOfAll nodes := by
  induction nodes with
  | nil => rfl
  | cons node nodes ih => simp [sizeOfAll, ih, Nat.add_comm]

mutual

theorem sizeOfAll_successors_lt (transparent : List String) :
    (node : Node) → sizeOfAll (successors transparent node) < size node
  | ⟨_, _, _, _, _, _, _, _, children⟩ =>
    Nat.lt_succ_of_le (sizeOfAll_successorsOfAll_le transparent children)

theorem sizeOfAll_successorsOfAll_le (transparent : List String) :
    (nodes : List Node) → sizeOfAll (successorsOfAll transparent nodes) ≤ sizeOfAll nodes
  | [] => Nat.le_refl _
  | node :: rest => by
    have below := sizeOfAll_successors_lt transparent node
    have later := sizeOfAll_successorsOfAll_le transparent rest
    simp only [successorsOfAll]
    split
    · simp only [sizeOfAll]
      omega
    · split
      · simp only [sizeOfAll_append, sizeOfAll]
        omega
      · simp only [sizeOfAll]
        omega

end

end Size

/-- Visits the nodes of a queue in turn. Those that come next below a node go to the end of
the queue, which is kept in two halves: `front` in order, then `back` last first. -/
def visit (transparent : List String) : (front back : List Node) → List Node
  | [], [] => []
  | [], last :: back => visit transparent (last :: back).reverse []
  | node :: front, back =>
    node :: visit transparent front ((node.successors transparent).reverse ++ back)
termination_by front back =>
  2 * (sizeOfAll front + sizeOfAll back) + if front.isEmpty then 1 else 0
decreasing_by
  · simp only [sizeOfAll_reverse, sizeOfAll]
    simp
  · have below := sizeOfAll_successors_lt transparent node
    simp only [sizeOfAll_append, sizeOfAll_reverse, sizeOfAll, List.isEmpty_cons]
    split <;> simp <;> omega

def breadthFirst (transparent : List String) (root : Node) : List Node :=
  visit transparent [root] []

end Node

end SourceAtlas.Syntax
