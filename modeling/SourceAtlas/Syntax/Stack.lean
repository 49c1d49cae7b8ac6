import SourceAtlas.Syntax.Tree

/-! The parser's stack. Several readings of the text are followed at once; they
share what they have in common, so the stack is a graph: a node has a link to
each node that may lie below it, and each reading is a head on top. -/
namespace SourceAtlas.Syntax

/-- A way down from a stack node. A link without a tree marks a place where no
reading could go on. -/
structure Link (σ : Type) where
  below : Nat
  tree : Option (Tree σ)
deriving Inhabited

/-- A node of the stack: the automaton's state, the place reached, how far the trees
below go, and their cost, visible nodes and precedence (the greatest, where readings
have met). -/
structure StackNode (σ : Type) where
  state : Nat
  place : Nat
  position : Length
  links : List (Link σ)
  cost : Nat
  nodeCount : Nat
  precedence : Int
deriving Inhabited

/-- A reading goes on, waits with a token that it cannot use, or has been given up. -/
inductive Status (σ : Type) where
  | active
  | paused (lookahead : Tree σ)
  | halted
deriving Inhabited

/-- A state that the stack held before an error, and how many trees lie above it. -/
structure Landing where
  place : Nat
  position : Length
  depth : Nat
  state : Nat

/-- The top of one reading. `countAtError` is the node count when the last error was
met, and `landings` are the earlier states to which it may return. -/
structure Head (σ : Type) where
  node : Nat
  countAtError : Nat
  memory : Option σ
  status : Status σ
  landings : Option (List Landing)
deriving Inhabited

/-- The readings being followed, over their shared nodes. -/
structure Stack (σ : Type) where
  nodes : Array (StackNode σ)
  heads : Array (Head σ)
deriving Inhabited

/-- A path from a head down the stack, with the trees on it from the lowest up and
the number of those that are not extras. -/
structure Path (σ : Type) where
  node : Nat
  trees : List (Tree σ)
  depth : Nat

/-- What to do with a path: follow it further down, drop it or keep it as it is. -/
inductive Verdict where
  | descend
  | abandon
  | take
deriving DecidableEq

/-- Trees popped off the stack, and the head that was put where they were. -/
structure Slice (σ : Type) where
  head : Nat
  trees : List (Tree σ)

structure StackLimits where
  heads : Nat
  overflow : Nat
  links : Nat
  paths : Nat
  landingDepth : Nat

def stackLimits : StackLimits :=
  { heads := 6, overflow := 4, links := 8, paths := 64, landingDepth := 16 }

namespace Status
variable {σ : Type}

def isActive : Status σ → Bool
  | .active => true
  | _ => false

def isPaused : Status σ → Bool
  | .paused _ => true
  | _ => false

def isHalted : Status σ → Bool
  | .halted => true
  | _ => false

end Status

namespace Stack
variable {σ : Type}

def start : Stack σ :=
  { nodes := #[{ state := 1, place := 0, position := 0, links := [], cost := 0, nodeCount := 0
                 precedence := 0 }]
    heads := #[{ node := 0, countAtError := 0, memory := none, status := .active
                 landings := none }] }

def node (stack : Stack σ) (id : Nat) : StackNode σ :=
  stack.nodes.getD id default

def head (stack : Stack σ) (version : Nat) : Head σ :=
  stack.heads.getD version default

def top (stack : Stack σ) (version : Nat) : StackNode σ :=
  stack.node (stack.head version).node

def state (stack : Stack σ) (version : Nat) : Nat := (stack.top version).state

def place (stack : Stack σ) (version : Nat) : Nat := (stack.top version).place

def position (stack : Stack σ) (version : Nat) : Length := (stack.top version).position

def isActive (stack : Stack σ) (version : Nat) : Bool := (stack.head version).status.isActive

def setHead (stack : Stack σ) (version : Nat) (head : Head σ) : Stack σ :=
  { stack with heads := stack.heads.setIfInBounds version head }

def modifyHead (stack : Stack σ) (version : Nat) (change : Head σ → Head σ) : Stack σ :=
  stack.setHead version (change (stack.head version))

def halt (stack : Stack σ) (version : Nat) : Stack σ :=
  stack.modifyHead version fun head => { head with status := .halted }

def pause (stack : Stack σ) (version : Nat) (lookahead : Tree σ) : Stack σ :=
  stack.modifyHead version fun head =>
    { head with status := .paused lookahead, countAtError := (stack.node head.node).nodeCount }

def remove (stack : Stack σ) (version : Nat) : Stack σ :=
  { stack with heads := stack.heads.eraseIdxIfInBounds version }

/-- Puts one reading, with its landings or else the old one's, in the place of an
earlier one. -/
def renumber (stack : Stack σ) (source target : Nat) : Stack σ :=
  if source = target then stack
  else
    let moved := stack.head source
    let moved := { moved with landings := moved.landings <|> (stack.head target).landings }
    (stack.setHead target moved).remove source

def copy (stack : Stack σ) (version : Nat) : Stack σ :=
  { stack with heads := stack.heads.push { stack.head version with landings := none } }

def swap (stack : Stack σ) (first second : Nat) : Stack σ :=
  (stack.setHead first (stack.head second)).setHead second (stack.head first)

/-- A node on top of another one, reached over a tree or over an error. -/
def nodeAbove (stack : Stack σ) (below : Nat) (tree : Option (Tree σ)) (state : Nat) :
    StackNode σ :=
  let base := stack.node below
  let links := [{ below, tree }]
  match tree with
  | none => { base with state, links }
  | some tree =>
    { state, links
      place := tree.facts.stop
      position := base.position + tree.total
      cost := base.cost + tree.cost
      nodeCount := base.nodeCount + tree.nodeCount
      precedence := base.precedence + tree.facts.precedence }

def push (stack : Stack σ) (version : Nat) (tree : Option (Tree σ)) (state : Nat) : Stack σ :=
  let head := stack.head version
  let node := stack.nodeAbove head.node tree state
  let countAtError := if tree.isNone then node.nodeCount else head.countAtError
  { nodes := stack.nodes.push node
    heads := stack.heads.setIfInBounds version
      { head with node := stack.nodes.size, countAtError } }

def pushAll (stack : Stack σ) (version : Nat) (trees : List (Tree σ)) (state : Nat) : Stack σ :=
  trees.foldl (fun stack tree => stack.push version (some tree) state) stack

def settleCount (stack : Stack σ) (version : Nat) : Stack σ :=
  stack.modifyHead version fun head =>
    { head with countAtError := min head.countAtError (stack.node head.node).nodeCount }

def nodesSinceError (stack : Stack σ) (version : Nat) : Nat :=
  (stack.top version).nodeCount - (stack.head version).countAtError

/-- The cost of a reading. One that waits, or that has just met an error, will have
to pay for a recovery. -/
def errorCost (stack : Stack σ) (version : Nat) : Nat :=
  let top := stack.top version
  let met := top.state == 0 && match top.links.head? with
    | some link => link.tree.isNone
    | none => false
  top.cost + if (stack.head version).status.isPaused || met then errorCosts.recovery else 0

def hasAdvanced (stack : Stack σ) (version : Nat) : Bool :=
  let head := stack.head version
  let rec down : Nat → Nat → Bool
    | 0, _ => false
    | fuel + 1, id =>
      let node := stack.node id
      match node.links.head? with
      | some { below, tree := some tree } =>
        if tree.facts.origin < tree.facts.stop then true
        else if head.countAtError < node.nodeCount && tree.cost == 0 then down fuel below
        else false
      | _ => false
  if (stack.node head.node).cost == 0 then true else down stack.nodes.size head.node

section Paths

def pathsBelow (stack : Stack σ) (path : Path σ) : List (Path σ) :=
  (stack.node path.node).links.map fun link =>
    match link.tree with
    | none => { path with node := link.below, depth := path.depth + 1 }
    | some tree =>
      { node := link.below, trees := tree :: path.trees
        depth := if tree.extra then path.depth else path.depth + 1 }

/-- One round over the paths being followed. `α` is carried from one decision to
the next. A path continues in its place with its first link, and with the others
at the end of the list as long as there are few enough paths. -/
def walkRound {α : Type} (stack : Stack σ) (decide : α → Path σ → α × Verdict) :
    List (Path σ) → α → List (Path σ) → List (Path σ) → List (Path σ) →
      α × List (Path σ) × List (Path σ)
  | [], acc, kept, added, taken => (acc, kept.reverse ++ added, taken)
  | path :: rest, acc, kept, added, taken =>
    match decide acc path with
    | (acc, .take) => walkRound stack decide rest acc kept added (taken ++ [path])
    | (acc, .abandon) => walkRound stack decide rest acc kept added taken
    | (acc, .descend) =>
      match stack.pathsBelow path with
      | [] => walkRound stack decide rest acc kept added taken
      | first :: others =>
        let room := stackLimits.paths - (kept.length + 1 + rest.length + added.length)
        walkRound stack decide rest acc (first :: kept) (added ++ others.take room) taken

/-- Follows all paths down from a reading and returns those taken, in the order in
which they were. The graph has no circles, so its size bounds the rounds. -/
def walk {α : Type} (stack : Stack σ) (decide : α → Path σ → α × Verdict) :
    Nat → List (Path σ) → α → List (Path σ) → α × List (Path σ)
  | 0, _, acc, taken => (acc, taken)
  | _ + 1, [], acc, taken => (acc, taken)
  | fuel + 1, paths, acc, taken =>
    let (acc, paths, taken) := walkRound stack decide paths acc [] [] taken
    walk stack decide fuel paths acc taken

def walkFrom {α : Type} (stack : Stack σ) (version : Nat)
    (decide : α → Path σ → α × Verdict) (acc : α) : α × List (Path σ) :=
  walk stack decide (stack.nodes.size + 1)
    [{ node := (stack.head version).node, trees := [], depth := 0 }] acc []

/-- Gives each taken path a head on its lowest node. Paths that end in one node share
a head and stand together. -/
def addSlices (popped : Head σ) :
    List (Path σ) → Array (Head σ) → List (Slice σ) → Array (Head σ) × List (Slice σ)
  | [], heads, slices => (heads, slices)
  | path :: rest, heads, slices =>
    let same := fun (slice : Slice σ) => (heads.getD slice.head default).node == path.node
    match slices.reverse.find? same with
    | some found =>
      let upTo := slices.length - (slices.reverse.takeWhile (!same ·)).length
      let slice := { head := found.head, trees := path.trees }
      addSlices popped rest heads (slices.take upTo ++ slice :: slices.drop upTo)
    | none =>
      let head := { popped with node := path.node, status := .active, landings := none }
      addSlices popped rest (heads.push head)
        (slices ++ [{ head := heads.size, trees := path.trees }])

def pop {α : Type} (stack : Stack σ) (version : Nat)
    (decide : α → Path σ → α × Verdict) (acc : α) : Stack σ × List (Slice σ) :=
  let taken := (stack.walkFrom version decide acc).2
  let (heads, slices) := addSlices (stack.head version) taken stack.heads []
  ({ stack with heads }, slices)

def popCount (stack : Stack σ) (version count : Nat) : Stack σ × List (Slice σ) :=
  stack.pop version (fun _ path => ((), if path.depth = count then .take else .descend)) ()

def popAll (stack : Stack σ) (version : Nat) : Stack σ × List (Slice σ) :=
  stack.pop version
    (fun _ path => ((), if (stack.node path.node).links.isEmpty then .take else .descend)) ()

def popError (stack : Stack σ) (version : Nat) : Stack σ × Option (Tree σ) :=
  let isError := fun (tree : Tree σ) => tree.label == .error
  if (stack.top version).links.any fun link => link.tree.any isError then
    let decide := fun (found : Bool) (path : Path σ) =>
      match path.trees with
      | [] => (found, Verdict.descend)
      | tree :: _ => if !found && isError tree then (true, .take) else (found, .abandon)
    match stack.pop version decide false with
    | (popped, slice :: _) => (popped.renumber slice.head version, slice.trees.head?)
    | (popped, []) => (popped, none)
  else (stack, none)

def landings (stack : Stack σ) (version : Nat) : List Landing :=
  let decide := fun (found : List Landing) (path : Path σ) =>
    if stackLimits.landingDepth < path.depth then (found, Verdict.abandon)
    else
      let node := stack.node path.node
      let level := found.takeWhile fun landing => path.depth ≤ landing.depth
      if level.any fun landing => landing.depth == path.depth && landing.state == node.state then
        (found, .descend)
      else
        ({ place := node.place, position := node.position, depth := path.depth
           state := node.state } :: found, .descend)
  (stack.walkFrom version decide []).1.reverse

end Paths

section Merging
variable [BEq σ]

def canMerge (stack : Stack σ) (first second : Nat) : Bool :=
  let a := stack.head first
  let b := stack.head second
  let x := stack.node a.node
  let y := stack.node b.node
  a.status.isActive && b.status.isActive && x.state == y.state && x.place == y.place &&
    x.cost == y.cost && a.memory == b.memory

/-- Whether two trees over the same text count as one. Two faulty ones do, whatever
is in them. -/
def sameTree : Option (Tree σ) → Option (Tree σ) → Bool
  | none, none => true
  | some a, some b =>
    a.label == b.label &&
      ((0 < a.cost && 0 < b.cost) ||
        (a.facts.start - a.facts.origin == b.facts.start - b.facts.origin &&
          a.facts.stop - a.facts.start == b.facts.stop - b.facts.start &&
          a.children.length == b.children.length && a.extra == b.extra &&
          a.facts.memory == b.facts.memory))
  | _, _ => false

def treePrecedence (tree : Option (Tree σ)) : Int :=
  (tree.map (·.facts.precedence)).getD 0

/-- Adds a link to a node. A link over the same tree to the same node only raises the
precedence; one to a like node is merged with it further down. -/
def addLink : Nat → Stack σ → Nat → Link σ → Stack σ
  | 0, stack, _, _ => stack
  | fuel + 1, stack, id, link =>
    if link.below == id then stack
    else
      let node := stack.node id
      let below := stack.node link.below
      let precedence := below.precedence + treePrecedence link.tree
      let matching := node.links.findIdx? fun existing =>
        sameTree existing.tree link.tree &&
          (existing.below == link.below ||
            (let other := stack.node existing.below
             other.state == below.state && other.place == below.place &&
               other.cost == below.cost))
      let update := fun (stack : Stack σ) (node : StackNode σ) =>
        { stack with nodes := stack.nodes.setIfInBounds id node }
      match matching with
      | some index =>
        let existing := node.links.getD index default
        if existing.below == link.below then
          if treePrecedence existing.tree < treePrecedence link.tree then
            update stack { node with links := node.links.set index link, precedence }
          else stack
        else
          let merged := below.links.foldl (fun stack link => addLink fuel stack existing.below link)
            stack
          update merged { merged.node id with
            precedence := max (merged.node id).precedence precedence }
      | none =>
        if node.links.length < stackLimits.links then
          let count := below.nodeCount + ((link.tree.map (·.nodeCount)).getD 0)
          update stack
            { node with
              links := node.links ++ [link]
              nodeCount := max node.nodeCount count
              precedence := max node.precedence precedence }
        else stack

def merge (stack : Stack σ) (first second : Nat) : Option (Stack σ) :=
  if stack.canMerge first second then
    let target := (stack.head first).node
    let links := (stack.top second).links
    let merged := links.foldl (fun stack link => addLink stack.nodes.size stack target link) stack
    let node := merged.node target
    let merged :=
      if node.state == 0 then
        merged.modifyHead first fun head => { head with countAtError := node.nodeCount }
      else merged
    some (merged.remove second)
  else none

end Merging

end Stack

end SourceAtlas.Syntax
