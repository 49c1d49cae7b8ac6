import SourceAtlas.Syntax.Language

/-! Trees as the parser builds them, hidden symbols included. Each tree carries
what is needed of it without looking inside: where it stands, how bad its errors
are, and how much of it will be visible. -/
namespace SourceAtlas.Syntax

/-- What a tree stands for: a symbol, text that no rule covers, or such pieces of
text gathered while the parser is still recovering. -/
inductive Label where
  | symbol (id : Nat)
  | error
  | gathered
deriving DecidableEq, Inhabited

/-- The facts about a tree. `origin` is where the blanks in front of it start;
`padding` is how far they go and `size` how far the tree itself does. The fields
from `missing` to `renewed` only mean something for a token: it stands for one that
is missing, it spells a keyword, the state that read it, what the layout scanner
remembers after it (if that scanner read it) and whether it remembers something
new. -/
structure Facts (σ : Type) where
  label : Label
  origin : Nat
  start : Nat
  stop : Nat
  padding : Length
  size : Length
  visible : Bool
  extra : Bool
  cost : Nat
  precedence : Int
  visibleChildren : Nat
  visibleDescendants : Nat
  aliases : List (Option Appearance)
  missing : Bool
  keyword : Bool
  state : Nat
  memory : Option σ
  renewed : Bool
deriving Inhabited

/-- A tree with its facts and its children in order. -/
inductive Tree (σ : Type) where
  | mk (facts : Facts σ) (children : List (Tree σ))
deriving Inhabited

/-- What errors cost. The parser prefers the reading with the least cost. -/
structure ErrorCosts where
  recovery : Nat
  missing : Nat
  skippedTree : Nat
  skippedByte : Nat
  skippedLine : Nat

/-- A stretch of skipped text costs a fixed part, a part for each tree in it and
one for its length. -/
def errorCosts : ErrorCosts :=
  { recovery := 500, missing := 110, skippedTree := 100, skippedByte := 1, skippedLine := 30 }

namespace Label

def isError : Label → Bool
  | .symbol _ => false
  | _ => true

def rank : Label → Nat
  | .symbol id => id
  | .gathered => 65534
  | .error => 65535

end Label

namespace Tree
variable {σ : Type}

def facts : Tree σ → Facts σ
  | .mk facts _ => facts

def children : Tree σ → List (Tree σ)
  | .mk _ children => children

def label (tree : Tree σ) : Label := tree.facts.label

def extra (tree : Tree σ) : Bool := tree.facts.extra

def token? (tree : Tree σ) : Option Nat :=
  match tree.label with
  | .symbol id => some id
  | _ => none

/-- How far a tree goes with the blanks in front of it. -/
def total (tree : Tree σ) : Length := tree.facts.padding + tree.facts.size

def isEnd (tree : Tree σ) : Bool := tree.label = .symbol 0

def cost (tree : Tree σ) : Nat :=
  if tree.facts.missing then errorCosts.missing + errorCosts.recovery else tree.facts.cost

/-- The visible nodes of a tree, itself included. Gathered errors count as one:
they show that the parser has moved on. -/
def nodeCount (tree : Tree σ) : Nat :=
  tree.facts.visibleDescendants + (if tree.facts.visible then 1 else 0) +
    (if tree.label = .gathered then 1 else 0)

/-- The same tree, as one that may stand between any two parts of a rule, or not. -/
def withExtra (extra : Bool) : Tree σ → Tree σ
  | .mk facts children => .mk { facts with extra } children

/-- A token. The end of the text never counts as a part of a rule. -/
def ofLexeme (language : Language σ) (label : Label) (origin start stop : Nat)
    (padding size : Length) (state : Nat) : Tree σ :=
  let visible := match label with
    | .symbol id => (language.appearance id).visible
    | .error => true
    | .gathered => false
  .mk { label, origin, start, stop, padding, size, visible, extra := label = .symbol 0, cost := 0
        precedence := 0, visibleChildren := 0, visibleDescendants := 0, aliases := []
        missing := false, keyword := false, state, memory := none, renewed := false } []

def ofMissing (language : Language σ) (symbol place : Nat) : Tree σ :=
  match ofLexeme language (.symbol symbol) place place place 0 0 0 with
  | .mk facts children => .mk { facts with missing := true } children

/-- Adds a child, the `index`-th of those that are not extras, to what is known
about its parent's visible nodes. -/
def countChild (facts : Facts σ) (renamed : Bool) (child : Tree σ) : Facts σ :=
  let inside := child.facts.visibleDescendants
  if renamed || child.facts.visible then
    { facts with
      visibleDescendants := facts.visibleDescendants + inside + 1
      visibleChildren := facts.visibleChildren + 1 }
  else
    { facts with
      visibleDescendants := facts.visibleDescendants + inside
      visibleChildren := facts.visibleChildren +
        (if child.children.isEmpty then 0 else child.facts.visibleChildren) }

/-- What a child adds to the cost of the error that holds it: visible trees in it
are work thrown away. -/
def skippedCost (child : Tree σ) : Nat :=
  if child.extra || (child.label = .error && child.children.isEmpty) then 0
  else if child.facts.visible then errorCosts.skippedTree
  else if child.children.isEmpty then 0
  else errorCosts.skippedTree * child.facts.visibleChildren

/-- Takes a child into account. The cost of gathered errors is counted again by
what gathers them, so it is not added. -/
def addChild (facts : Facts σ) (aliases : List (Option Appearance)) (child : Tree σ) :
    Facts σ × List (Option Appearance) :=
  let renamed := !child.extra && (aliases.head?.join).isSome
  let facts := countChild facts renamed child
  let passedOn := if child.label = .gathered then 0 else child.cost
  let thrownAway := if facts.label.isError then skippedCost child else 0
  ({ facts with
      cost := facts.cost + passedOn + thrownAway
      precedence := facts.precedence + child.facts.precedence
      stop := child.facts.stop },
    if child.extra then aliases else aliases.tail)

/-- How far trees go that stand one after the other, from where the first one starts. -/
def sizeOfAll : List (Tree σ) → Length
  | [] => 0
  | first :: rest => rest.foldl (fun size child => size + child.total) first.facts.size

/-- A tree over children that stand one after the other; without any it stands at
`place`. -/
def ofChildren (label : Label) (visible : Bool) (aliases : List (Option Appearance)) (place : Nat)
    (children : List (Tree σ)) : Tree σ :=
  let first := children.head?
  let origin := (first.map (·.facts.origin)).getD place
  let start := (first.map (·.facts.start)).getD place
  let padding := (first.map (·.facts.padding)).getD 0
  let size := sizeOfAll children
  let empty : Facts σ :=
    { label, origin, start, stop := start, padding, size, visible, extra := false, cost := 0
      precedence := 0, visibleChildren := 0, visibleDescendants := 0, aliases, missing := false
      keyword := false, state := 0, memory := none, renewed := false }
  let facts := (children.foldl (fun acc child => addChild acc.1 acc.2 child) (empty, aliases)).1
  let ownCost :=
    if label.isError then
      errorCosts.recovery + errorCosts.skippedByte * size.bytes + errorCosts.skippedLine * size.row
    else 0
  .mk { facts with cost := facts.cost + ownCost } children

def error (extra : Bool) (place : Nat) (children : List (Tree σ)) : Tree σ :=
  (ofChildren .error true [] place children).withExtra extra

def gathered (place : Nat) (children : List (Tree σ)) : Tree σ :=
  ofChildren .gathered false [] place children

/-- The children a rule's tree may be built from: part by part a symbol that the
rule allows, extras aside. -/
def fits (parts : List Nat) (children : List (Tree σ)) : Bool :=
  match children with
  | [] => parts.isEmpty
  | child :: rest =>
    if child.extra then fits parts rest
    else
      match parts, child.token? with
      | part :: parts, some id => part.testBit id && fits parts rest
      | _, _ => false

mutual

def compare : Tree σ → Tree σ → Ordering
  | .mk left leftChildren, .mk right rightChildren =>
    (Ord.compare left.label.rank right.label.rank).then
      ((Ord.compare leftChildren.length rightChildren.length).then
        (compareAll leftChildren rightChildren))

def compareAll : List (Tree σ) → List (Tree σ) → Ordering
  | left :: lefts, right :: rights => (compare left right).then (compareAll lefts rights)
  | _, _ => .eq

end

/-- Whether the second of two readings of the same text is to be preferred: the one
with fewer errors, else the one with more precedence, else the smaller tree. Of two
equally faulty readings the later wins. -/
def prefersSecond (first second : Tree σ) : Bool :=
  if second.cost < first.cost then true
  else if first.cost < second.cost then false
  else if first.facts.precedence < second.facts.precedence then true
  else if second.facts.precedence < first.facts.precedence then false
  else if 0 < first.cost then true
  else compare first second = .gt

def splitExtras (trees : List (Tree σ)) : List (Tree σ) × List (Tree σ) :=
  let extras := (trees.reverse.takeWhile extra).reverse
  (trees.take (trees.length - extras.length), extras)

end Tree

end SourceAtlas.Syntax
