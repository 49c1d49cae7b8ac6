import SourceAtlas.Python.Automaton.Rows0
import SourceAtlas.Python.Automaton.Rows1
import SourceAtlas.Python.Automaton.Rows2
import SourceAtlas.Python.Automaton.Rows3
import SourceAtlas.Python.Automaton.Rules
import SourceAtlas.Python.Layout

/-! The automaton of Python. A state is written as one number whose fields are, from
the low bits up: the mode, the expected layout tokens, the number of actions, the
actions, and the states after rules. Actions and states after rules are written once
for each set of symbols that share them. -/
namespace SourceAtlas.Python
open SourceAtlas.Syntax

namespace Automaton

/-- A state with its actions by token and the states after symbols of rules. -/
structure State where
  mode : Nat
  expected : Nat
  actions : List (Nat × List Action)
  gotos : List (Nat × Nat)
deriving Inhabited

def symbolSet (id : Nat) : Nat :=
  symbolSets.getD id 0

/-- A rule from its written form, in which the precedence is one more than it is. -/
def rule : Nat × Nat × Nat × List Nat → Rule
  | (symbol, precedence, names, parts) =>
    { symbol
      parts := parts.map symbolSet
      precedence := (precedence : Int) - 1
      aliases := partNames.getD names [] }

def ruleAt (index : Nat) : Rule :=
  (rules[index]?.map rule).getD default

def action (code : Nat) : Option Action :=
  if code = 0 then none
  else if code = 1 then some .accept
  else if code = 2 then some .recover
  else if code = 3 then some .shiftExtra
  else if code < 512 then some (.reduce (ruleAt (code - 4)))
  else some (.shift ((code - 512) / 2) (code % 2 = 1))

/-- The codes of the actions that one code stands for: itself, or the two of a fork. -/
def codes (code : Nat) : List Nat :=
  if code < 8192 then [code]
  else
    let (first, second) := forks.getD (code - 8192) (0, 0)
    [first, second]

def actionGroups : Nat → Nat → List (Nat × List Action) × Nat
  | 0, rest => ([], rest)
  | count + 1, rest =>
    let group := (symbolSet (rest % 1024), (codes (rest / 1024 % 16384)).filterMap action)
    let (groups, rest) := actionGroups count (rest / 0x1000000)
    (group :: groups, rest)

def gotoGroups (rest : Nat) : List (Nat × Nat) :=
  if rest = 0 then []
  else (symbolSet (rest % 1024), rest / 1024 % 16384) :: gotoGroups (rest / 0x1000000)

def state (row : Nat) : State :=
  let (actions, rest) := actionGroups (row / 512 % 128) (row / 0x10000)
  { mode := row % 16, expected := row / 16 % 32, actions, gotos := gotoGroups rest }

def states : Array State :=
  (rows0 ++ rows200 ++ rows400 ++ rows600 ++ rows800 ++ rows1000 ++ rows1200 ++ rows1400 ++
    rows1600 ++ rows1800 ++ rows2000 ++ rows2200 ++ rows2400 ++ rows2600 ++ rows2800).map state

def lookup {α : Type} (symbol : Nat) : List (Nat × α) → Option α
  | [] => none
  | (symbols, value) :: rest => if symbols.testBit symbol then some value else lookup symbol rest

end Automaton

def language : Syntax.Language Memory where
  tokenCount := tokenCount
  appearance := fun symbol => appearances.getD symbol default
  actions := fun state token =>
    (Automaton.lookup token (Automaton.states.getD state default).actions).getD []
  goto := fun state symbol =>
    (Automaton.lookup symbol (Automaton.states.getD state default).gotos).getD 0
  mode := fun state => (Automaton.states.getD state default).mode
  expected := fun state => (Automaton.states.getD state default).expected
  scan := Layout.scan
  read := Lexis.read
  word := Symbol.identifier
  keyword := Lexis.keyword

end SourceAtlas.Python
