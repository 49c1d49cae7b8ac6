import SourceAtlas.Syntax.Source

/-! A language as an automaton sees it: symbols, the rules that join them, what
to do with each token in each state, and how tokens are read off a text.

Symbols and states are numbers. Symbol 0 is the end of the text, the tokens come
first, and state 0 is the one in which the parser looks for a way out of an
error; state 1 is where a text begins. -/
namespace SourceAtlas.Syntax

/-- How a symbol appears in the finished tree. A hidden symbol leaves no node;
a node that is not named stands for a fixed piece of text. -/
structure Appearance where
  name : String
  visible : Bool
  named : Bool
deriving Inhabited

/-- A rule builds a tree for `symbol` out of its parts. Each part is given by
the set of symbols that it may be, as a bit mask; `aliases` renames parts by
their index. -/
structure Rule where
  symbol : Nat
  parts : List Nat
  precedence : Int
  aliases : List (Option Appearance)
deriving Inhabited

/-- What to do with a token. A repeating shift only continues a list that is
already being built, and is never taken by itself. -/
inductive Action where
  | shift (state : Nat) (repeating : Bool)
  | shiftExtra
  | reduce (rule : Rule)
  | accept
  | recover

/-- A token with the place where it starts, after what is skipped, and its end. -/
structure Lexeme where
  symbol : Nat
  start : Nat
  stop : Nat

/-- The outcome of reading a token: found, or stuck, with the place where it would
have started and the place that was reached. -/
inductive Reading where
  | found (lexeme : Lexeme)
  | stuck (start reached : Nat)

/-- A token read by the layout scanner, which remembers `σ` from one such token to
the next. -/
structure Scan (σ : Type) where
  lexeme : Lexeme
  memory : σ

/-- A language: its symbols, its automaton and its two ways of reading tokens. -/
structure Language (σ : Type) where
  /-- Symbols below this number are tokens. -/
  tokenCount : Nat
  appearance : Nat → Appearance
  /-- What a state does with a token. -/
  actions : (state token : Nat) → List Action
  /-- The state after a rule's symbol, 0 where there is none. -/
  goto : (state symbol : Nat) → Nat
  /-- Which tokens are looked for in a state. -/
  mode : (state : Nat) → Nat
  /-- Which tokens of the layout scanner are looked for in a state. -/
  expected : (state : Nat) → Nat
  /-- The layout scanner, asked first. -/
  scan : (expected : Nat) → Source → (place : Nat) → Option σ → Option (Scan σ)
  read : (mode : Nat) → Source → (place : Nat) → Reading
  /-- The token of plain words. -/
  word : Nat
  /-- The keyword, if any, that a word spells. -/
  keyword : Source → (start stop : Nat) → Option Nat

namespace Language
variable {σ : Type}

def shiftState (language : Language σ) (state token : Nat) : Nat :=
  match (language.actions state token).getLast? with
  | some (.shift target _) => target
  | some .shiftExtra => state
  | _ => 0

def next (language : Language σ) (state symbol : Nat) : Nat :=
  if symbol < language.tokenCount then language.shiftState state symbol
  else language.goto state symbol

def accepts (language : Language σ) (state token : Nat) : Bool :=
  !(language.actions state token).isEmpty

def reduces (language : Language σ) (state token : Nat) : Bool :=
  match language.actions state token with
  | .reduce _ :: _ => true
  | _ => false

end Language

end SourceAtlas.Syntax
