import SourceAtlas.Syntax.Stack

/-! Moving readings forward: reading tokens, shifting them and reducing. What a
reading cannot use pauses it; `SourceAtlas.Syntax.Recovery` then decides how to
go on. -/
namespace SourceAtlas.Syntax

/-- The last token read, with where it was read and what the layout scanner
remembered there. -/
structure CachedToken (σ : Type) where
  place : Nat
  memory : Option σ
  token : Tree σ

/-- The parser's state: its readings, the best finished tree with the number of
trees finished, and the last token. -/
structure Parser (σ : Type) where
  stack : Stack σ
  finished : Option (Tree σ)
  finishedCount : Nat
  cache : Option (CachedToken σ)

structure Setting (σ : Type) where
  language : Language σ
  source : Source

abbrev ParseM (σ : Type) := StateM (Parser σ)

namespace Parser
variable {σ : Type} [BEq σ]

def start : Parser σ :=
  { stack := .start, finished := none, finishedCount := 0, cache := none }

def fuelFor (source : Source) : Nat :=
  1000 * (source.size + 100)

def modifyStack (change : Stack σ → Stack σ) : ParseM σ Unit :=
  modify fun parser => { parser with stack := change parser.stack }

def ofStack {α : Type} (view : Stack σ → α) : ParseM σ α :=
  return view (← get).stack

def tryMerge (first second : Nat) : ParseM σ Bool := do
  match (← get).stack.merge first second with
  | some stack => modifyStack (fun _ => stack); return true
  | none => return false

def mergeInto (candidates : List Nat) (version : Nat) : ParseM σ Bool :=
  candidates.anyM fun candidate => tryMerge candidate version

def nodesSinceError (version : Nat) : ParseM σ Nat := do
  modifyStack (·.settleCount version)
  ofStack (·.nodesSinceError version)

section Tokens

/-- What a token's symbol does in a state; text that is no token does nothing. -/
def actionsFor (language : Language σ) (state : Nat) (token : Tree σ) : List Action :=
  match token.token? with
  | some id => language.actions state id
  | none => []

/-- Reads with the layout scanner. Where the parser is recovering, a token that
takes no room and teaches the scanner nothing is as good as none. -/
def scanToken (setting : Setting σ) (version expected place : Nat) (recovering : Bool) :
    ParseM σ (Option (Scan σ × Bool)) := do
  let stack := (← get).stack
  let memory := (stack.head version).memory
  match setting.language.scan expected setting.source place memory with
  | none => return none
  | some scan =>
    let renewed := !(memory == some scan.memory)
    let idle := scan.lexeme.stop ≤ place && (recovering || !stack.hasAdvanced version) && !renewed
    return if idle then none else some (scan, renewed)

/-- A token as it is read: the reader goes on from `position`, over the blanks from
`origin` on and then over the token. -/
def measuredToken (setting : Setting σ) (label : Label) (position : Length)
    (origin start stop state : Nat) : Tree σ :=
  let first := setting.source.advance position origin start
  let last := setting.source.advance first start stop
  Tree.ofLexeme setting.language label origin start stop (first - position) (last - first) state

def scannedToken (setting : Setting σ) (position : Length) (origin state : Nat) (scan : Scan σ)
    (renewed : Bool) : Tree σ :=
  match measuredToken setting (.symbol scan.lexeme.symbol) position origin scan.lexeme.start
      scan.lexeme.stop state with
  | .mk facts children => .mk { facts with memory := some scan.memory, renewed } children

/-- A token of the text. A word that spells a keyword is one where the state has a
use for it. -/
def plainToken (setting : Setting σ) (position : Length) (origin state : Nat) (lexeme : Lexeme) :
    Tree σ :=
  let language := setting.language
  let build := fun symbol keyword =>
    match measuredToken setting (.symbol symbol) position origin lexeme.start lexeme.stop state with
    | .mk facts children => Tree.mk { facts with keyword } children
  if lexeme.symbol == language.word then
    match language.keyword setting.source lexeme.start lexeme.stop with
    | some keyword => build (if language.accepts state keyword then keyword else lexeme.symbol) true
    | none => build lexeme.symbol false
  else build lexeme.symbol false

/-- Skips text until a token can be read again, and makes an error of it. `first` is
where the skipped text starts, `last` where it ends so far. -/
def skipToToken (setting : Setting σ) (version : Nat) (position : Length)
    (origin state first : Nat) : Nat → (last reached : Nat) → ParseM σ (Tree σ)
  | 0, last, _ => return measuredToken setting .error position origin first last state
  | fuel + 1, last, reached => do
    let whole := fun stop => measuredToken setting .error position origin first stop state
    if reached = last && setting.source.atEnd reached then return whole last
    else
      let place := if reached = last then reached + 1 else reached
      match ← scanToken setting version (setting.language.expected 0) place true with
      | some _ => return whole place
      | none =>
        match setting.language.read (setting.language.mode 0) setting.source place with
        | .found _ => return whole place
        | .stuck _ reached =>
          skipToToken setting version position origin state first fuel place reached

/-- One attempt to read a token: the layout scanner goes first. If both fail, where
the token would have started and the place reached. -/
def attemptToken (setting : Setting σ) (version state mode expected : Nat) (recovering : Bool) :
    ParseM σ (Except (Nat × Nat) (Tree σ)) := do
  let origin ← ofStack (·.place version)
  let position ← ofStack (·.position version)
  match ← scanToken setting version expected origin recovering with
  | some (scan, renewed) => return .ok (scannedToken setting position origin state scan renewed)
  | none =>
    match setting.language.read mode setting.source origin with
    | .found lexeme => return .ok (plainToken setting position origin state lexeme)
    | .stuck start reached => return .error (start, reached)

/-- The next token for a reading. Where the tokens that a state looks for are not to
be found, any token will do. -/
def readToken (setting : Setting σ) (version state : Nat) : ParseM σ (Tree σ) := do
  let language := setting.language
  let anyToken := attemptToken setting version state (language.mode 0) (language.expected 0) true
  let own :=
    attemptToken setting version state (language.mode state) (language.expected state) false
  let found ← if state == 0 then anyToken else do
    match ← own with
    | .ok token => return token
    | .error _ => anyToken
  match found with
  | .ok token => return token
  | .error (start, reached) =>
    let origin ← ofStack (·.place version)
    let position ← ofStack (·.position version)
    skipToToken setting version position origin state start (setting.source.size + 1) start reached

/-- Whether a token read in one state is also what another state would have read:
both look for the same tokens and the token is of use. A word may be a keyword in
another state. -/
def reusable (language : Language σ) (state : Nat) (token : Tree σ) : Bool :=
  let readIn := token.facts.state
  !(actionsFor language state token).isEmpty &&
    language.mode readIn == language.mode state &&
    language.expected readIn == language.expected state &&
    (token.label != .symbol language.word || (!token.facts.keyword && readIn == state))

def nextToken (setting : Setting σ) (version state : Nat) : ParseM σ (Tree σ) := do
  let stack := (← get).stack
  let place := stack.place version
  let memory := (stack.head version).memory
  let cached := (← get).cache.filter fun cached =>
    cached.place == place && cached.memory == memory && reusable setting.language state cached.token
  match cached with
  | some cached => return cached.token
  | none =>
    let token ← readToken setting version state
    modify fun parser => { parser with cache := some { place, memory, token } }
    return token

end Tokens

section Reductions

def ruleTree (setting : Setting σ) (rule : Rule) (children : List (Tree σ)) (place : Nat) :
    Tree σ :=
  let visible := (setting.language.appearance rule.symbol).visible
  Tree.ofChildren (.symbol rule.symbol) visible rule.aliases place children

def chooseChildren (setting : Setting σ) (rule : Rule) (place : Nat) (first : List (Tree σ))
    (others : List (List (Tree σ))) : List (Tree σ) × List (Tree σ) :=
  others.foldl
    (fun best trees =>
      let candidate := Tree.splitExtras trees
      let better := (ruleTree setting rule best.1 place).prefersSecond
        (ruleTree setting rule candidate.1 place)
      if better then candidate else best)
    (Tree.splitExtras first)

def reduceGroups (setting : Setting σ) (version : Nat) (rule : Rule) :
    List (List (Slice σ)) → (removed : Nat) → ParseM σ Unit
  | [], _ => return
  | group :: rest, removed => do
    match group with
    | [] => reduceGroups setting version rule rest removed
    | slice :: others =>
      let target := slice.head - removed
      let place ← ofStack (·.place target)
      let (children, extras) :=
        chooseChildren setting rule place slice.trees (others.map (·.trees))
      if stackLimits.heads + stackLimits.overflow < target || !Tree.fits rule.parts children then
        modifyStack (·.remove target)
        reduceGroups setting version rule rest (removed + 1)
      else
        let built := ruleTree setting rule children place
        let built := match built with
          | .mk facts children =>
            Tree.mk { facts with precedence := facts.precedence + rule.precedence } children
        let state ← ofStack (·.state target)
        let next := setting.language.next state rule.symbol
        modifyStack (·.pushAll target (built :: extras) next)
        let merged ← mergeInto ((List.range target).filter (· != version)) target
        reduceGroups setting version rule rest (if merged then removed + 1 else removed)

/-- Applies a rule on top of a reading, along every path below it. The results are
new readings; the first of them is returned. -/
def reduce (setting : Setting σ) (version : Nat) (rule : Rule) : ParseM σ (Option Nat) := do
  let before ← ofStack (·.heads.size)
  let (stack, slices) ← ofStack (·.popCount version rule.parts.length)
  modifyStack fun _ => stack
  reduceGroups setting version rule (slices.splitBy fun a b => a.head == b.head) 0
  let after ← ofStack (·.heads.size)
  return if before < after then some before else none

end Reductions

/-- Finishes a reading at the end of the text. The root takes up the extras around
it, and the best of all finished trees is kept. -/
def accept (version : Nat) (lookahead : Tree σ) : ParseM σ Unit := do
  modifyStack (·.push version (some lookahead) 1)
  let (stack, slices) ← ofStack (·.popAll version)
  modifyStack fun _ => stack
  for slice in slices do
    let after := (slice.trees.reverse.takeWhile Tree.extra).reverse
    let upTo := slice.trees.take (slice.trees.length - after.length)
    match upTo.getLast? with
    | none => pure ()
    | some tree =>
      let root := Tree.ofChildren tree.label tree.facts.visible tree.facts.aliases 0
        (upTo.dropLast ++ tree.children ++ after)
      modify fun parser =>
        let keep := match parser.finished with
          | some other => if other.prefersSecond root then root else other
          | none => root
        { parser with finished := some keep, finishedCount := parser.finishedCount + 1 }
  match slices with
  | slice :: _ => modifyStack (·.remove slice.head)
  | [] => pure ()
  modifyStack (·.halt version)

def shift (version state : Nat) (token : Tree σ) (extra : Bool) : ParseM σ Unit := do
  modifyStack (·.push version (some (token.withExtra extra)) state)
  if token.facts.memory.isSome then
    modifyStack (·.modifyHead version fun head => { head with memory := token.facts.memory })

end Parser

end SourceAtlas.Syntax
