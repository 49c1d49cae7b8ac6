import SourceAtlas.Syntax.Parser

/-! Going on after an error. A reading that met a token it cannot use either acts
as if a missing token were there, returns to an earlier state that can use the
token, or skips the token. All ways are followed as long as none is clearly
better; readings are compared by the cost of their errors. -/
namespace SourceAtlas.Syntax

structure Standing where
  cost : Nat
  nodeCount : Nat
  precedence : Int
  failing : Bool

/-- The outcome of a comparison: one side wins outright, is only preferred, or
neither. -/
inductive Comparison where
  | takeLeft
  | preferLeft
  | same
  | preferRight
  | takeRight
deriving DecidableEq

namespace Standing

/-- A difference in cost decides outright once the better side has gone on for long
enough. -/
def decisive (difference nodeCount : Nat) : Bool :=
  16 * errorCosts.skippedTree < difference * (1 + nodeCount)

def compare (left right : Standing) : Comparison :=
  if !left.failing && right.failing then
    if left.cost < right.cost then .takeLeft else .preferLeft
  else if left.failing && !right.failing then
    if right.cost < left.cost then .takeRight else .preferRight
  else if left.cost < right.cost then
    if decisive (right.cost - left.cost) left.nodeCount then .takeLeft else .preferLeft
  else if right.cost < left.cost then
    if decisive (left.cost - right.cost) right.nodeCount then .takeRight else .preferRight
  else if right.precedence < left.precedence then .preferLeft
  else if left.precedence < right.precedence then .preferRight
  else .same

end Standing

namespace Parser
variable {σ : Type} [BEq σ]

def standing (version : Nat) : ParseM σ Standing := do
  let nodeCount ← nodesSinceError version
  let stack := (← get).stack
  let paused := (stack.head version).status.isPaused
  return {
    cost := stack.errorCost version + if paused then errorCosts.skippedTree else 0
    nodeCount
    precedence := (stack.top version).precedence
    failing := paused || stack.state version == 0 }

/-- Whether a reading that came to a cost would be beaten by one that is at least as
far, or by a finished tree. -/
def isBeaten (version cost : Nat) : ParseM σ Bool := do
  if (← get).finished.any fun tree => tree.cost ≤ cost then return true
  let nodeCount ← nodesSinceError version
  let stack := (← get).stack
  let own : Standing :=
    { cost, nodeCount, precedence := (stack.top version).precedence, failing := false }
  (List.range stack.heads.size).anyM fun other => do
    let stack := (← get).stack
    if other == version || !stack.isActive other || stack.place other < stack.place version then
      return false
    match own.compare (← standing other) with
    | .takeRight => return true
    | .preferRight => return stack.canMerge other version
    | _ => return false

section Reductions

/-- The rules that a state applies for some of the tokens, each once, and whether it
shifts one of them. Two rules for one symbol with equally many parts count as one. -/
def possibleActions (language : Language σ) (state : Nat) (tokens : List Nat) :
    List Rule × Bool :=
  let step := fun (found : List Rule × Bool) (action : Action) =>
    match action with
    | .shift _ repeating => (found.1, found.2 || !repeating)
    | .recover => (found.1, true)
    | .reduce rule =>
      let known := found.1.any fun other =>
        other.symbol == rule.symbol && other.parts.length == rule.parts.length
      if rule.parts.isEmpty || known then found else (found.1 ++ [rule], found.2)
    | _ => found
  tokens.foldl (fun found token => (language.actions state token).foldl step found) ([], false)

/-- Applies all rules that could be applied in a reading for some of the tokens, and
in the readings that come of it. Tells whether one of them can then shift such a
token. With a single token, `exact`, readings that cannot use it are dropped. -/
def applyPossibleRules (setting : Setting σ) (starting : Nat) (tokens : List Nat) (exact : Bool)
    (initial : Nat) : Nat → (version round : Nat) → (shifts : Bool) → ParseM σ Bool
  | 0, _, _, shifts => return shifts
  | fuel + 1, version, round, shifts => do
    let count ← ofStack (·.heads.size)
    if count ≤ version then return shifts
    let earlier := (List.range version).filter (initial ≤ ·)
    if ← mergeInto earlier version then
      applyPossibleRules setting starting tokens exact initial fuel version (round + 1) shifts
    else
      let state ← ofStack (·.state version)
      let (rules, canShift) := possibleActions setting.language state tokens
      let results ← rules.mapM (reduce setting version)
      let after := if version == starting then count else version + 1
      let next := fun version shifts =>
        applyPossibleRules setting starting tokens exact initial fuel version (round + 1) shifts
      if canShift then next after true
      else
        match results.getLast?.join with
        | some result =>
          if round < stackLimits.heads then
            modifyStack (·.renumber result version)
            next version shifts
          else do
            if exact then modifyStack (·.remove version)
            next after shifts
        | none => do
          if exact then modifyStack (·.remove version)
          next after shifts

def applyRulesForAny (setting : Setting σ) (version : Nat) : ParseM σ Bool := do
  let initial ← ofStack (·.heads.size)
  let tokens := (List.range setting.language.tokenCount).drop 1
  applyPossibleRules setting version tokens false initial 1000 version 0 false

def applyRulesFor (setting : Setting σ) (version token : Nat) : ParseM σ Bool := do
  let initial ← ofStack (·.heads.size)
  if token == 0 then applyRulesForAny setting version
  else applyPossibleRules setting version [token] true initial 1000 version 0 false

end Reductions

/-- Returns to an earlier state, making an error of what was read since. Paths that
do not lead there are given up. -/
def returnTo (version depth goal : Nat) : ParseM σ Bool := do
  let (stack, slices) ← ofStack (·.popCount version depth)
  modifyStack fun _ => stack
  let rec go : List (Slice σ) → Option Nat → ParseM σ (Option Nat)
    | [], previous => return previous
    | slice :: rest, previous => do
      if previous == some slice.head then go rest previous
      else if (← ofStack (·.state slice.head)) != goal then
        modifyStack (·.halt slice.head)
        go rest previous
      else
        let (stack, error) ← ofStack (·.popError slice.head)
        modifyStack fun _ => stack
        let joined := (error.map (·.children)).getD [] ++ slice.trees
        let (skipped, extras) := Tree.splitExtras joined
        let place ← ofStack (·.place slice.head)
        let error := if skipped.isEmpty then [] else [Tree.error true place skipped]
        modifyStack (·.pushAll slice.head (error ++ extras) goal)
        go rest (some slice.head)
  return (← go slices none).isSome

def returnToLanding (setting : Setting σ) (version : Nat) (lookahead : Tree σ)
    (heads sinceError cost : Nat) : List Landing → ParseM σ Bool
  | [] => return false
  | landing :: rest => do
    let stack := (← get).stack
    let place := stack.place version
    let depth := if 0 < sinceError then landing.depth + 1 else landing.depth
    let redundant := (List.range heads).any fun other =>
      stack.state other == landing.state && stack.place other == place
    if landing.state == 0 || landing.place == place || redundant then
      returnToLanding setting version lookahead heads sinceError cost rest
    else
      let passed := stack.position version - landing.position
      let skipped := passed.bytes * errorCosts.skippedByte + passed.row * errorCosts.skippedLine
      if ← isBeaten version (cost + skipped) then return false
      else if !(actionsFor setting.language landing.state lookahead).isEmpty then
        if ← returnTo version depth landing.state then return true
        else returnToLanding setting version lookahead heads sinceError cost rest
      else returnToLanding setting version lookahead heads sinceError cost rest

/-- Drops the readings from `first` on that were given up. -/
def dropHalted (first : Nat) : ParseM σ Unit :=
  modifyStack fun stack =>
    let heads := stack.heads.toList
    let kept := (heads.drop first).filter (·.status.isActive)
    { stack with heads := (heads.take first ++ kept).toArray }

def skipToken (setting : Setting σ) (version : Nat) (lookahead : Tree σ) (sinceError : Nat) :
    ParseM σ Unit := do
  let extra := match (actionsFor setting.language 1 lookahead).getLast? with
    | some .shiftExtra => true
    | _ => lookahead.extra
  let token := lookahead.withExtra extra
  let place ← ofStack (·.place version)
  let gathered := Tree.gathered place [token]
  let joined ← do
    if sinceError == 0 then pure gathered
    else
      let (stack, slices) ← ofStack (·.popCount version 1)
      match slices with
      | [] => pure gathered
      | slice :: _ =>
        let stack := { stack with heads := stack.heads.take (slice.head + 1) }
        modifyStack fun _ => stack.renumber slice.head version
        pure (Tree.gathered place (slice.trees ++ [gathered]))
  modifyStack (·.push version (some joined) 0)
  if token.facts.memory.isSome then
    modifyStack (·.modifyHead version fun head => { head with memory := token.facts.memory })

/-- Goes on from an error with a token: returns to an earlier state where that is
possible, and also skips the token unless that is clearly worse or the token
changes what the layout scanner remembers. At the end of the text everything
becomes one error. -/
def recover (setting : Setting σ) (version : Nat) (lookahead : Tree σ) : ParseM σ Unit := do
  let heads ← ofStack (·.heads.size)
  let sinceError ← nodesSinceError version
  let stack := (← get).stack
  let cost := stack.errorCost version
  let landings := (stack.head version).landings.getD []
  let returned ←
    if lookahead.label == .error then pure false
    else returnToLanding setting version lookahead heads sinceError cost landings
  dropHalted heads
  let count ← ofStack (·.heads.size)
  if returned && (stackLimits.heads < count || lookahead.facts.renewed) then
    modifyStack (·.halt version)
  else if lookahead.isEnd then
    let place ← ofStack (·.place version)
    modifyStack (·.push version (some (Tree.error false place [])) 1)
    accept version lookahead
  else
    let passed := lookahead.total
    let skipped := errorCosts.skippedTree + passed.bytes * errorCosts.skippedByte +
      passed.row * errorCosts.skippedLine
    if ← isBeaten version (cost + skipped) then modifyStack (·.halt version)
    else skipToken setting version lookahead sinceError

/-- Tries the tokens in order as one that is missing in front of the lookahead, until
one lets the reading go on. -/
def insertMissing (setting : Setting σ) (version place : Nat) (lookahead : Tree σ) :
    List Nat → ParseM σ Bool
  | [] => return false
  | token :: rest => do
    let language := setting.language
    let state ← ofStack (·.state version)
    let after := language.shiftState state token
    let useful := match lookahead.token? with
      | some id => language.reduces after id
      | none => false
    if after == 0 || after == state || !useful then
      insertMissing setting version place lookahead rest
    else
      let copy ← ofStack (·.heads.size)
      modifyStack (·.copy version)
      modifyStack (·.push copy (some (Tree.ofMissing language token place)) after)
      if ← applyRulesFor setting copy (lookahead.token?.getD 0) then return true
      else insertMissing setting version place lookahead rest

/-- Marks an error in each of some readings; for the first of them that a missing
token helps, a reading with it is added. -/
def markErrors (setting : Setting σ) (place : Nat) (lookahead : Tree σ) :
    List Nat → Bool → ParseM σ Unit
  | [], _ => return
  | version :: rest, inserted => do
    let tokens := (List.range setting.language.tokenCount).drop 1
    let inserted ←
      if inserted then pure true
      else insertMissing setting version place lookahead tokens
    modifyStack (·.push version none 0)
    markErrors setting place lookahead rest inserted

/-- Begins to recover a reading from a token that it cannot use. All rules that may
apply are tried first, since a later token may ask for any of them; the readings
that come of it are merged into one. -/
def handleError (setting : Setting σ) (version : Nat) (lookahead : Tree σ) : ParseM σ Unit := do
  let before ← ofStack (·.heads.size)
  let _ ← applyRulesForAny setting version
  let after ← ofStack (·.heads.size)
  let place ← ofStack (·.place version)
  let added := (List.range after).drop before
  markErrors setting place lookahead (version :: added) false
  for _ in added do
    let _ ← tryMerge version before
  modifyStack fun stack =>
    stack.modifyHead version fun head => { head with landings := some (stack.landings version) }
  recover setting version lookahead

section Condensing

/-- Compares each reading with those before it: drops the ones that are clearly worse,
merges those that agree and moves better ones forward. Returns the least cost of
a reading that is not failing. -/
def condenseFrom : Nat → (version : Nat) → (least : Option Nat) → ParseM σ (Option Nat)
  | 0, _, least => return least
  | fuel + 1, version, least => do
    let stack := (← get).stack
    if stack.heads.size ≤ version then return least
    else if (stack.head version).status.isHalted then
      modifyStack (·.remove version)
      condenseFrom fuel version least
    else
      let own ← standing version
      let least := if own.failing then least else some (min own.cost (least.getD own.cost))
      let rec against : Nat → Nat → Nat → ParseM σ Nat
        | 0, version, _ => return version + 1
        | fuel + 1, version, other => do
          if version ≤ other then return version + 1
          match (← standing other).compare own with
          | .takeLeft =>
            modifyStack (·.remove version)
            return version
          | .preferLeft | .same =>
            if ← tryMerge other version then return version
            else against fuel version (other + 1)
          | .preferRight =>
            if ← tryMerge other version then return version
            else
              modifyStack (·.swap version other)
              against fuel version (other + 1)
          | .takeRight =>
            modifyStack (·.remove other)
            against fuel (version - 1) other
      let next ← against (2 * stack.heads.size + 1) version 0
      condenseFrom fuel next least

/-- Wakes the first reading, if it waits and no earlier one goes on; those that wait
behind one that goes on are dropped. -/
def resumeFrom (setting : Setting σ) :
    Nat → (version count : Nat) → (going : Bool) → (least : Option Nat) → ParseM σ (Option Nat)
  | 0, _, _, _, least => return least
  | fuel + 1, version, count, going, least => do
    if count ≤ version then return least
    else
      let parser ← get
      match (parser.stack.head version).status with
      | .paused lookahead =>
        if !going && parser.finishedCount < stackLimits.heads then
          let least := some (parser.stack.errorCost version)
          modifyStack (·.modifyHead version fun head => { head with status := .active })
          handleError setting version lookahead
          resumeFrom setting fuel (version + 1) count true least
        else
          modifyStack (·.remove version)
          resumeFrom setting fuel version (count - 1) going least
      | _ => resumeFrom setting fuel (version + 1) count true least

/-- Orders and thins out the readings, and starts the recovery of the best one if all
of them wait. -/
def condense (setting : Setting σ) : ParseM σ (Option Nat) := do
  let least ← condenseFrom 1000 0 none
  modifyStack fun stack => { stack with heads := stack.heads.take stackLimits.heads }
  let count ← ofStack (·.heads.size)
  resumeFrom setting (count + 1) 0 count false least

end Condensing

section Running

/-- What became of a step: the reading has shifted, finished or stopped, or it was
reduced and goes on with the same token. -/
inductive Progress where
  | done
  | again

/-- Tries the actions for a token in turn. Reductions make new readings; a shift ends
the step. The last new reading made is returned. -/
def tryActions (setting : Setting σ) (version state : Nat) (token : Tree σ) :
    List Action → (last : Option Nat) → ParseM σ (Option (Option Nat))
  | [], last => return some last
  | action :: rest, last => do
    match action with
    | .shift _ true => tryActions setting version state token rest last
    | .shift target false => shift version target token false; return none
    | .shiftExtra => shift version state token true; return none
    | .accept => accept version token; return none
    | .recover => recover setting version token; return none
    | .reduce rule =>
      let made ← reduce setting version rule
      tryActions setting version state token rest (made <|> last)

/-- Works off one token in a reading, up to its shift. A keyword that is of no use is
read as a word where that helps. -/
def useToken (setting : Setting σ) (version : Nat) :
    Nat → Tree σ → List Action → ParseM σ Unit
  | 0, _, _ => modifyStack (·.halt version)
  | fuel + 1, token, actions => do
    let language := setting.language
    let state ← ofStack (·.state version)
    match ← tryActions setting version state token actions none with
    | none => return
    | some (some result) =>
      modifyStack (·.renumber result version)
      let state ← ofStack (·.state version)
      useToken setting version fuel token (actionsFor language state token)
    | some none =>
      let asWord := language.actions state language.word
      if token.facts.keyword && token.label != .symbol language.word && !asWord.isEmpty then
        let visible := (language.appearance language.word).visible
        let word := match token with
          | .mk facts children =>
            Tree.mk { facts with label := .symbol language.word, visible } children
        useToken setting version fuel word asWord
      else if state == 0 then recover setting version token
      else modifyStack (·.pause version token)

def advance (setting : Setting σ) (version fuel : Nat) : ParseM σ Unit := do
  let state ← ofStack (·.state version)
  let token ← nextToken setting version state
  useToken setting version fuel token (actionsFor setting.language state token)

/-- Moves a reading until it passes the place that any reading has reached. Returns
that place. -/
def advanceReading (setting : Setting σ) (fuel : Nat) :
    Nat → (version last : Nat) → ParseM σ Nat
  | 0, _, last => return last
  | steps + 1, version, last => do
    if ← ofStack (·.isActive version) then
      advance setting version fuel
      let place ← ofStack (·.place version)
      if last < place || (0 < version && place == last) then return place
      else advanceReading setting fuel steps version last
    else return last

def advanceAll (setting : Setting σ) (fuel : Nat) :
    Nat → (version last : Nat) → ParseM σ Nat
  | 0, _, last => return last
  | steps + 1, version, last => do
    let count ← ofStack (·.heads.size)
    if version < count then
      let last ← advanceReading setting fuel fuel version last
      advanceAll setting fuel steps (version + 1) last
    else return last

/-- Rounds over all readings until none is left or a finished tree is better than
all of them. -/
def rounds (setting : Setting σ) (fuel : Nat) : Nat → (last : Nat) → ParseM σ Unit
  | 0, _ => return
  | steps + 1, last => do
    let last ← advanceAll setting fuel fuel 0 last
    let count ← ofStack (·.heads.size)
    let least ← condense setting
    let finished := (← get).finished
    let better := match finished, least with
      | some tree, some least => tree.cost < least
      | some _, none => true
      | none, _ => false
    if better || count == 0 then return
    else rounds setting fuel steps last

end Running

/-- The tree of a text. A text that is not worked off within the bound on the number
of steps is one error. -/
def parse (language : Language σ) (source : Source) : Tree σ :=
  let setting := { language, source }
  let fuel := fuelFor source
  let final := ((rounds setting fuel fuel 0).run start).2
  final.finished.getD (Tree.error false 0 [])

end Parser

end SourceAtlas.Syntax
