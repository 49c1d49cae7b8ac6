/-! Patterns and where they match. Of all matches the leftmost one is taken, and of those
that start there the one that comes first when choices are tried in order. -/
namespace SourceAtlas

/-- A pattern of text. What it takes from the text it takes character by character; a
`look` takes nothing and only asks for the characters before and after a place. Choices
are tried in order: the first branch, and for a greedy repetition the longer one. -/
inductive Pattern where
  | empty
  | one (accepts : Char → Bool)
  | many (accepts : Char → Bool) (greedy : Bool)
  | look (holds : (before after : Option Char) → Bool)
  | group (index : Nat) (body : Pattern)
  | sequence (first second : Pattern)
  | either (first second : Pattern)
  | optional (body : Pattern) (greedy : Bool)
  | repeated (body : Pattern) (greedy : Bool)
deriving Inhabited

structure Capture where
  index : Nat
  start : Nat
  stop : Nat
deriving DecidableEq, Repr

/-- A match, with what its groups have matched, latest first. -/
structure Match where
  start : Nat
  stop : Nat
  captures : List Capture
deriving DecidableEq, Repr

namespace Pattern

abbrev Continuation := (place : Nat) → List Capture → Option (Nat × List Capture)

def orElse {α : Type} (first : Option α) (second : Unit → Option α) : Option α :=
  match first with
  | some result => some result
  | none => second ()

def runEnd (text : Array Char) (accepts : Char → Bool) (place : Nat) : Nat :=
  if h : place < text.size then
    if accepts text[place] then runEnd text accepts (place + 1) else place
  else place
termination_by text.size - place

/-- Tries the places after `place`, up to `count` away, farthest first. -/
def farthestFirst {α : Type} (attempt : Nat → Option α) (place : Nat) : Nat → Option α
  | 0 => none
  | count + 1 =>
    orElse (attempt (place + count + 1)) fun _ => farthestFirst attempt place count

/-- Tries the places after `place`, up to `count` away, nearest first. -/
def nearestFirst {α : Type} (attempt : Nat → Option α) (place : Nat) : Nat → Option α
  | 0 => none
  | count + 1 =>
    orElse (attempt (place + 1)) fun _ => nearestFirst attempt (place + 1) count

def repeatOn (once : Nat → List Capture → Continuation → Option (Nat × List Capture))
    (greedy : Bool) (next : Continuation) : Nat → Continuation
  | 0, place, captures => next place captures
  | count + 1, place, captures =>
    let again := fun _ : Unit => once place captures fun reached captures =>
      if place < reached then repeatOn once greedy next count reached captures else none
    if greedy then orElse (again ()) fun _ => next place captures
    else orElse (next place captures) again

def before? (text : Array Char) (place : Nat) : Option Char :=
  if place = 0 then none else text[place - 1]?

def run (text : Array Char) :
    Pattern → (place : Nat) → List Capture → Continuation → Option (Nat × List Capture)
  | .empty, place, captures, next => next place captures
  | .one accepts, place, captures, next =>
    match text[place]? with
    | some c => if accepts c then next (place + 1) captures else none
    | none => none
  | .many accepts greedy, place, captures, next =>
    let count := runEnd text accepts place - place
    let attempt := fun reached => next reached captures
    if greedy then farthestFirst attempt place count else nearestFirst attempt place count
  | .look holds, place, captures, next =>
    if holds (before? text place) text[place]? then next place captures else none
  | .group index body, place, captures, next =>
    run text body place captures fun reached captures =>
      next reached (⟨index, place, reached⟩ :: captures)
  | .sequence first second, place, captures, next =>
    run text first place captures fun reached captures => run text second reached captures next
  | .either first second, place, captures, next =>
    orElse (run text first place captures next) fun _ => run text second place captures next
  | .optional body greedy, place, captures, next =>
    if greedy then orElse (run text body place captures next) fun _ => next place captures
    else orElse (next place captures) fun _ => run text body place captures next
  | .repeated body greedy, place, captures, next =>
    run text body place captures fun reached captures =>
      if place < reached then
        repeatOn (run text body) greedy next (text.size - reached) reached captures
      else next reached captures

def matchAt (pattern : Pattern) (text : Array Char) (place : Nat) : Option Match :=
  (pattern.run text place [] fun reached captures => some (reached, captures)).map
    fun (stop, captures) => ⟨place, stop, captures⟩

def findWithin (pattern : Pattern) (text : Array Char) : (places : Nat) → Nat → Option Match
  | 0, _ => none
  | places + 1, place =>
    orElse (pattern.matchAt text place) fun _ => findWithin pattern text places (place + 1)

def find? (pattern : Pattern) (text : Array Char) (place : Nat) : Option Match :=
  pattern.findWithin text (text.size + 1 - place) place

/-- The first match after one that has ended at a place. An empty match right there
would say nothing new. -/
def findAfter? (pattern : Pattern) (text : Array Char) (place : Nat) : Option Match :=
  match pattern.find? text place with
  | none => none
  | some found =>
    if found.start = found.stop && found.stop = place then pattern.find? text (place + 1)
    else some found

def findAllAfter (pattern : Pattern) (text : Array Char) : (count : Nat) → Nat → List Match
  | 0, _ => []
  | count + 1, place =>
    match pattern.findAfter? text place with
    | none => []
    | some found => found :: findAllAfter pattern text count found.stop

def findAll (pattern : Pattern) (text : Array Char) : List Match :=
  match pattern.find? text 0 with
  | none => []
  | some found => found :: pattern.findAllAfter text (text.size + 1) found.stop

def groupCount : Pattern → Nat
  | .empty | .one _ | .many _ _ | .look _ => 0
  | .group index body => max index body.groupCount
  | .sequence first second | .either first second => max first.groupCount second.groupCount
  | .optional body _ | .repeated body _ => body.groupCount

end Pattern

namespace Match

def group? (found : Match) (index : Nat) : Option Capture :=
  found.captures.find? (·.index = index)

def firstGroup? (found : Match) (groups : Nat) : Option Capture :=
  (List.range' 1 groups).findSome? fun index =>
    (found.group? index).filter fun capture => capture.start < capture.stop

end Match

namespace Pattern

def extract (pattern : Pattern) (text : Array Char) : List String :=
  (pattern.findAll text).filterMap fun found =>
    (found.firstGroup? pattern.groupCount).map fun capture =>
      String.ofList (text.extract capture.start capture.stop).toList

end Pattern

end SourceAtlas
