import SourceAtlas.PatternReader
import SourceAtlas.Proofs.Excerpts
import Mathlib.Data.List.TakeWhile

/-! Scanners that go over a text from the left and never look back, and patterns that are no more than
that. A repetition in a pattern could stop early and try again; where nothing of what follows can stand
inside of it, there is only one place for it to stop, and the search is a scan. -/
namespace SourceAtlas

/-- A scanner is told by what it finds at the front of a text: what it reports, and the text with which
it goes on. -/
structure Scanner where
  front? : List Char → Option (List Char × List Char)
  shortens : ∀ chars found rest, front? chars = some (found, rest) → rest.length < chars.length

namespace Scanner

def scan (scanner : Scanner) : List Char → List String
  | [] => []
  | c :: chars =>
    match _found : scanner.front? (c :: chars) with
    | some (part, rest) => String.ofList part :: scanner.scan rest
    | none => scanner.scan chars
termination_by chars => chars.length
decreasing_by
  · exact scanner.shortens _ _ _ ‹_›
  · exact Nat.lt_succ_self _

theorem scan_of_some (scanner : Scanner) {chars part rest : List Char} (found : scanner.front? chars = some (part, rest)) :
    scanner.scan chars = String.ofList part :: scanner.scan rest := by
  cases chars with
  | nil => exact absurd (scanner.shortens _ _ _ found) (Nat.not_lt_zero _)
  | cons c chars =>
    rw [scan]
    split
    · rename_i other remaining here
      rw [found] at here
      cases here
      rfl
    · rename_i none
      rw [found] at none
      cases none

theorem scan_of_none (scanner : Scanner) {c : Char} {chars : List Char} (none : scanner.front? (c :: chars) = none) :
    scanner.scan (c :: chars) = scanner.scan chars := by
  rw [scan]
  split
  · rename_i here
    rw [none] at here
    cases here
  · rfl

def after? (fixed : String) (chars : List Char) : Option (List Char) :=
  if fixed.toList <+: chars then some (chars.drop fixed.length) else none

/-- The longest run of characters of a class at the front of a text, if there is one, and the text after it. -/
def run? (accepts : Char → Bool) (chars : List Char) : Option (List Char × List Char) :=
  match chars.takeWhile accepts with
  | [] => none
  | first :: more => some (first :: more, chars.dropWhile accepts)

def one? (accepts : Char → Bool) : List Char → Option (List Char)
  | [] => none
  | c :: rest => if accepts c then some rest else none

theorem after?_eq_some_iff {fixed : String} {chars rest : List Char} :
    after? fixed chars = some rest ↔ chars = fixed.toList ++ rest := by
  rw [after?]
  constructor
  · intro found
    split at found
    · rename_i front
      obtain ⟨rest, rfl⟩ := front
      cases found
      rw [← String.length_toList, List.drop_left]
    · cases found
  · rintro rfl
    rw [if_pos (List.prefix_append _ _), ← String.length_toList, List.drop_left]

theorem after?_eq_none {fixed : String} {first c : Char} {more rest : List Char} (front : fixed.toList = first :: more)
    (differs : c ≠ first) : after? fixed (c :: rest) = none := by
  rw [after?, if_neg]
  rw [front, List.cons_prefix_cons]
  exact fun same => differs same.1.symm

/-- A text does not start with a fixed one if its first character is of a class that the other one is not of. -/
theorem after?_of_accepts {accepts : Char → Bool} {fixed : String} {first c : Char} {more rest : List Char}
    (front : fixed.toList = first :: more) (refused : accepts first = false) (accepted : accepts c = true) :
    after? fixed (c :: rest) = none := by
  refine after?_eq_none front fun same => ?_
  rw [same, refused] at accepted
  cases accepted

theorem after?_of_apart {fixed : String} {chars rest : List Char} (found : after? fixed chars = some rest) (other : String)
    (apart : ¬ fixed.toList <+: other.toList ∧ ¬ other.toList <+: fixed.toList) : after? other chars = none := by
  have here : fixed.toList <+: chars := ⟨rest, (after?_eq_some_iff.mp found).symm⟩
  rw [after?, if_neg]
  intro there
  rcases List.prefix_or_prefix_of_prefix here there with shorter | longer
  · exact apart.1 shorter
  · exact apart.2 longer

theorem run?_eq_none_iff {accepts : Char → Bool} {chars : List Char} :
    run? accepts chars = none ↔ chars.takeWhile accepts = [] := by
  rw [run?]
  cases chars.takeWhile accepts <;> simp

theorem run?_of_refused {accepts : Char → Bool} {c : Char} (refused : accepts c = false) (rest : List Char) :
    run? accepts (c :: rest) = none := by
  rw [run?_eq_none_iff]
  exact List.takeWhile_cons_of_neg (by simp [refused])

theorem run?_eq_some_iff {accepts : Char → Bool} {chars run rest : List Char} :
    run? accepts chars = some (run, rest) ↔
      run ≠ [] ∧ chars.takeWhile accepts = run ∧ chars.dropWhile accepts = rest := by
  rw [run?]
  cases chars.takeWhile accepts with
  | nil =>
    constructor
    · rintro ⟨⟩
    · rintro ⟨some, rfl, -⟩
      exact absurd rfl some
  | cons first more =>
    constructor
    · rintro ⟨⟩
      exact ⟨by simp, rfl, rfl⟩
    · rintro ⟨-, rfl, rfl⟩
      rfl

theorem eq_cons_of_one? {accepts : Char → Bool} {chars rest : List Char} (found : one? accepts chars = some rest) :
    ∃ c, chars = c :: rest := by
  cases chars with
  | nil => cases found
  | cons c more =>
    rw [one?] at found
    split_ifs at found
    cases found
    exact ⟨c, rfl⟩

theorem length_after? {fixed : String} {chars rest : List Char} (found : after? fixed chars = some rest) :
    chars.length = fixed.length + rest.length := by
  rw [after?_eq_some_iff.mp found, List.length_append, String.length_toList]

theorem length_run? {accepts : Char → Bool} {chars run rest : List Char} (found : run? accepts chars = some (run, rest)) :
    rest.length < chars.length := by
  obtain ⟨some, rfl, rfl⟩ := run?_eq_some_iff.mp found
  have whole := congrArg List.length (List.takeWhile_append_dropWhile : chars.takeWhile accepts ++ chars.dropWhile accepts = chars)
  have := List.length_pos_iff.mpr some
  rw [List.length_append] at whole
  omega

end Scanner

namespace Pattern

def ahead (text : Array Char) (place : Nat) : List Char :=
  text.toList.drop place

section Places
variable {text : Array Char} {place : Nat}

@[simp] theorem length_ahead : (ahead text place).length = text.size - place := by
  simp [ahead]

theorem ahead_add (count : Nat) : ahead text (place + count) = (ahead text place).drop count := by
  rw [ahead, ahead, List.drop_drop]

theorem ahead_of_lt (inside : place < text.size) : ahead text place = text[place] :: ahead text (place + 1) := by
  rw [ahead, List.drop_eq_getElem_cons (by simpa using inside)]
  rfl

theorem getElem?_eq_head? : text[place]? = (ahead text place).head? := by
  simp [ahead]

theorem ahead_eq_append {front rest : List Char} (split : ahead text place = front ++ rest) :
    ahead text (place + front.length) = rest := by
  rw [ahead_add, split, List.drop_left]

theorem ahead_cons {c : Char} {rest : List Char} (split : ahead text place = c :: rest) : ahead text (place + 1) = rest := by
  rw [ahead_add, split, List.drop_one, List.tail_cons]

theorem ahead_takeWhile (accepts : Char → Bool) :
    ahead text (place + ((ahead text place).takeWhile accepts).length) = (ahead text place).dropWhile accepts :=
  ahead_eq_append List.takeWhile_append_dropWhile.symm

theorem ahead_after? {fixed : String} {rest : List Char} (found : Scanner.after? fixed (ahead text place) = .some rest) :
    ahead text (place + fixed.length) = rest := by
  rw [← String.length_toList]
  exact ahead_eq_append (Scanner.after?_eq_some_iff.mp found)

theorem ahead_run? {accepts : Char → Bool} {taken : List Char × List Char}
    (found : Scanner.run? accepts (ahead text place) = .some taken) : ahead text (place + taken.1.length) = taken.2 := by
  obtain ⟨-, same, left⟩ := Scanner.run?_eq_some_iff.mp found
  rw [← same, ← left]
  exact ahead_takeWhile accepts

theorem runEnd_eq (accepts : Char → Bool) :
    runEnd text accepts place = place + ((ahead text place).takeWhile accepts).length := by
  fun_induction runEnd text accepts place with
  | case1 place inside accepted ih =>
    rw [ih, ahead_of_lt inside, List.takeWhile_cons_of_pos accepted, List.length_cons]
    omega
  | case2 place inside refused =>
    rw [ahead_of_lt inside, List.takeWhile_cons_of_neg refused]
    rfl
  | case3 place outside =>
    have none : ahead text place = [] := List.drop_eq_nil_of_le (by simpa using outside)
    rw [none]
    rfl

end Places

section Choices
variable {text : Array Char} {accepts : Char → Bool} {next : Continuation}

/-- What is left to do cannot be done in front of a character of the class, or else also behind it. -/
def Settles (text : Array Char) (accepts : Char → Bool) (next : Continuation) : Prop :=
  ∀ place captures others c, text[place]? = .some c → accepts c = true → next (place + 1) captures = none →
    next place others = none

theorem Settles.fails (settles : Settles text accepts next) {place reached : Nat} {captures : List Capture}
    (after : place ≤ reached) (before : reached ≤ runEnd text accepts place)
    (fails : next (runEnd text accepts place) captures = none) (others : List Capture) :
    reached = runEnd text accepts place ∨ next reached others = none := by
  generalize left : runEnd text accepts place - reached = count
  induction count generalizing reached others with
  | zero => exact .inl (by omega)
  | succ count ih =>
    have inside : reached < runEnd text accepts place := by omega
    obtain ⟨c, here, accepted⟩ := accepts_of_lt_runEnd after inside
    have behind : reached + 1 = runEnd text accepts place ∨ next (reached + 1) captures = none :=
      ih (by omega) (by omega) captures (by omega)
    rcases behind with last | none
    · exact .inr (settles reached captures others c here accepted (by rwa [last]))
    · exact .inr (settles reached captures others c here accepted none)

private theorem farthestFirst_eq_none {α : Type} {attempt : Nat → Option α} {place count : Nat}
    (fails : ∀ reached, place < reached → reached ≤ place + count → attempt reached = none) :
    farthestFirst attempt place count = none := by
  induction count with
  | zero => rfl
  | succ count ih =>
    rw [farthestFirst, Nat.add_assoc, fails (place + (count + 1)) (by omega) (by omega)]
    exact ih fun reached after before => fails reached after (by omega)

private theorem farthestFirst_of_last {α : Type} {attempt : Nat → Option α} {place count : Nat} (positive : 0 < count)
    (last : attempt (place + count) = none → ∀ reached, place < reached → reached < place + count → attempt reached = none) :
    farthestFirst attempt place count = attempt (place + count) := by
  obtain ⟨count, rfl⟩ : ∃ fewer, count = fewer + 1 := ⟨count - 1, by omega⟩
  rw [farthestFirst, Nat.add_assoc]
  cases found : attempt (place + (count + 1)) with
  | some result => rfl
  | none => exact farthestFirst_eq_none fun reached after before => last found reached after (by omega)

private theorem run_many_eq (settles : Settles text accepts next) (place : Nat) (captures : List Capture)
    (nonempty : place < runEnd text accepts place) :
    run text (.many accepts true) place captures next = next (runEnd text accepts place) captures := by
  have whole : place + (runEnd text accepts place - place) = runEnd text accepts place := by omega
  rw [run, if_pos rfl, farthestFirst_of_last (by omega), whole]
  intro fails reached after before
  rw [whole] at fails before
  exact (settles.fails (by omega) (by omega) fails captures).resolve_left (by omega)

theorem run_some_eq (settles : Settles text accepts next) (place : Nat) (captures : List Capture) :
    run text (some accepts) place captures next =
      (Scanner.run? accepts (ahead text place)).bind fun taken => next (place + taken.1.length) captures := by
  cases found : Scanner.run? accepts (ahead text place) with
  | some taken =>
    obtain ⟨nonempty, same, -⟩ := Scanner.run?_eq_some_iff.mp found
    have ends : runEnd text accepts place = place + ((ahead text place).takeWhile accepts).length := runEnd_eq accepts
    rw [same] at ends
    have := List.length_pos_iff.mpr nonempty
    rw [Pattern.some, run_many_eq settles place captures (by omega), ends]
    rfl
  | none =>
    rw [Pattern.some, run, if_pos rfl, runEnd_eq, Scanner.run?_eq_none_iff.mp found, List.length_nil, Nat.add_zero, Nat.sub_self]
    rfl

theorem run_anyNumber_eq (settles : Settles text accepts next) (place : Nat) (captures : List Capture) :
    run text (anyNumber accepts) place captures next =
      next (place + ((ahead text place).takeWhile accepts).length) captures := by
  rw [← runEnd_eq, anyNumber, run, if_pos rfl]
  by_cases nonempty : place < runEnd text accepts place
  · rw [run_many_eq settles place captures nonempty]
    cases last : next (runEnd text accepts place) captures with
    | some result => rfl
    | none =>
      -- To take nothing is the last choice, and fails like all others.
      exact (settles.fails (Nat.le_refl place) (Nat.le_of_lt nonempty) last captures).resolve_left (by omega)
  · have ends : runEnd text accepts place = place + ((ahead text place).takeWhile accepts).length := runEnd_eq accepts
    have same : runEnd text accepts place = place := by omega
    rw [run, if_pos rfl, same, Nat.sub_self]
    rfl

private theorem orElse_none {α : Type} (first : Option α) : (orElse first fun _ => none) = first := by
  cases first <;> rfl

private theorem farthestFirst_succ {α : Type} (attempt : Nat → Option α) (place count : Nat) :
    farthestFirst attempt place (count + 1) =
      orElse (farthestFirst attempt (place + 1) count) fun _ => attempt (place + 1) := by
  induction count with
  | zero => exact orElse_none (attempt (place + 1))
  | succ count ih =>
    have far : place + (count + 1) + 1 = place + 1 + count + 1 := by omega
    rw [farthestFirst, ih, farthestFirst, far]
    cases attempt (place + 1 + count + 1) <;> rfl

private theorem run_optional_of_refused {place : Nat} (none : (ahead text place).takeWhile accepts = []) (greedy : Bool)
    (captures : List Capture) :
    run text (.optional (.many accepts greedy) greedy) place captures next = next place captures := by
  have ends : runEnd text accepts place - place = 0 := by
    rw [runEnd_eq, none, List.length_nil, Nat.add_zero, Nat.sub_self]
  cases greedy with
  | true =>
    simp only [run, ends, if_true]
    rfl
  | false =>
    simp only [run, ends]
    exact orElse_none (next place captures)

/-- Either the repetition stops at the first character or it goes over it, in the order that it prefers. -/
private theorem run_optional_of_accepted {place : Nat} {c : Char} {rest : List Char} (front : ahead text place = c :: rest)
    (accepted : accepts c = true) (greedy : Bool) (captures : List Capture) :
    run text (.optional (.many accepts greedy) greedy) place captures next =
      if greedy then
        orElse (run text (.optional (.many accepts greedy) greedy) (place + 1) captures next) fun _ => next place captures
      else
        orElse (next place captures) fun _ => run text (.optional (.many accepts greedy) greedy) (place + 1) captures next := by
  have behind : ahead text (place + 1) = rest := ahead_cons front
  have ends : runEnd text accepts place - place = (runEnd text accepts (place + 1) - (place + 1)) + 1 := by
    rw [runEnd_eq, runEnd_eq, front, behind, List.takeWhile_cons_of_pos accepted, List.length_cons]
    omega
  cases greedy with
  | true => simp only [run, ends, if_true, farthestFirst_succ]
  | false =>
    simp only [run, ends]
    rfl

private theorem run_fixed_eq (fixed : List Char) (place : Nat) (captures : List Capture) :
    run text (fixed.foldr (fun c rest => .sequence (.one (· == c)) rest) .empty) place captures next =
      if fixed <+: ahead text place then next (place + fixed.length) captures else none := by
  induction fixed generalizing place with
  | nil =>
    rw [if_pos List.nil_prefix]
    rfl
  | cons c fixed ih =>
    rw [List.foldr_cons, run, run, getElem?_eq_head?]
    cases front : ahead text place with
    | nil => simp
    | cons first rest =>
      have there : ahead text (place + 1) = rest := by rw [ahead_add, front]; rfl
      simp only [List.head?_cons, ih, there, List.cons_prefix_cons, List.length_cons, beq_iff_eq, Nat.add_assoc,
        Nat.add_comm 1, eq_comm (a := c)]
      split_ifs <;> simp_all

theorem run_text_eq (fixed : String) (place : Nat) (captures : List Capture) :
    run text (Pattern.text fixed) place captures next =
      (Scanner.after? fixed (ahead text place)).bind fun _ => next (place + fixed.length) captures := by
  rw [Pattern.text, run_fixed_eq, Scanner.after?, String.length_toList]
  split_ifs <;> rfl

theorem run_one_eq (place : Nat) (captures : List Capture) :
    run text (.one accepts) place captures next =
      (Scanner.one? accepts (ahead text place)).bind fun _ => next (place + 1) captures := by
  rw [run, getElem?_eq_head?]
  cases ahead text place with
  | nil => rfl
  | cons c rest =>
    by_cases accepted : accepts c = true <;> simp [Scanner.one?, accepted]

end Choices

section Tails
variable {α : Type} {text : Array Char} {accepts : Char → Bool} {next other : Continuation}
  {Ends : α → List Capture → Nat → List Capture → Prop} {outcome? otherOutcome? : List Char → Option α}

/-- What is left to do is told by the characters ahead: it fails, or it ends as their outcome says. -/
structure Reads (text : Array Char) (next : Continuation) (Ends : α → List Capture → Nat → List Capture → Prop)
    (outcome? : List Char → Option α) : Prop where
  fails : ∀ place captures, outcome? (ahead text place) = none → next place captures = none
  ends : ∀ place captures outcome, outcome? (ahead text place) = .some outcome →
    ∃ stop groups, next place captures = .some (stop, groups) ∧ Ends outcome captures stop groups

/-- The end is in front of certain characters, and then `done` with the groups. -/
def Stops (text : Array Char) (done : Nat → List Capture → List Capture) (rest : List Char) (captures : List Capture)
    (stop : Nat) (groups : List Capture) : Prop :=
  groups = done stop captures ∧ ahead text stop = rest

theorem reads_end (text : Array Char) (done : Nat → List Capture → List Capture) :
    Reads text (fun place captures => .some (place, done place captures)) (Stops text done) .some where
  fails _ _ none := by cases none
  ends place captures _ same := by
    cases same
    exact ⟨place, done place captures, rfl, rfl, rfl⟩

theorem Reads.eq_none_iff (reads : Reads text next Ends outcome?) {place : Nat} {captures : List Capture} :
    next place captures = none ↔ outcome? (ahead text place) = none := by
  refine ⟨fun none => ?_, reads.fails place captures⟩
  cases told : outcome? (ahead text place) with
  | none => rfl
  | some outcome =>
    obtain ⟨stop, groups, same, -⟩ := reads.ends place captures outcome told
    rw [none] at same
    cases same

theorem Reads.settles (reads : Reads text next Ends outcome?)
    (settled : ∀ c rest, accepts c = true → outcome? rest = none → outcome? (c :: rest) = none) : Settles text accepts next := by
  intro place captures others c here accepted behind
  rw [reads.eq_none_iff] at behind ⊢
  have inside := (Array.getElem?_eq_some_iff.mp here).1
  rw [ahead_of_lt inside]
  rw [Array.getElem?_eq_getElem inside, Option.some_inj] at here
  exact settled _ _ (here ▸ accepted) behind

private theorem Reads.behind {β : Type} (reads : Reads text next Ends outcome?) {first : Continuation}
    {front? : List Char → Option β} {width : β → Nat} {left : β → List Char}
    (ran : ∀ place captures, first place captures = (front? (ahead text place)).bind fun hit => next (place + width hit) captures)
    (there : ∀ place hit, front? (ahead text place) = .some hit → ahead text (place + width hit) = left hit) :
    Reads text first Ends fun chars => (front? chars).bind fun hit => outcome? (left hit) := by
  constructor
  · intro place captures none
    rw [ran]
    cases found : front? (ahead text place) with
    | none => rfl
    | some hit =>
      rw [found, Option.bind_some, ← there place hit found] at none
      exact reads.fails _ captures none
  · intro place captures outcome told
    rw [ran]
    cases found : front? (ahead text place) with
    | none => simp [found] at told
    | some hit =>
      rw [found, Option.bind_some, ← there place hit found] at told
      exact reads.ends _ captures outcome told

theorem Reads.fixedText (reads : Reads text next Ends outcome?) (fixed : String) :
    Reads text (fun place captures => run text (Pattern.text fixed) place captures next) Ends
      fun chars => (Scanner.after? fixed chars).bind outcome? :=
  reads.behind (run_text_eq fixed) fun _ _ => ahead_after?

theorem Reads.one (reads : Reads text next Ends outcome?) (accepts : Char → Bool) :
    Reads text (fun place captures => run text (.one accepts) place captures next) Ends
      fun chars => (Scanner.one? accepts chars).bind outcome? := by
  refine reads.behind run_one_eq fun place rest found => ?_
  obtain ⟨c, front⟩ := Scanner.eq_cons_of_one? found
  exact ahead_cons front

theorem Reads.someRun (reads : Reads text next Ends outcome?)
    (settled : ∀ c rest, accepts c = true → outcome? rest = none → outcome? (c :: rest) = none) :
    Reads text (fun place captures => run text (some accepts) place captures next) Ends
      fun chars => (Scanner.run? accepts chars).bind fun taken => outcome? taken.2 :=
  reads.behind (run_some_eq (reads.settles settled)) fun _ _ => ahead_run?

theorem Reads.anyNumber (reads : Reads text next Ends outcome?)
    (settled : ∀ c rest, accepts c = true → outcome? rest = none → outcome? (c :: rest) = none) :
    Reads text (fun place captures => run text (Pattern.anyNumber accepts) place captures next) Ends
      fun chars => outcome? (chars.dropWhile accepts) := by
  constructor
  · intro place captures none
    rw [run_anyNumber_eq (reads.settles settled)]
    exact reads.fails _ captures (by rwa [ahead_takeWhile])
  · intro place captures outcome told
    rw [run_anyNumber_eq (reads.settles settled)]
    exact reads.ends _ captures outcome (by rwa [ahead_takeWhile])

theorem Reads.singleStop (reads : Reads text next Ends outcome?) (greedy : Bool)
    (refused : ∀ chars, chars.takeWhile accepts = [] → otherOutcome? chars = outcome? chars)
    (accepted : ∀ c rest, accepts c = true →
      outcome? (c :: rest) = none ∧ otherOutcome? (c :: rest) = otherOutcome? rest ∨
        otherOutcome? rest = none ∧ otherOutcome? (c :: rest) = outcome? (c :: rest)) :
    Reads text (fun place captures => run text (.optional (.many accepts greedy) greedy) place captures next) Ends otherOutcome? := by
  have told (chars : List Char) : ∀ place captures, ahead text place = chars →
      (otherOutcome? chars = none → run text (.optional (.many accepts greedy) greedy) place captures next = none) ∧
      ∀ outcome, otherOutcome? chars = .some outcome → ∃ stop groups,
        run text (.optional (.many accepts greedy) greedy) place captures next = .some (stop, groups) ∧
          Ends outcome captures stop groups := by
    induction chars with
    | nil =>
      intro place captures front
      rw [run_optional_of_refused (by rw [front]; rfl), refused [] rfl, ← front]
      exact ⟨reads.fails place captures, reads.ends place captures⟩
    | cons c rest ih =>
      intro place captures front
      by_cases accepts_c : accepts c = true
      · have behind := ih (place + 1) captures (ahead_cons front)
        rw [run_optional_of_accepted front accepts_c]
        rcases accepted c rest accepts_c with ⟨not_here, same⟩ | ⟨not_behind, same⟩
        · have none : next place captures = none := reads.fails place captures (by rw [front, not_here])
          rw [same, none]
          cases greedy with
          | true => simpa [orElse_none] using behind
          | false => exact behind
        · rw [same, behind.1 not_behind, ← front]
          have here := And.intro (reads.fails place captures) (reads.ends place captures)
          cases greedy with
          | true => exact here
          | false => simpa [orElse_none] using here
      · have none : (c :: rest).takeWhile accepts = [] := List.takeWhile_cons_of_neg accepts_c
        rw [run_optional_of_refused (by rw [front, none]), refused _ none, ← front]
        exact ⟨reads.fails place captures, reads.ends place captures⟩
  exact ⟨fun place captures => (told _ place captures rfl).1, fun place captures => (told _ place captures rfl).2⟩

theorem Reads.orElse (reads : Reads text next Ends outcome?) (otherReads : Reads text other Ends otherOutcome?) :
    Reads text (fun place captures => Pattern.orElse (next place captures) fun _ => other place captures) Ends
      fun chars => outcome? chars <|> otherOutcome? chars := by
  constructor
  · intro place captures none
    cases first : outcome? (ahead text place) with
    | none =>
      rw [reads.fails place captures first]
      exact otherReads.fails place captures (by simpa [first] using none)
    | some outcome => simp [first] at none
  · intro place captures outcome told
    cases first : outcome? (ahead text place) with
    | none =>
      rw [reads.fails place captures first]
      exact otherReads.ends place captures outcome (by simpa [first] using told)
    | some found =>
      obtain rfl : found = outcome := by simpa [first] using told
      obtain ⟨stop, groups, same, there⟩ := reads.ends place captures found first
      exact ⟨stop, groups, by rw [same]; rfl, there⟩

theorem Reads.never (_ : Reads text next Ends outcome?) :
    Reads text (fun place captures => run text (.one fun _ => false) place captures next) Ends fun _ => none where
  fails place captures _ := by
    rw [run]
    cases text[place]? <;> rfl
  ends _ _ _ same := by cases same

theorem Reads.bracketed (reads : Reads text next Ends outcome?) :
    Reads text (fun place captures => run text Pattern.bracketed place captures next) Ends fun chars =>
      (Scanner.after? "(" chars).bind fun chars => (Scanner.after? ")" (chars.dropWhile (· != ')'))).bind outcome? := by
  have closing := (reads.fixedText ")").anyNumber fun c rest (other : (c != ')') = true) _ => by
    have differs : c ≠ ')' := by simpa using other
    rw [Scanner.after?_eq_none rfl differs]
    rfl
  exact closing.fixedText "("

end Tails

section Extraction

def finished : Continuation :=
  fun place captures => .some (place, captures)

def part? (pattern : Pattern) (text : Array Char) (found : Match) : Option String :=
  (found.firstGroup? pattern.groupCount).map fun capture =>
    String.ofList (text.extract capture.start capture.stop).toList

theorem part?_of_single {pattern : Pattern} {text : Array Char} {found : Match} {index start : Nat} {name rest : List Char}
    (captured : found.captures = [⟨index, start, start + name.length⟩]) (numbered : 1 ≤ index)
    (few : index ≤ pattern.groupCount) (nonempty : name ≠ []) (split : ahead text start = name ++ rest) :
    pattern.part? text found = .some (String.ofList name) := by
  have first : found.IsFirstGroup ⟨index, start, start + name.length⟩ := by
    have := List.length_pos_iff.mpr nonempty
    refine ⟨by simp [Match.group?, captured], numbered, by simp; omega, fun earlier other _ less same => ?_⟩
    have mem := List.mem_of_find?_eq_some same
    have is := Match.index_of_group? same
    rw [captured, List.mem_singleton] at mem
    subst mem
    exact absurd is (by simp; omega)
  have chosen : found.firstGroup? pattern.groupCount = .some ⟨index, start, start + name.length⟩ :=
    (Match.firstGroup?_eq_some_iff (by simpa [captured] using few)).mpr first
  have there : (text.extract start (start + name.length)).toList = name := by
    rw [ahead] at split
    simp [List.extract_eq_take_drop, split]
  rw [part?, chosen, Option.map_some, there]

/-- What is reported from each place on, by steps from one place to the next: behind a match at the place, or
else behind one character. -/
structure Steps (pattern : Pattern) (text : Array Char) (reported : Nat → List String) : Prop where
  hit : ∀ place found, place ≤ text.size → pattern.matchAt text place = .some found →
    place < found.stop ∧ reported place = (pattern.part? text found).toList ++ reported found.stop
  miss : ∀ place, place < text.size → pattern.matchAt text place = none → reported place = reported (place + 1)
  last : reported text.size = []

variable {pattern : Pattern} {text : Array Char} {reported : Nat → List String}

private theorem Steps.reported_of_none (steps : Steps pattern text reported) {places place : Nat}
    (all : place + places = text.size + 1) (inside : place ≤ text.size) (none : pattern.findWithin text places place = none) :
    reported place = [] := by
  induction places generalizing place with
  | zero => omega
  | succ places ih =>
    rw [findWithin] at none
    cases here : pattern.matchAt text place with
    | some found => simp [here, orElse] at none
    | none =>
      simp only [here, orElse] at none
      rcases Nat.lt_or_eq_of_le inside with before | rfl
      · rw [steps.miss place before here]
        exact ih (by omega) before none
      · exact steps.last

private theorem Steps.reported_of_some (steps : Steps pattern text reported) {places place : Nat} {found : Match}
    (all : place + places = text.size + 1) (first : pattern.findWithin text places place = .some found) :
    place < found.stop ∧ found.start < found.stop ∧
      reported place = (pattern.part? text found).toList ++ reported found.stop := by
  induction places generalizing place with
  | zero => cases first
  | succ places ih =>
    rw [findWithin] at first
    cases here : pattern.matchAt text place with
    | some other =>
      simp only [here, orElse, Option.some_inj] at first
      subst first
      obtain ⟨further, same⟩ := steps.hit place other (by omega) here
      obtain ⟨start, -⟩ := matchAt_eq_some (by omega) here
      exact ⟨further, by omega, same⟩
    | none =>
      simp only [here, orElse] at first
      obtain ⟨further, nonempty, same⟩ := ih (by omega) first
      have before : place < text.size := by
        have := (findWithin_eq_some (by omega) first).2.between
        omega
      exact ⟨by omega, nonempty, by rw [steps.miss place before here, same]⟩

private theorem Steps.next?_eq (steps : Steps pattern text reported) (ended : Option Nat) (inside : ended.getD 0 ≤ text.size) :
    pattern.next? text ended = pattern.find? text (ended.getD 0) := by
  cases ended with
  | none => rfl
  | some place =>
    rw [next?, findAfter?, Option.getD_some]
    cases first : pattern.find? text place with
    | none => rfl
    | some found =>
      obtain ⟨-, nonempty, -⟩ := steps.reported_of_some (by simp at inside; omega) first
      simp [Nat.ne_of_lt nonempty]

private theorem Steps.filterMap_eq (steps : Steps pattern text reported) {ended : Option Nat} {series : List Match}
    (successive : Successive pattern text ended series) (inside : ended.getD 0 ≤ text.size) :
    series.filterMap (pattern.part? text) = reported (ended.getD 0) := by
  induction successive with
  | @last ended none =>
    rw [steps.next?_eq ended inside] at none
    exact (steps.reported_of_none (by omega) inside none).symm
  | @next ended found more some _ ih =>
    have within := (next?_eq_some some).2.between
    rw [steps.next?_eq ended inside] at some
    obtain ⟨-, -, same⟩ := steps.reported_of_some (by omega) some
    have later := ih (by simp; omega)
    rw [same, List.filterMap_cons]
    cases pattern.part? text found with
    | none => simpa using later
    | some part => simpa using later

theorem Steps.extract_eq (steps : Steps pattern text reported) : pattern.extract text = reported 0 :=
  steps.filterMap_eq (successive_findAll pattern text) (Nat.zero_le _)

/-- A pattern matches where a scanner finds something, and the two report the same and go on from the same
place. -/
structure Follows (pattern : Pattern) (scanner : Scanner) : Prop where
  miss : ∀ text place, scanner.front? (ahead text place) = none → pattern.matchAt text place = none
  hit : ∀ text place part rest, scanner.front? (ahead text place) = .some (part, rest) →
    ∃ found, pattern.matchAt text place = .some found ∧ ahead text found.stop = rest ∧
      pattern.part? text found = .some (String.ofList part)

theorem Follows.extract_eq_scan {scanner : Scanner} (follows : Follows pattern scanner) (text : Array Char) :
    pattern.extract text = scanner.scan text.toList := by
  have steps : Steps pattern text fun place => scanner.scan (ahead text place) := by
    refine ⟨fun place found inside here => ?_, fun place inside here => ?_, ?_⟩
    · cases front : scanner.front? (ahead text place) with
      | none =>
        rw [follows.miss text place front] at here
        cases here
      | some hit =>
        obtain ⟨part, rest⟩ := hit
        obtain ⟨other, matched, same, extracted⟩ := follows.hit text place part rest front
        rw [matched, Option.some_inj] at here
        subst here
        have shorter := scanner.shortens _ _ _ front
        rw [← same, length_ahead, length_ahead] at shorter
        refine ⟨by omega, ?_⟩
        rw [scanner.scan_of_some front, same, extracted]
        rfl
    · have none : scanner.front? (ahead text place) = none := by
        refine Option.eq_none_iff_forall_ne_some.mpr fun hit front => ?_
        obtain ⟨other, matched, -⟩ := follows.hit text place hit.1 hit.2 front
        rw [matched] at here
        cases here
      rw [ahead_of_lt inside] at none ⊢
      exact scanner.scan_of_none none
    · have none : ahead text text.size = [] := List.drop_eq_nil_of_le (by simp)
      rw [none, Scanner.scan]
  exact steps.extract_eq

end Extraction

end Pattern

end SourceAtlas
