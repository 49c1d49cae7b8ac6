import SourceAtlas.Pattern.Matching
import Mathlib.Tactic.SplitIfs

/-! What matches are. The search tries the ways in which a pattern can take a part of a text in
their order and ends with one of them; matches that it finds one after the other do not overlap,
and it misses none of them for lack of steps. -/
namespace SourceAtlas.Pattern

/-- The ways in which a pattern can take the text between two places, with what its groups match
on the way, latest first. -/
inductive Takes (text : Array Char) : Pattern → (place reached : Nat) → List Capture → Prop
  | empty {place : Nat} : Takes text .empty place place []
  | one {accepts : Char → Bool} {place : Nat} {c : Char} (here : text[place]? = some c) (accepted : accepts c = true) :
      Takes text (.one accepts) place (place + 1) []
  | many {accepts : Char → Bool} {greedy : Bool} {place reached : Nat} (further : place < reached)
      (accepted : ∀ between, place ≤ between → between < reached → ∃ c, text[between]? = some c ∧ accepts c = true) :
      Takes text (.many accepts greedy) place reached []
  | look {holds : Option Char → Option Char → Bool} {place : Nat}
      (seen : holds (before? text place) text[place]? = true) : Takes text (.look holds) place place []
  | group {index : Nat} {body : Pattern} {place reached : Nat} {captures : List Capture}
      (inside : Takes text body place reached captures) :
      Takes text (.group index body) place reached (⟨index, place, reached⟩ :: captures)
  | sequence {first second : Pattern} {place middle reached : Nat} {earlier later : List Capture}
      (one : Takes text first place middle earlier) (two : Takes text second middle reached later) :
      Takes text (.sequence first second) place reached (later ++ earlier)
  | eitherFirst {first second : Pattern} {place reached : Nat} {captures : List Capture}
      (taken : Takes text first place reached captures) : Takes text (.either first second) place reached captures
  | eitherSecond {first second : Pattern} {place reached : Nat} {captures : List Capture}
      (taken : Takes text second place reached captures) : Takes text (.either first second) place reached captures
  | optionalSome {body : Pattern} {greedy : Bool} {place reached : Nat} {captures : List Capture}
      (taken : Takes text body place reached captures) : Takes text (.optional body greedy) place reached captures
  | optionalNone {body : Pattern} {greedy : Bool} {place : Nat} : Takes text (.optional body greedy) place place []
  | repeatedOnce {body : Pattern} {greedy : Bool} {place reached : Nat} {captures : List Capture}
      (taken : Takes text body place reached captures) : Takes text (.repeated body greedy) place reached captures
  | repeatedMore {body : Pattern} {greedy : Bool} {place middle reached : Nat} {earlier later : List Capture}
      (once : Takes text body place middle earlier) (more : Takes text (.repeated body greedy) middle reached later) :
      Takes text (.repeated body greedy) place reached (later ++ earlier)

section Running
variable {text : Array Char} {result : Nat × List Capture}

private theorem orElse_eq_some {α : Type} {first : Option α} {second : Unit → Option α} {value : α}
    (found : orElse first second = some value) : first = some value ∨ second () = some value := by
  cases first with
  | none => exact .inr found
  | some other => exact .inl found

private theorem farthestFirst_eq_some {α : Type} {attempt : Nat → Option α} {place count : Nat} {value : α}
    (found : farthestFirst attempt place count = some value) :
    ∃ reached, place < reached ∧ reached ≤ place + count ∧ attempt reached = some value := by
  induction count with
  | zero => cases found
  | succ count ih =>
    rcases orElse_eq_some found with here | nearer
    · exact ⟨place + count + 1, by omega, by omega, here⟩
    · obtain ⟨reached, further, within, attempted⟩ := ih nearer
      exact ⟨reached, further, by omega, attempted⟩

private theorem nearestFirst_eq_some {α : Type} {attempt : Nat → Option α} {place count : Nat} {value : α}
    (found : nearestFirst attempt place count = some value) :
    ∃ reached, place < reached ∧ reached ≤ place + count ∧ attempt reached = some value := by
  induction count generalizing place with
  | zero => cases found
  | succ count ih =>
    rcases orElse_eq_some found with here | farther
    · exact ⟨place + 1, by omega, by omega, here⟩
    · obtain ⟨reached, further, within, attempted⟩ := ih farther
      exact ⟨reached, by omega, by omega, attempted⟩

theorem accepts_of_lt_runEnd {accepts : Char → Bool} {place between : Nat} (after : place ≤ between)
    (before : between < runEnd text accepts place) : ∃ c, text[between]? = some c ∧ accepts c = true := by
  fun_induction runEnd text accepts place with
  | case1 place inside accepted ih =>
    by_cases here : between = place
    · subst here
      exact ⟨text[between], by simp [inside], accepted⟩
    · exact ih (by omega) before
  | case2 place inside refused => omega
  | case3 place outside => omega

private def Sound (text : Array Char) (pattern : Pattern)
    (attempt : Nat → List Capture → Continuation → Option (Nat × List Capture)) : Prop :=
  ∀ place captures next result, attempt place captures next = some result →
    ∃ reached added, Takes text pattern place reached added ∧ next reached (added ++ captures) = some result

private theorem repeatOn_eq_some {body : Pattern}
    {once : Nat → List Capture → Continuation → Option (Nat × List Capture)} (sound : Sound text body once)
    {greedy : Bool} {next : Continuation} {count place : Nat} {captures : List Capture}
    (found : repeatOn once greedy next count place captures = some result) :
    next place captures = some result ∨ ∃ reached added,
      Takes text (.repeated body greedy) place reached added ∧ next reached (added ++ captures) = some result := by
  induction count generalizing place captures with
  | zero => exact .inl found
  | succ count ih =>
    have again (repeated : once place captures (fun reached captures =>
        if place < reached then repeatOn once greedy next count reached captures else none) = some result) :
        ∃ reached added, Takes text (.repeated body greedy) place reached added ∧
          next reached (added ++ captures) = some result := by
      obtain ⟨middle, earlier, taken, rest⟩ := sound place captures _ result repeated
      split_ifs at rest
      rcases ih rest with ended | ⟨reached, later, more, ended⟩
      · exact ⟨middle, earlier, .repeatedOnce taken, ended⟩
      · exact ⟨reached, later ++ earlier, .repeatedMore taken more, by rwa [List.append_assoc]⟩
    rw [repeatOn] at found
    split_ifs at found
    · rcases orElse_eq_some found with repeated | ended
      · exact .inr (again repeated)
      · exact .inl ended
    · rcases orElse_eq_some found with ended | repeated
      · exact .inl ended
      · exact .inr (again repeated)

/-- Where a search goes on to the end, it goes on from a place up to which the pattern can take the text. -/
theorem run_sound (pattern : Pattern) : Sound text pattern (run text pattern) := by
  induction pattern with
  | empty => exact fun place captures next result found => ⟨place, [], .empty, found⟩
  | one accepts =>
    intro place captures next result found
    rw [run] at found
    split at found
    · rename_i c here
      split_ifs at found with accepted
      exact ⟨place + 1, [], .one here accepted, found⟩
    · cases found
  | many accepts greedy =>
    intro place captures next result found
    have attempted : ∃ reached, place < reached ∧ reached ≤ place + (runEnd text accepts place - place) ∧
        next reached captures = some result := by
      rw [run] at found
      split_ifs at found
      · exact farthestFirst_eq_some found
      · exact nearestFirst_eq_some found
    obtain ⟨reached, further, within, ended⟩ := attempted
    refine ⟨reached, [], .many further fun between after before => ?_, ended⟩
    exact accepts_of_lt_runEnd after (by omega)
  | look holds =>
    intro place captures next result found
    rw [run] at found
    split_ifs at found with seen
    exact ⟨place, [], .look seen, found⟩
  | group index body ih =>
    intro place captures next result found
    rw [run] at found
    obtain ⟨reached, added, taken, ended⟩ := ih place captures _ result found
    exact ⟨reached, ⟨index, place, reached⟩ :: added, .group taken, ended⟩
  | sequence first second ihFirst ihSecond =>
    intro place captures next result found
    rw [run] at found
    obtain ⟨middle, earlier, one, rest⟩ := ihFirst place captures _ result found
    obtain ⟨reached, later, two, ended⟩ := ihSecond middle _ _ result rest
    exact ⟨reached, later ++ earlier, .sequence one two, by rwa [List.append_assoc]⟩
  | either first second ihFirst ihSecond =>
    intro place captures next result found
    rw [run] at found
    rcases orElse_eq_some found with found | found
    · obtain ⟨reached, added, taken, ended⟩ := ihFirst place captures next result found
      exact ⟨reached, added, .eitherFirst taken, ended⟩
    · obtain ⟨reached, added, taken, ended⟩ := ihSecond place captures next result found
      exact ⟨reached, added, .eitherSecond taken, ended⟩
  | optional body greedy ih =>
    intro place captures next result found
    have either : run text body place captures next = some result ∨ next place captures = some result := by
      rw [run] at found
      split_ifs at found
      · exact orElse_eq_some found
      · exact (orElse_eq_some found).symm
    rcases either with found | ended
    · obtain ⟨reached, added, taken, ended⟩ := ih place captures next result found
      exact ⟨reached, added, .optionalSome taken, ended⟩
    · exact ⟨place, [], .optionalNone, ended⟩
  | repeated body greedy ih =>
    intro place captures next result found
    rw [run] at found
    obtain ⟨middle, earlier, taken, rest⟩ := ih place captures _ result found
    split_ifs at rest
    · rcases repeatOn_eq_some ih rest with ended | ⟨reached, later, more, ended⟩
      · exact ⟨middle, earlier, .repeatedOnce taken, ended⟩
      · exact ⟨reached, later ++ earlier, .repeatedMore taken more, by rwa [List.append_assoc]⟩
    · exact ⟨middle, earlier, .repeatedOnce taken, rest⟩

end Running

section Places
variable {text : Array Char} {pattern : Pattern}

def Between (low high : Nat) (captures : List Capture) : Prop :=
  ∀ capture ∈ captures, low ≤ capture.start ∧ capture.start ≤ capture.stop ∧ capture.stop ≤ high

theorem Between.append {low middle high : Nat} {earlier later : List Capture} (one : Between low middle earlier)
    (two : Between middle high later) (first : low ≤ middle) (second : middle ≤ high) :
    Between low high (later ++ earlier) := by
  intro capture member
  rcases List.mem_append.mp member with inLater | inEarlier
  · have := two capture inLater
    omega
  · have := one capture inEarlier
    omega

theorem Takes.between {place reached : Nat} {captures : List Capture} (takes : Takes text pattern place reached captures)
    (inside : place ≤ text.size) : place ≤ reached ∧ reached ≤ text.size ∧ Between place reached captures := by
  have nothing (low high : Nat) : Between low high [] := fun capture member => absurd member List.not_mem_nil
  induction takes with
  | empty | look | optionalNone => exact ⟨Nat.le_refl _, inside, nothing _ _⟩
  | one here =>
    have := (Array.getElem?_eq_some_iff.mp here).1
    exact ⟨by omega, by omega, nothing _ _⟩
  | @many accepts greedy place reached further accepted =>
    obtain ⟨c, last, -⟩ := accepted (reached - 1) (by omega) (by omega)
    have := (Array.getElem?_eq_some_iff.mp last).1
    exact ⟨by omega, by omega, nothing _ _⟩
  | group _ ih =>
    obtain ⟨forward, within, between⟩ := ih inside
    exact ⟨forward, within, List.forall_mem_cons.mpr ⟨⟨Nat.le_refl _, forward, Nat.le_refl _⟩, between⟩⟩
  | sequence _ _ ihOne ihTwo | repeatedMore _ _ ihOne ihTwo =>
    obtain ⟨forward, within, between⟩ := ihOne inside
    obtain ⟨further, endWithin, later⟩ := ihTwo within
    exact ⟨by omega, endWithin, between.append later forward further⟩
  | eitherFirst _ ih | eitherSecond _ ih | optionalSome _ ih | repeatedOnce _ ih => exact ih inside

structure IsMatch (pattern : Pattern) (text : Array Char) (found : Match) : Prop where
  inside : found.start ≤ text.size
  takes : Takes text pattern found.start found.stop found.captures

theorem IsMatch.between {found : Match} (is : IsMatch pattern text found) :
    found.start ≤ found.stop ∧ found.stop ≤ text.size ∧ Between found.start found.stop found.captures :=
  is.takes.between is.inside

end Places

section Searching
variable {pattern : Pattern} {text : Array Char} {place : Nat} {found : Match}

theorem matchAt_eq_some (inside : place ≤ text.size) (matched : pattern.matchAt text place = some found) :
    found.start = place ∧ IsMatch pattern text found := by
  obtain ⟨⟨stop, captures⟩, ran, rfl⟩ := Option.map_eq_some_iff.mp matched
  obtain ⟨reached, added, takes, ended⟩ := run_sound pattern place [] _ _ ran
  rw [List.append_nil] at ended
  cases ended
  exact ⟨rfl, inside, takes⟩

theorem findWithin_eq_some {places : Nat} (inside : place + places ≤ text.size + 1)
    (first : pattern.findWithin text places place = some found) :
    place ≤ found.start ∧ IsMatch pattern text found := by
  induction places generalizing place with
  | zero => cases first
  | succ places ih =>
    rcases orElse_eq_some first with here | later
    · obtain ⟨start, is⟩ := matchAt_eq_some (by omega) here
      exact ⟨by omega, is⟩
    · obtain ⟨after, is⟩ := ih (by omega) later
      exact ⟨by omega, is⟩

theorem find?_eq_some (first : pattern.find? text place = some found) :
    place ≤ found.start ∧ IsMatch pattern text found := by
  by_cases inside : place ≤ text.size + 1
  · exact findWithin_eq_some (by omega) first
  · have nowhere : text.size + 1 - place = 0 := by omega
    rw [find?, nowhere] at first
    cases first

theorem findAfter?_eq_some (next : pattern.findAfter? text place = some found) :
    place ≤ found.start ∧ place < found.stop ∧ IsMatch pattern text found := by
  rw [findAfter?] at next
  split at next
  · cases next
  · rename_i first firstFound
    split_ifs at next with repeated
    · obtain ⟨after, is⟩ := find?_eq_some next
      have := is.between
      exact ⟨by omega, by omega, is⟩
    · cases next
      obtain ⟨after, is⟩ := find?_eq_some firstFound
      have := is.between
      simp only [Bool.and_eq_true, decide_eq_true_eq] at repeated
      exact ⟨after, by omega, is⟩

end Searching

section Matches
variable (pattern : Pattern) (text : Array Char)

def next? : (ended : Option Nat) → Option Match
  | none => pattern.find? text 0
  | some place => pattern.findAfter? text place

/-- Matches one after the other, each the next one, up to the last that there is. -/
inductive Successive : (ended : Option Nat) → List Match → Prop
  | last {ended : Option Nat} (none : pattern.next? text ended = .none) : Successive ended []
  | next {ended : Option Nat} {found : Match} {more : List Match} (some : pattern.next? text ended = .some found)
      (rest : Successive (.some found.stop) more) : Successive ended (found :: more)

variable {pattern text}

theorem successive_findAllAfter {count place : Nat} (enough : text.size < place + count) :
    Successive pattern text (some place) (pattern.findAllAfter text count place) := by
  induction count generalizing place with
  | zero =>
    -- The place is past the end of the text, and a further match would end later still.
    refine .last (Option.eq_none_iff_forall_ne_some.mpr fun found next => ?_)
    have := findAfter?_eq_some next
    have := this.2.2.between
    omega
  | succ count ih =>
    rw [findAllAfter]
    split
    · rename_i none
      exact .last none
    · rename_i found next
      have := findAfter?_eq_some next
      exact .next next (ih (by omega))

theorem successive_findAll (pattern : Pattern) (text : Array Char) :
    Successive pattern text none (pattern.findAll text) := by
  rw [findAll]
  split
  · rename_i none
    exact .last none
  · rename_i found first
    exact .next first (successive_findAllAfter (by omega))

theorem next?_eq_some {ended : Option Nat} {found : Match} (next : pattern.next? text ended = some found) :
    (∀ place ∈ ended, place ≤ found.start) ∧ IsMatch pattern text found := by
  cases ended with
  | none => exact ⟨by simp, (find?_eq_some next).2⟩
  | some place =>
    obtain ⟨after, -, is⟩ := findAfter?_eq_some next
    exact ⟨by simpa using after, is⟩

theorem Successive.isMatch {ended : Option Nat} {series : List Match} (successive : Successive pattern text ended series) :
    ∀ found ∈ series, IsMatch pattern text found := by
  induction successive with
  | last => simp
  | next some _ ih => exact List.forall_mem_cons.mpr ⟨(next?_eq_some some).2, ih⟩

end Matches

end SourceAtlas.Pattern
