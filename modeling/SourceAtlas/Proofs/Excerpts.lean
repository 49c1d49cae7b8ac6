import SourceAtlas.Proofs.Matching
import SourceAtlas.Registry
import Mathlib.Data.List.Flatten

/-! What a pattern extracts from a text: at most one part of each match, none of them empty, one after
the other and without overlap. So all that is extracted together is never longer than the text. -/
namespace SourceAtlas

namespace Match

/-- What the first group with something in it has matched. -/
structure IsFirstGroup (found : Match) (part : Capture) : Prop where
  latest : found.group? part.index = some part
  numbered : 1 ≤ part.index
  nonempty : part.start < part.stop
  first : ∀ index other, 1 ≤ index → index < part.index → found.group? index = some other → other.stop ≤ other.start

variable {found : Match} {part : Capture}

theorem index_of_group? {index : Nat} (matched : found.group? index = some part) : part.index = index := by
  simpa using List.find?_some matched

theorem IsFirstGroup.mem (is : found.IsFirstGroup part) : part ∈ found.captures :=
  List.mem_of_find?_eq_some is.latest

theorem IsFirstGroup.unique {other : Capture} (is : found.IsFirstGroup part) (isToo : found.IsFirstGroup other) :
    part = other := by
  have same : part.index = other.index := by
    rcases Nat.lt_trichotomy part.index other.index with less | same | greater
    · have := isToo.first part.index part is.numbered less is.latest
      have := is.nonempty
      omega
    · exact same
    · have := is.first other.index other isToo.numbered greater isToo.latest
      have := isToo.nonempty
      omega
  have latest := is.latest
  rw [same, isToo.latest] at latest
  exact (Option.some.inj latest).symm

theorem isFirstGroup_of_firstGroup? {groups : Nat} (chosen : found.firstGroup? groups = some part) :
    found.IsFirstGroup part := by
  obtain ⟨before, index, after, range, matched, none⟩ := List.findSome?_eq_some_iff.mp chosen
  obtain ⟨latest, nonempty⟩ := Option.filter_eq_some_iff.mp matched
  obtain rfl := index_of_group? latest
  have inRange (index : Nat) : index ∈ before ++ part.index :: after ↔ 1 ≤ index ∧ index < 1 + groups := by
    rw [← range]
    simp
  have ascending : (before ++ part.index :: after).Pairwise (· < ·) := range ▸ List.pairwise_lt_range'
  have bounds := (inRange part.index).mp (by simp)
  refine ⟨latest, bounds.1, by simpa using nonempty, ?_⟩
  intro index other numbered less matched
  have member : index ∈ before := by
    rcases List.mem_append.mp ((inRange index).mpr ⟨numbered, by omega⟩) with earlier | later
    · exact earlier
    · rcases List.mem_cons.mp later with same | later
      · omega
      · have := (List.pairwise_cons.mp (List.pairwise_append.mp ascending).2.1).1 index later
        omega
  have empty := none index member
  rw [matched] at empty
  simpa using empty

theorem firstGroup?_eq_some_iff {groups : Nat} (few : ∀ capture ∈ found.captures, capture.index ≤ groups) :
    found.firstGroup? groups = some part ↔ found.IsFirstGroup part := by
  refine ⟨isFirstGroup_of_firstGroup?, fun is => ?_⟩
  have inRange : part.index ∈ List.range' 1 groups := by
    have := few part is.mem
    have := is.numbered
    rw [List.mem_range'_1]
    omega
  have some : (found.firstGroup? groups).isSome := by
    refine List.findSome?_isSome_iff.mpr ⟨part.index, inRange, ?_⟩
    simp [is.latest, is.nonempty]
  obtain ⟨other, chosen⟩ := Option.isSome_iff_exists.mp some
  rw [chosen, is.unique (isFirstGroup_of_firstGroup? chosen)]

end Match

namespace Pattern

theorem Takes.index_le {text : Array Char} {pattern : Pattern} {place reached : Nat} {captures : List Capture}
    (takes : Takes text pattern place reached captures) :
    ∀ capture ∈ captures, capture.index ≤ pattern.groupCount := by
  induction takes with
  | empty | one | many | look | optionalNone => simp
  | group _ ih =>
    rw [List.forall_mem_cons, groupCount]
    exact ⟨Nat.le_max_left _ _, fun capture member => Nat.le_trans (ih capture member) (Nat.le_max_right _ _)⟩
  | sequence _ _ ihOne ihTwo =>
    rw [List.forall_mem_append, groupCount]
    exact ⟨fun capture member => Nat.le_trans (ihTwo capture member) (Nat.le_max_right _ _),
      fun capture member => Nat.le_trans (ihOne capture member) (Nat.le_max_left _ _)⟩
  | repeatedMore _ _ ihOne ihTwo => exact List.forall_mem_append.mpr ⟨ihTwo, ihOne⟩
  | eitherFirst _ ih => exact fun capture member => Nat.le_trans (ih capture member) (Nat.le_max_left _ _)
  | eitherSecond _ ih => exact fun capture member => Nat.le_trans (ih capture member) (Nat.le_max_right _ _)
  | optionalSome _ ih | repeatedOnce _ ih => exact ih

/-- Of each match the first group with something in it, if it has one. -/
inductive Picks : List Match → List Capture → Prop
  | nil : Picks [] []
  | silent {found : Match} {series : List Match} {parts : List Capture} (nothing : ∀ part, ¬ found.IsFirstGroup part)
      (later : Picks series parts) : Picks (found :: series) parts
  | picked {found : Match} {part : Capture} {series : List Match} {parts : List Capture}
      (first : found.IsFirstGroup part) (later : Picks series parts) : Picks (found :: series) (part :: parts)

variable {pattern : Pattern} {text : Array Char}

theorem picks_firstGroups {series : List Match} (all : ∀ found ∈ series, IsMatch pattern text found) :
    Picks series (series.filterMap fun found => found.firstGroup? pattern.groupCount) := by
  induction series with
  | nil => exact .nil
  | cons found series ih =>
    rw [List.forall_mem_cons] at all
    have chosen (part : Capture) :
        found.firstGroup? pattern.groupCount = .some part ↔ found.IsFirstGroup part :=
      Match.firstGroup?_eq_some_iff all.1.takes.index_le
    have later := ih all.2
    rw [List.filterMap_cons]
    cases first : found.firstGroup? pattern.groupCount with
    | none => exact .silent (fun part is => by simp [(chosen part).mpr is] at first) later
    | some part => exact .picked ((chosen part).mp first) later

/-- Parts of a text that stand one after the other, none of them empty. -/
structure Spaced (size : Nat) (parts : List Capture) : Prop where
  inside : ∀ part ∈ parts, part.start < part.stop ∧ part.stop ≤ size
  apart : parts.Pairwise fun first second => first.stop ≤ second.start

theorem Picks.spaced {ended : Option Nat} {series : List Match} (successive : Successive pattern text ended series)
    {parts : List Capture} (picks : Picks series parts) :
    Spaced text.size parts ∧ ∀ part ∈ parts, ∀ place ∈ ended, place ≤ part.start := by
  -- The second half keeps the later parts off the match at hand, inside of which its own part lies.
  induction successive generalizing parts with
  | last =>
    cases picks
    exact ⟨⟨by simp, .nil⟩, by simp⟩
  | @next ended found series some rest ih =>
    obtain ⟨after, is⟩ := next?_eq_some some
    obtain ⟨forward, within, between⟩ := is.between
    cases picks with
    | silent nothing later =>
      obtain ⟨spaced, further⟩ := ih later
      refine ⟨spaced, fun part member place ends => ?_⟩
      have := after place ends
      have := further part member found.stop rfl
      omega
    | @picked _ part _ parts first later =>
      obtain ⟨spaced, further⟩ := ih later
      have here := between part first.mem
      have nonempty := first.nonempty
      refine ⟨⟨?_, ?_⟩, ?_⟩
      · exact List.forall_mem_cons.mpr ⟨⟨nonempty, by omega⟩, spaced.inside⟩
      · refine List.pairwise_cons.mpr ⟨fun other member => ?_, spaced.apart⟩
        have := further other member found.stop rfl
        omega
      · refine List.forall_mem_cons.mpr ⟨fun place ends => ?_, fun other member place ends => ?_⟩
        · have := after place ends
          omega
        · have := after place ends
          have := further other member found.stop rfl
          omega

def excerpt (text : String) (part : Capture) : String :=
  String.ofList ((text.toList.drop part.start).take (part.stop - part.start))

theorem extract_eq (pattern : Pattern) (text : String) :
    pattern.extract text.toList.toArray = ((pattern.findAll text.toList.toArray).filterMap fun found =>
      found.firstGroup? pattern.groupCount).map (excerpt text) := by
  have each (part : Capture) :
      String.ofList (text.toList.toArray.extract part.start part.stop).toList = excerpt text part := by
    simp [excerpt, List.extract_eq_take_drop]
  simp only [extract, List.map_filterMap, each]

section Lengths
variable {text : String} {parts : List Capture}

theorem Spaced.sublist (spaced : Spaced text.length parts) {low : Nat} (after : ∀ part ∈ parts, low ≤ part.start) :
    ((parts.map (excerpt text)).flatMap String.toList).Sublist (text.toList.drop low) := by
  induction parts generalizing low with
  | nil => exact List.nil_sublist _
  | cons part parts ih =>
    have inside := List.forall_mem_cons.mp spaced.inside
    have apart := List.pairwise_cons.mp spaced.apart
    have rest := ih ⟨inside.2, apart.2⟩ apart.1
    have split := List.take_append_drop (part.stop - part.start) (text.toList.drop part.start)
    rw [List.drop_drop, Nat.add_sub_cancel' (Nat.le_of_lt inside.1.1)] at split
    have here : ((text.toList.drop part.start).take (part.stop - part.start) ++
        (parts.map (excerpt text)).flatMap String.toList).Sublist (text.toList.drop part.start) := by
      have both := (List.Sublist.refl ((text.toList.drop part.start).take (part.stop - part.start))).append rest
      rwa [split] at both
    have whole : ((part :: parts).map (excerpt text)).flatMap String.toList =
        (text.toList.drop part.start).take (part.stop - part.start) ++
          (parts.map (excerpt text)).flatMap String.toList := by
      rw [List.map_cons, List.flatMap_cons, excerpt, String.toList_ofList]
    rw [whole]
    exact here.trans (List.drop_sublist_drop_left _ (after part List.mem_cons_self))

private theorem foldr_length {β : Type} (view : String → List β) (strings : List String) :
    strings.foldr (fun string total => (view string).length + total) 0 = (strings.flatMap view).length := by
  induction strings with
  | nil => rfl
  | cons string strings ih => rw [List.foldr_cons, ih, List.flatMap_cons, List.length_append]

theorem Spaced.length_le (spaced : Spaced text.length parts) :
    (parts.map (excerpt text)).foldr (fun found total => found.length + total) 0 ≤ text.length := by
  have sublist := spaced.sublist fun part _ => Nat.zero_le part.start
  simpa [← String.length_toList, foldr_length String.toList] using sublist.length_le

theorem Spaced.bytes_le (spaced : Spaced text.length parts) :
    (parts.map (excerpt text)).foldr (fun found total => (Bytes.ofText found).length + total) 0 ≤
      (Bytes.ofText text).length := by
  have sublist := (spaced.sublist fun part _ => Nat.zero_le part.start).flatMap String.utf8EncodeChar
  rw [List.flatMap_assoc] at sublist
  rw [foldr_length Bytes.ofText]
  exact sublist.length_le

end Lengths

/-- What is extracted, with the matches and the parts of the text that it comes from. -/
structure Extracted (pattern : Pattern) (text : String) (series : List Match) (parts : List Capture)
    (found : List String) : Prop where
  successive : Successive pattern text.toList.toArray none series
  matching : ∀ hit ∈ series, IsMatch pattern text.toList.toArray hit
  picks : Picks series parts
  spaced : Spaced text.length parts
  excerpts : found = parts.map (excerpt text)
  length_le : found.foldr (fun part total => part.length + total) 0 ≤ text.length
  bytes_le : found.foldr (fun part total => (Bytes.ofText part).length + total) 0 ≤ (Bytes.ofText text).length

theorem extracted (pattern : Pattern) (text : String) :
    ∃ series parts, Extracted pattern text series parts (pattern.extract text.toList.toArray) := by
  have successive := successive_findAll pattern text.toList.toArray
  have picks := picks_firstGroups successive.isMatch
  have spaced := (picks.spaced successive).1
  rw [List.size_toArray, String.length_toList] at spaced
  rw [extract_eq]
  exact ⟨_, _, successive, successive.isMatch, picks, spaced, rfl, spaced.length_le, spaced.bytes_le⟩

end Pattern

end SourceAtlas
