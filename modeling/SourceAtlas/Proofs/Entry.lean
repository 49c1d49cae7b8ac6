import SourceAtlas.FileSystem.Resolution
import Mathlib.Data.List.Nodup
import Mathlib.Data.List.Perm.Subperm

/-! What a file system keeps: names that a path can spell, each once in its directory, and
finitely many directories. -/
namespace SourceAtlas.FileSystem

section Named
variable {α β : Type}

theorem findNamed?_of_mem {name : Name} {value : α} {items : List (Name × α)}
    (distinct : (items.map (·.1)).Nodup) (member : (name, value) ∈ items) :
    findNamed? name items = some value := by
  induction items with
  | nil => simp at member
  | cons item rest ih =>
    rcases item with ⟨other, old⟩
    simp only [List.map_cons, List.nodup_cons] at distinct
    rcases List.mem_cons.mp member with equal | inside
    · simp only [Prod.mk.injEq] at equal
      simp [findNamed?, equal.1, equal.2]
    · have different : other ≠ name := by
        rintro rfl
        exact distinct.1 (List.mem_map.mpr ⟨_, inside, rfl⟩)
      simp [findNamed?, different, ih distinct.2 inside]

theorem mem_of_findNamed? {name : Name} {value : α} {items : List (Name × α)}
    (found : findNamed? name items = some value) : (name, value) ∈ items := by
  induction items with
  | nil => simp [findNamed?] at found
  | cons item rest ih =>
    rcases item with ⟨other, old⟩
    by_cases same : other = name
    · simp only [findNamed?, same, if_true, Option.some.injEq] at found
      simp [same, found]
    · simp only [findNamed?, same, if_false] at found
      exact List.mem_cons_of_mem _ (ih found)

theorem findNamed?_isSome {name : Name} {value : α} {items : List (Name × α)} (member : (name, value) ∈ items) :
    ∃ found, findNamed? name items = some found := by
  induction items with
  | nil => simp at member
  | cons item rest ih =>
    by_cases same : item.1 = name
    · exact ⟨item.2, by simp [findNamed?, same]⟩
    · have later := (List.mem_cons.mp member).resolve_left fun equal => same (by rw [← equal])
      simpa [findNamed?, same] using ih later

theorem insertNamed_perm (item : Name × α) (items : List (Name × α)) :
    (insertNamed item items).Perm (item :: items) := by
  induction items with
  | nil => exact .refl _
  | cons other rest ih =>
    rw [insertNamed]
    split_ifs
    · exact .refl _
    · exact (ih.cons other).trans (.swap ..)

theorem sortNamed_perm (items : List (Name × α)) : (sortNamed items).Perm items := by
  induction items with
  | nil => exact .refl _
  | cons item rest ih => exact (insertNamed_perm item _).trans (ih.cons item)

private theorem insertNamed_pairwise (item : Name × α) {items : List (Name × α)}
    (ascending : items.Pairwise fun left right => left.1 ≤ right.1) :
    (insertNamed item items).Pairwise fun left right => left.1 ≤ right.1 := by
  induction items with
  | nil => simp [insertNamed]
  | cons other rest ih =>
    obtain ⟨first, tail⟩ := List.pairwise_cons.mp ascending
    rw [insertNamed]
    split_ifs with before
    · refine List.pairwise_cons.mpr ⟨?_, ascending⟩
      intro entry member
      rcases List.mem_cons.mp member with rfl | inside
      · exact before
      · exact List.le_trans before (first entry inside)
    · refine List.pairwise_cons.mpr ⟨?_, ih tail⟩
      intro entry member
      rcases List.mem_cons.mp ((insertNamed_perm item rest).subset member) with rfl | inside
      · exact (List.le_total _ _).resolve_left before
      · exact first entry inside

theorem sortNamed_pairwise {items : List (Name × α)} (distinct : (items.map (·.1)).Nodup) :
    (sortNamed items).Pairwise fun left right => left.1 < right.1 := by
  have ascending : (sortNamed items).Pairwise fun left right => left.1 ≤ right.1 := by
    clear distinct
    induction items with
    | nil => simp [sortNamed]
    | cons item rest ih => exact insertNamed_pairwise item ih
  have different : (sortNamed items).Pairwise fun left right => left.1 ≠ right.1 :=
    List.pairwise_map.mp (((sortNamed_perm items).map _).nodup_iff.mpr distinct)
  refine (ascending.and different).imp ?_
  rintro left right ⟨le, ne⟩
  exact List.not_le.mp fun ge => ne (List.le_antisymm le ge)

private theorem insertNamed_map (change : Name × α → β) (item : Name × α) (items : List (Name × α)) :
    insertNamed (item.1, change item) (items.map fun item => (item.1, change item)) =
      (insertNamed item items).map fun item => (item.1, change item) := by
  induction items with
  | nil => rfl
  | cons other rest ih =>
    simp only [List.map_cons, insertNamed]
    split_ifs
    · rfl
    · simp [ih]

theorem sortNamed_map (change : Name × α → β) (items : List (Name × α)) :
    sortNamed (items.map fun item => (item.1, change item)) =
      (sortNamed items).map fun item => (item.1, change item) := by
  induction items with
  | nil => rfl
  | cons item rest ih =>
    simp only [List.map_cons, sortNamed, List.foldr_cons] at ih ⊢
    rw [ih, insertNamed_map]

theorem findNamed?_map (change : α → β) (name : Name) (items : List (Name × α)) :
    findNamed? name (items.map fun item => (item.1, change item.2)) = (findNamed? name items).map change := by
  induction items with
  | nil => rfl
  | cons item rest ih =>
    by_cases same : item.1 = name
    · simp [findNamed?, same]
    · simp [findNamed?, same, ih]

theorem findNamed?_setNamed_self (name : Name) (value : α) (items : List (Name × α)) :
    findNamed? name (setNamed name value items) = some value := by
  induction items with
  | nil => simp [setNamed, findNamed?]
  | cons item rest ih =>
    by_cases same : item.1 = name
    · simp [setNamed, findNamed?, same]
    · simp [setNamed, findNamed?, same, ih]

theorem findNamed?_setNamed_of_ne {name other : Name} (value : α) (items : List (Name × α))
    (different : other ≠ name) : findNamed? other (setNamed name value items) = findNamed? other items := by
  induction items with
  | nil => simp [setNamed, findNamed?, different.symm]
  | cons item rest ih =>
    by_cases same : item.1 = name
    · simp [setNamed, findNamed?, same, different.symm]
    · simp [setNamed, findNamed?, same, ih]

end Named

namespace Entry

theorem below_induction {motive : Entry → Prop} (file : ∀ content locked, motive (.file content locked))
    (link : ∀ target, motive (.link target))
    (directory : ∀ entries locked, (∀ item ∈ entries, motive item.2) → motive (.directory entries locked))
    (entry : Entry) : motive entry := by
  induction entry using Entry.rec (motive_2 := fun entries => ∀ item ∈ entries, motive item.2)
    (motive_3 := fun item => motive item.2) with
  | file content locked => exact file content locked
  | directory entries locked ih => exact directory entries locked ih
  | link target => exact link target
  | nil item member => simp at member
  | cons first rest head tail item member =>
    rcases List.mem_cons.mp member with rfl | inside
    · exact head
    · exact tail item inside
  | mk name entry ih => exact ih

theorem at?_append (location rest : Location) (entry : Entry) :
    entry.at? (location ++ rest) = (entry.at? location).bind (·.at? rest) := by
  induction location generalizing entry with
  | nil => simp [at?]
  | cons name location ih =>
    cases entry with
    | directory entries locked =>
      simp only [List.cons_append, at?]
      cases findNamed? name entries with
      | none => rfl
      | some child => exact ih child
    | file content locked => rfl
    | link target => rfl

theorem at?_child {top : Entry} {location : Location} {entries : List (Name × Entry)} {locked : Bool}
    {name : Name} {child : Entry} (found : top.at? location = some (.directory entries locked))
    (named : findNamed? name entries = some child) : top.at? (location ++ [name]) = some child := by
  rw [at?_append, found, Option.bind_some, at?, named]
  rfl

theorem put_child {entries : List (Name × Entry)} {locked : Bool} {name : Name} {child : Entry}
    (named : findNamed? name entries = some child) (rest : Location) (entry : Entry) :
    (directory entries locked).put (name :: rest) entry =
      directory (setNamed name (child.put rest entry) entries) locked := by
  cases rest with
  | nil => simp only [put]
  | cons next rest => simp only [put, named]

section Everywhere

mutual

def everyDirectory (holds : List (Name × Entry) → Bool) : Entry → Bool
  | .file _ _ => true
  | .link _ => true
  | .directory entries _ => holds entries && everyDirectoryOfAll holds entries

def everyDirectoryOfAll (holds : List (Name × Entry) → Bool) : List (Name × Entry) → Bool
  | [] => true
  | (_, entry) :: rest => everyDirectory holds entry && everyDirectoryOfAll holds rest

end

variable {holds : List (Name × Entry) → Bool}

theorem everyDirectory_of_mem {name : Name} {entry : Entry} {entries : List (Name × Entry)}
    (every : everyDirectoryOfAll holds entries = true) (member : (name, entry) ∈ entries) :
    entry.everyDirectory holds = true := by
  induction entries with
  | nil => simp at member
  | cons item rest ih =>
    simp only [everyDirectoryOfAll, Bool.and_eq_true] at every
    rcases List.mem_cons.mp member with rfl | inside
    · exact every.1
    · exact ih every.2 inside

theorem everyDirectory_at? {top entry : Entry} {location : Location}
    (every : top.everyDirectory holds = true) (found : top.at? location = some entry) :
    entry.everyDirectory holds = true := by
  induction location generalizing top with
  | nil =>
    obtain rfl : top = entry := by simpa [at?] using found
    exact every
  | cons name rest ih =>
    cases top with
    | directory entries locked =>
      obtain ⟨child, named, below⟩ := Option.bind_eq_some_iff.mp found
      simp only [everyDirectory, Bool.and_eq_true] at every
      exact ih (everyDirectory_of_mem every.2 (mem_of_findNamed? named)) below
    | file content locked => simp [at?] at found
    | link target => simp [at?] at found

theorem everyDirectory_entries {top : Entry} {location : Location} {entries : List (Name × Entry)}
    {locked : Bool} (every : top.everyDirectory holds = true)
    (found : top.at? location = some (.directory entries locked)) : holds entries = true := by
  have inner := everyDirectory_at? every found
  simp only [everyDirectory, Bool.and_eq_true] at inner
  exact inner.1

end Everywhere

section Counting

mutual

def directoryLocations : Entry → List Location
  | .file _ _ => []
  | .link _ => []
  | .directory entries _ => [] :: directoryLocationsOfAll entries

def directoryLocationsOfAll : List (Name × Entry) → List Location
  | [] => []
  | (name, entry) :: rest => (directoryLocations entry).map (name :: ·) ++ directoryLocationsOfAll rest

end

mutual

theorem length_directoryLocations : ∀ entry : Entry,
    entry.directoryLocations.length = entry.directoryCount
  | .file _ _ => rfl
  | .link _ => rfl
  | .directory entries _ => by
    simp [directoryLocations, directoryCount, length_directoryLocationsOfAll entries]

theorem length_directoryLocationsOfAll : ∀ entries : List (Name × Entry),
    (directoryLocationsOfAll entries).length = directoryCountOfAll entries
  | [] => rfl
  | (_, entry) :: rest => by
    simp [directoryLocationsOfAll, directoryCountOfAll, length_directoryLocations entry,
      length_directoryLocationsOfAll rest]

end

private theorem mem_directoryLocationsOfAll {name : Name} {entry : Entry} {location : Location}
    {entries : List (Name × Entry)} (member : (name, entry) ∈ entries)
    (inside : location ∈ entry.directoryLocations) :
    name :: location ∈ directoryLocationsOfAll entries := by
  induction entries with
  | nil => simp at member
  | cons item rest ih =>
    rcases item with ⟨other, first⟩
    rcases List.mem_cons.mp member with equal | later
    · simp only [Prod.mk.injEq] at equal
      simp [directoryLocationsOfAll, equal.1, ← equal.2, inside]
    · exact List.mem_append_right _ (ih later)

theorem mem_directoryLocations {top : Entry} {location : Location} {entries : List (Name × Entry)}
    {locked : Bool} (found : top.at? location = some (.directory entries locked)) :
    location ∈ top.directoryLocations := by
  induction location generalizing top with
  | nil =>
    obtain rfl : top = .directory entries locked := by simpa [at?] using found
    simp [directoryLocations]
  | cons name rest ih =>
    cases top with
    | directory others lock =>
      obtain ⟨child, named, below⟩ := Option.bind_eq_some_iff.mp found
      exact List.mem_cons_of_mem _ (mem_directoryLocationsOfAll (mem_of_findNamed? named) (ih below))
    | file content lock => simp [at?] at found
    | link target => simp [at?] at found

theorem length_le_directoryCount {top : Entry} {locations : List Location} (distinct : locations.Nodup)
    (found : ∀ location ∈ locations, ∃ entries locked,
      top.at? location = some (.directory entries locked)) :
    locations.length ≤ top.directoryCount := by
  rw [← length_directoryLocations]
  refine (distinct.subperm ?_).length_le
  intro location member
  obtain ⟨entries, locked, here⟩ := found location member
  exact mem_directoryLocations here

end Counting

end Entry

section WellFormed

/-- A name that an entry can have, so that a path can lead to it. -/
structure ProperName (name : Name) : Prop where
  nonempty : name ≠ []
  notHere : name ≠ here
  notParent : name ≠ parent
  noSlash : Path.slash ∉ name
  noNul : 0 ∉ name
  short : name.length ≤ maxNameLength

instance : DecidablePred ProperName := fun name =>
  decidable_of_iff (name ≠ [] ∧ name ≠ here ∧ name ≠ parent ∧ Path.slash ∉ name ∧ 0 ∉ name ∧
      name.length ≤ maxNameLength)
    ⟨fun ⟨nonempty, notHere, notParent, noSlash, noNul, short⟩ =>
      ⟨nonempty, notHere, notParent, noSlash, noNul, short⟩,
    fun proper => ⟨proper.nonempty, proper.notHere, proper.notParent, proper.noSlash, proper.noNul,
      proper.short⟩⟩

def areProperlyNamed (entries : List (Name × Entry)) : Bool :=
  decide ((∀ entry ∈ entries, ProperName entry.1) ∧ (entries.map (·.1)).Nodup)

def areTextual (entries : List (Name × Entry)) : Bool :=
  entries.all fun entry => (Bytes.toText? entry.1).isSome

def WellFormed (fs : FileSystem) : Prop :=
  fs.top.everyDirectory areProperlyNamed = true

def Textual (fs : FileSystem) : Prop :=
  fs.top.everyDirectory areTextual = true

instance (fs : FileSystem) : Decidable fs.WellFormed :=
  inferInstanceAs (Decidable (_ = true))

instance (fs : FileSystem) : Decidable fs.Textual :=
  inferInstanceAs (Decidable (_ = true))

variable {fs : FileSystem} {location : Location} {entries : List (Name × Entry)} {locked : Bool}

theorem WellFormed.distinct (sound : fs.WellFormed)
    (found : fs.top.at? location = some (.directory entries locked)) :
    (entries.map (·.1)).Nodup := by
  have named := Entry.everyDirectory_entries sound found
  exact (of_decide_eq_true named).2

theorem WellFormed.proper (sound : fs.WellFormed)
    (found : fs.top.at? location = some (.directory entries locked)) {name : Name} {entry : Entry}
    (member : (name, entry) ∈ entries) : ProperName name := by
  have named := Entry.everyDirectory_entries sound found
  exact (of_decide_eq_true named).1 _ member

theorem Textual.ofText_toText (textual : fs.Textual)
    (found : fs.top.at? location = some (.directory entries locked)) {name : Name} {entry : Entry}
    (member : (name, entry) ∈ entries) : Bytes.ofText (Bytes.toText name) = name := by
  have named := Entry.everyDirectory_entries textual found
  simp only [areTextual, List.all_eq_true] at named
  have text := named _ member
  simp only [Bytes.toText?] at text
  split at text
  · assumption
  · simp at text

end WellFormed

end SourceAtlas.FileSystem
