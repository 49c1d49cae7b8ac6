import SourceAtlas.Keyed
import Mathlib.Data.List.Induction
import Mathlib.Data.List.Nodup
import Mathlib.Data.String.Basic

/-! Laws of keyed lists. Looking up, setting and removing a key need no order; the order
of the keys makes a list with given values unique. -/
namespace SourceAtlas.Keyed
variable {α : Type}

def Ordered (entries : List (String × α)) : Prop :=
  entries.Pairwise fun left right => left.1 < right.1

instance (entries : List (String × α)) : Decidable (Ordered entries) :=
  inferInstanceAs (Decidable (entries.Pairwise fun left right => left.1 < right.1))

theorem Ordered.tail {entry : String × α} {rest : List (String × α)}
    (ordered : Ordered (entry :: rest)) : Ordered rest :=
  (List.pairwise_cons.mp ordered).2

theorem Ordered.head_lt {entry other : String × α} {rest : List (String × α)}
    (ordered : Ordered (entry :: rest)) (member : other ∈ rest) : entry.1 < other.1 :=
  (List.pairwise_cons.mp ordered).1 other member

section Finding

theorem find?_eq_none_iff (key : String) (entries : List (String × α)) :
    find? key entries = none ↔ ∀ entry ∈ entries, entry.1 ≠ key := by
  induction entries with
  | nil => simp [find?]
  | cons entry rest ih =>
    rcases entry with ⟨name, value⟩
    by_cases same : name = key
    · simp [find?, same]
    · simp [find?, same, ih]

theorem mem_of_find? {key : String} {value : α} {entries : List (String × α)}
    (found : find? key entries = some value) : (key, value) ∈ entries := by
  induction entries with
  | nil => simp [find?] at found
  | cons entry rest ih =>
    rcases entry with ⟨name, old⟩
    by_cases same : name = key
    · subst name
      simp only [find?, if_true, Option.some.injEq] at found
      simp [found]
    · simp only [find?, same, if_false] at found
      exact List.mem_cons_of_mem _ (ih found)

theorem Ordered.find?_of_mem {key : String} {value : α} {entries : List (String × α)}
    (ordered : Ordered entries) (member : (key, value) ∈ entries) :
    find? key entries = some value := by
  induction entries with
  | nil => simp at member
  | cons entry rest ih =>
    rcases List.mem_cons.mp member with rfl | inside
    · simp [find?]
    · have before : entry.1 < key := ordered.head_lt inside
      simp [find?, ne_of_lt before, ih ordered.tail inside]

end Finding

section Setting

theorem find?_insert_self (key : String) (value : α) (entries : List (String × α)) :
    find? key (insert key value entries) = some value := by
  induction entries with
  | nil => simp [insert, find?]
  | cons entry rest ih =>
    rcases entry with ⟨name, old⟩
    rw [insert]
    split_ifs with before same
    · simp [find?]
    · simp [find?]
    · simp [find?, Ne.symm same, ih]

theorem find?_insert_of_ne {key other : String} (value : α) (entries : List (String × α))
    (different : other ≠ key) : find? other (insert key value entries) = find? other entries := by
  induction entries with
  | nil => simp [insert, find?, different.symm]
  | cons entry rest ih =>
    rcases entry with ⟨name, old⟩
    rw [insert]
    split_ifs with before same
    · simp [find?, different.symm]
    · subst name
      simp [find?, different.symm]
    · simp [find?, ih]

theorem insert_insert (key : String) (first second : α) (entries : List (String × α)) :
    insert key second (insert key first entries) = insert key second entries := by
  induction entries with
  | nil => simp [insert]
  | cons entry rest ih =>
    rcases entry with ⟨name, old⟩
    by_cases before : key < name
    · simp [insert, before]
    · by_cases same : key = name
      · simp [insert, same]
      · simp [insert, before, same, ih]

theorem mem_insert_of_fresh {key : String} {value : α} {entries : List (String × α)}
    (fresh : find? key entries = none) (entry : String × α) :
    entry ∈ insert key value entries ↔ entry = (key, value) ∨ entry ∈ entries := by
  induction entries with
  | nil => simp [insert]
  | cons head rest ih =>
    rcases head with ⟨name, old⟩
    by_cases same : name = key
    · simp [find?, same] at fresh
    · simp only [find?, same, if_false] at fresh
      rw [insert]
      split_ifs with before equal
      · simp
      · exact absurd equal.symm same
      · simp only [List.mem_cons, ih fresh]
        tauto

theorem mem_insert {key : String} {value : α} {entries : List (String × α)} {entry : String × α}
    (member : entry ∈ insert key value entries) : entry = (key, value) ∨ entry ∈ entries := by
  induction entries with
  | nil => simpa [insert] using member
  | cons head rest ih =>
    rcases head with ⟨name, old⟩
    rw [insert] at member
    split_ifs at member with before same
    · simpa using member
    · rcases List.mem_cons.mp member with equal | inside
      · exact .inl equal
      · exact .inr (List.mem_cons_of_mem _ inside)
    · rcases List.mem_cons.mp member with equal | inside
      · exact .inr (by simp [equal])
      · exact (ih inside).imp_right (List.mem_cons_of_mem _)

theorem Ordered.insert {entries : List (String × α)} (ordered : Ordered entries) (key : String)
    (value : α) : Ordered (Keyed.insert key value entries) := by
  induction entries with
  | nil => simp [Keyed.insert, Ordered]
  | cons entry rest ih =>
    rcases entry with ⟨name, old⟩
    rw [Keyed.insert]
    split_ifs with before same
    · refine List.pairwise_cons.mpr ⟨?_, ordered⟩
      intro other member
      rcases List.mem_cons.mp member with rfl | inside
      · exact before
      · exact before.trans (ordered.head_lt inside)
    · subst name
      exact List.pairwise_cons.mpr ⟨fun other inside => ordered.head_lt inside, ordered.tail⟩
    · refine List.pairwise_cons.mpr ⟨?_, ih ordered.tail⟩
      intro other member
      rcases mem_insert member with rfl | inside
      · exact lt_of_le_of_ne (not_lt.mp before) (Ne.symm same)
      · exact ordered.head_lt inside

theorem insert_of_greatest {key : String} (value : α) {entries : List (String × α)}
    (greatest : ∀ entry ∈ entries, entry.1 < key) :
    insert key value entries = entries ++ [(key, value)] := by
  induction entries with
  | nil => rfl
  | cons entry rest ih =>
    have before : entry.1 < key := greatest entry (by simp)
    simp [insert, not_lt_of_gt before, ne_of_gt before,
      ih fun other member => greatest other (by simp [member])]

end Setting

section Removing

theorem erase_of_fresh {key : String} {entries : List (String × α)}
    (fresh : find? key entries = none) : erase key entries = entries := by
  rw [find?_eq_none_iff] at fresh
  exact List.filter_eq_self.mpr fun entry member => by simpa using fresh entry member

theorem find?_erase_of_ne {key other : String} (different : other ≠ key) (entries : List (String × α)) :
    find? other (erase key entries) = find? other entries := by
  induction entries with
  | nil => rfl
  | cons entry rest ih =>
    rcases entry with ⟨name, value⟩
    simp only [erase] at ih ⊢
    by_cases here : name = key
    · simp [find?, here, different.symm, ih]
    · simp [find?, here, ih]

theorem erase_insert {key : String} {entries : List (String × α)}
    (fresh : find? key entries = none) (value : α) : erase key (insert key value entries) = entries := by
  induction entries with
  | nil => simp [insert, erase]
  | cons entry rest ih =>
    rcases entry with ⟨name, old⟩
    have different : name ≠ key := (find?_eq_none_iff _ _).mp fresh _ (List.mem_cons_self ..)
    have tailFresh : find? key rest = none := by simpa [find?, different] using fresh
    rw [insert]
    split_ifs with before same
    · have kept := erase_of_fresh fresh
      simp only [erase] at kept ⊢
      simpa using kept
    · exact absurd same.symm different
    · have kept := ih tailFresh
      simp only [erase] at kept ⊢
      simp [different, kept]

end Removing

section Lists

private theorem foldl_insert_of_ordered (entries : List (String × α)) (sorted : List (String × α))
    (ordered : Ordered (sorted ++ entries)) :
    entries.foldl (fun sorted entry => insert entry.1 entry.2 sorted) sorted = sorted ++ entries := by
  induction entries generalizing sorted with
  | nil => simp
  | cons entry rest ih =>
    have greatest : ∀ other ∈ sorted, other.1 < entry.1 := fun other member =>
      (List.pairwise_append.mp ordered).2.2 other member entry (by simp)
    rw [List.foldl_cons, insert_of_greatest _ greatest, ih _ (by simpa using ordered)]
    simp

theorem ofList_of_ordered {entries : List (String × α)} (ordered : Ordered entries) :
    ofList entries = entries := by
  simpa [ofList] using foldl_insert_of_ordered entries [] (by simpa using ordered)

theorem ofList_concat (entries : List (String × α)) (entry : String × α) :
    ofList (entries ++ [entry]) = insert entry.1 entry.2 (ofList entries) := by
  rw [ofList, List.foldl_append]
  rfl

theorem Ordered.ofList (entries : List (String × α)) : Ordered (Keyed.ofList entries) := by
  induction entries using List.reverseRecOn with
  | nil => exact List.Pairwise.nil
  | append_singleton entries entry ih =>
    rw [ofList_concat]
    exact ih.insert entry.1 entry.2

theorem mem_of_mem_ofList {entries : List (String × α)} {entry : String × α} (member : entry ∈ ofList entries) :
    entry ∈ entries := by
  induction entries using List.reverseRecOn with
  | nil => cases member
  | append_singleton entries last ih =>
    rw [ofList_concat] at member
    rcases mem_insert member with rfl | inside
    · exact List.mem_append_right _ List.mem_cons_self
    · exact List.mem_append_left _ (ih inside)

theorem mem_ofList {entries : List (String × α)}
    (consistent : ∀ left ∈ entries, ∀ right ∈ entries, left.1 = right.1 → left = right) (entry : String × α) :
    entry ∈ ofList entries ↔ entry ∈ entries := by
  induction entries using List.reverseRecOn with
  | nil => rfl
  | append_singleton entries last ih =>
    have earlier := ih fun left inside right member =>
      consistent left (List.mem_append_left _ inside) right (List.mem_append_left _ member)
    rw [ofList_concat]
    have ordered := Ordered.ofList entries
    constructor
    · intro member
      rw [← ofList_concat] at member
      exact mem_of_mem_ofList member
    · intro member
      apply mem_of_find?
      by_cases same : entry.1 = last.1
      · have equal := consistent entry member last (List.mem_append_right _ List.mem_cons_self) same
        rw [equal, find?_insert_self]
      · have inside : entry ∈ entries := by
          rcases List.mem_append.mp member with inside | outside
          · exact inside
          · exact absurd (by rw [List.mem_singleton.mp outside]) same
        rw [find?_insert_of_ne _ _ same]
        exact ordered.find?_of_mem (earlier.mpr inside)

theorem Ordered.keys_nodup {entries : List (String × α)} (ordered : Ordered entries) : (entries.map (·.1)).Nodup :=
  List.pairwise_map.mpr (ordered.imp ne_of_lt)

theorem Ordered.eq_of_mem_iff {entries others : List (String × α)} (ordered : Ordered entries)
    (otherOrdered : Ordered others) (same : ∀ entry, entry ∈ entries ↔ entry ∈ others) : entries = others := by
  have perm : entries.Perm others := (List.perm_ext_iff_of_nodup (List.Nodup.of_map _ ordered.keys_nodup)
    (List.Nodup.of_map _ otherOrdered.keys_nodup)).mpr same
  refine perm.eq_of_pairwise (fun left right _ _ less greater => ?_) ordered otherOrdered
  exact absurd greater (lt_asymm less)

theorem ofList_eq_of_perm {entries others : List (String × α)}
    (consistent : ∀ left ∈ entries, ∀ right ∈ entries, left.1 = right.1 → left = right)
    (perm : others.Perm entries) : ofList others = ofList entries := by
  have otherConsistent : ∀ left ∈ others, ∀ right ∈ others, left.1 = right.1 → left = right :=
    fun left leftIn right rightIn => consistent left (perm.mem_iff.mp leftIn) right (perm.mem_iff.mp rightIn)
  refine (Ordered.ofList others).eq_of_mem_iff (Ordered.ofList entries) fun entry => ?_
  rw [mem_ofList otherConsistent, mem_ofList consistent, perm.mem_iff]

end Lists

end SourceAtlas.Keyed
