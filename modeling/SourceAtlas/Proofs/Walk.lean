import SourceAtlas.Proofs.Resolution
import SourceAtlas.Walk

/-! A walk leads to its findings by names of entries. -/
namespace SourceAtlas

def Finding.names : Finding → List FileSystem.Name
  | directory _ names | file _ names | directoryLink _ names | failure _ names _ | loop _ names _ => names

namespace Walk
open FileSystem
variable {fs : FileSystem}

theorem visitAll_eq (onLink : LinkRule) (stages : List Stage) (path : Path) (names : List Name)
    (location : Location) (entries : List (Name × Entry)) :
    visitAll fs onLink stages path names location entries = entries.map fun item =>
      (item.1, visit fs onLink stages (path.join item.1) (names ++ [item.1]) (location ++ [item.1])
        item.2) := by
  induction entries with
  | nil => simp [visitAll]
  | cons item rest ih => simp [visitAll, ih]

def Named (holds : Name → Prop) (findings : List Finding) : Prop :=
  ∀ finding ∈ findings, ∀ name ∈ finding.names, holds name

section Named
variable {holds : Name → Prop} {check : List (Name × Entry) → Bool}

private theorem named_single {finding : Finding} (named : ∀ name ∈ finding.names, holds name) :
    Named holds [finding] := by
  intro other member
  rw [List.mem_singleton.mp member]
  exact named

theorem passLink_named (stages : List Stage) (path : Path) (names : List Name)
    (named : ∀ name ∈ names, holds name) : Named holds (passLink fs stages path names) := by
  rw [passLink]
  split
  · exact named_single named
  · exact named_single named

variable (means : ∀ entries, check entries = true → ∀ item ∈ entries, holds item.1)
include means

theorem visit_named {onLink : LinkRule}
    (rule : ∀ stages path names, (∀ name ∈ names, holds name) → Named holds (onLink stages path names))
    (entry : Entry) (sound : entry.everyDirectory check = true) (stages : List Stage) (path : Path)
    (names : List Name) (named : ∀ name ∈ names, holds name) (location : Location) :
    Named holds (visit fs onLink stages path names location entry) := by
  induction entry using Entry.below_induction generalizing stages path names location with
  | file content locked =>
    rw [visit]
    exact named_single named
  | link target =>
    rw [visit]
    exact rule stages path names named
  | directory entries locked ih =>
    simp only [Entry.everyDirectory, Bool.and_eq_true] at sound
    intro finding member
    rw [visit] at member
    rcases List.mem_cons.mp member with rfl | below
    · exact named
    cases listed : fs.list path with
    | error fault =>
      rw [listed] at below
      rw [List.mem_singleton.mp below]
      exact named
    | ok found =>
      rw [listed, visitAll_eq] at below
      obtain ⟨visited, inSorted, inside⟩ := List.mem_flatMap.mp below
      obtain ⟨item, member, rfl⟩ := List.mem_map.mp ((sortNamed_perm _).mem_iff.mp inSorted)
      have further : ∀ name ∈ names ++ [item.1], holds name :=
        List.forall_mem_append.mpr ⟨named, List.forall_mem_singleton.mpr (means entries sound.1 item member)⟩
      exact ih item member (Entry.everyDirectory_of_mem sound.2 member) _ _ _ further _ finding inside

variable (sound : fs.top.everyDirectory check = true)
include sound

theorem followLink_named (root : Path) (depth : Nat) (stages : List Stage) (path : Path)
    (names : List Name) (named : ∀ name ∈ names, holds name) :
    Named holds (followLink fs root depth stages path names) := by
  induction depth using Nat.strongRecOn generalizing stages path names with
  | ind depth ih =>
    rw [followLink]
    split
    · exact named_single named
    · rename_i location entries locked found
      split
      · exact named_single (by simp [Finding.names])
      · split
        · exact named_single named
        · cases depth with
          | zero => simp [Named]
          | succ depth =>
            exact visit_named means (ih depth depth.lt_succ_self) _
              (Entry.everyDirectory_at? sound (status_at? found)) _ _ _ named _
    · exact named_single named

theorem walk_named (root : Path) (follow : Bool) : Named holds (fs.walk root follow) := by
  have nowhere : ∀ name ∈ ([] : List Name), holds name := by simp
  rw [FileSystem.walk]
  split
  · exact named_single nowhere
  · rename_i location entry found
    have below := Entry.everyDirectory_at? sound (lookup_ok found).2
    split
    · exact visit_named means (followLink_named means sound root _) entry below _ _ _ nowhere _
    · split
      · split
        · exact named_single nowhere
        · rename_i entered
          exact visit_named means passLink_named _
            (Entry.everyDirectory_at? sound (status_at? entered)) _ _ _ nowhere _
      · exact visit_named means passLink_named entry below _ _ _ nowhere _

end Named

theorem walk_properlyNamed (sound : fs.WellFormed) (root : Path) (follow : Bool) :
    Named ProperName (fs.walk root follow) :=
  walk_named (fun _ named => (of_decide_eq_true named).1) sound root follow

theorem walk_textual (textual : fs.Textual) (root : Path) (follow : Bool) :
    Named (fun name => Bytes.ofText (Bytes.toText name) = name) (fs.walk root follow) := by
  refine walk_named (fun entries texts item member => ?_) textual root follow
  have text := List.all_eq_true.mp texts item member
  by_contra different
  simp [Bytes.toText?, different] at text

end Walk

end SourceAtlas
