import SourceAtlas.Proofs.Directory
import SourceAtlas.Proofs.Listing

/-! What findings do to a tree. Those at an entry and below it change the tree only at the name
of the entry in its directory, so an entry is one step, and the steps of a directory come to
its listing. -/
namespace SourceAtlas.Listing
open FileSystem Walk

section Outcomes

inductive Outcome where
  | file
  | directory (node : Directory)
  | absent

namespace Outcome

def place (name : String) (node : Directory) : Outcome → Directory
  | file => node.withFile name
  | directory child => node.withChild name child
  | absent => node

def isFile : Outcome → Bool
  | file => true
  | _ => false

theorem place_fresh {name other : String} {node : Directory} (outcome : Outcome)
    (different : other ≠ name) (fresh : Keyed.find? other node.directories = none) :
    Keyed.find? other (outcome.place name node).directories = none := by
  cases outcome with
  | file => exact fresh
  | directory child => exact (Keyed.find?_insert_of_ne child _ different).trans fresh
  | absent => exact fresh

theorem place_ordered {name : String} {node : Directory} (outcome : Outcome)
    (ordered : Keyed.Ordered node.directories) :
    Keyed.Ordered (outcome.place name node).directories := by
  cases outcome with
  | file => exact ordered
  | directory child => exact ordered.insert _ _
  | absent => exact ordered

end Outcome

variable {α : Type} (outcome : α → Outcome) (text : α → String)

def assemble (items : List α) (node : Directory) : Directory :=
  items.foldl (fun node item => (outcome item).place (text item) node) node

theorem assemble_files (items : List α) (node : Directory) :
    (assemble outcome text items node).files =
      node.files ++ (items.filter fun item => (outcome item).isFile).map text := by
  induction items generalizing node with
  | nil => simp [assemble]
  | cons item items ih =>
    rw [assemble, List.foldl_cons]
    refine (ih _).trans ?_
    cases made : outcome item <;>
      simp [made, Outcome.place, Outcome.isFile, Directory.withFile, Directory.withChild]

theorem assemble_ordered (items : List α) (node : Directory) (ordered : Keyed.Ordered node.directories) :
    Keyed.Ordered (assemble outcome text items node).directories := by
  induction items generalizing node with
  | nil => exact ordered
  | cons item items ih =>
    exact ih _ ((outcome item).place_ordered ordered)

theorem assemble_directories {items : List α} (distinct : (items.map text).Nodup) (node : Directory)
    (fresh : ∀ item ∈ items, Keyed.find? (text item) node.directories = none) (entry : String × Directory) :
    entry ∈ (assemble outcome text items node).directories ↔ entry ∈ node.directories ∨
      ∃ item ∈ items, outcome item = .directory entry.2 ∧ entry.1 = text item := by
  induction items generalizing node with
  | nil => simp [assemble]
  | cons item items ih =>
    obtain ⟨new, rest⟩ := List.nodup_cons.mp distinct
    have others : ∀ other ∈ items, text other ≠ text item := fun other member equal =>
      new (List.mem_map.mpr ⟨other, member, equal⟩)
    refine (ih rest _ fun other member => (outcome item).place_fresh (others other member)
      (fresh other (List.mem_cons_of_mem _ member))).trans ?_
    cases made : outcome item with
    | file => simp [Outcome.place, Directory.withFile, made]
    | absent => simp [Outcome.place, made]
    | directory child =>
      simp only [Outcome.place, Directory.withChild, List.exists_mem_cons_iff, made,
        Keyed.mem_insert_of_fresh (fresh item (List.mem_cons_self ..)), Outcome.directory.injEq]
      rcases entry with ⟨name, found⟩
      simp only [Prod.mk.injEq]
      constructor
      · rintro ((⟨rfl, rfl⟩ | old) | later)
        · exact .inr (.inl ⟨rfl, rfl⟩)
        · exact .inl old
        · exact .inr (.inr later)
      · rintro (old | (⟨rfl, rfl⟩ | later))
        · exact .inl (.inr old)
        · exact .inl (.inl ⟨rfl, rfl⟩)
        · exact .inr later

end Outcomes

section Effects

def told (findings : List Finding) : List Warning :=
  warnings (findings.filterMap Finding.note?)

theorem told_append (first second : List Finding) :
    told (first ++ second) = told first ++ told second := by
  simp [told, warnings, List.filterMap_append]

theorem told_flatMap {α : Type} (items : List α) (findings : α → List Finding) :
    told (items.flatMap findings) = items.flatMap fun item => told (findings item) := by
  induction items with
  | nil => rfl
  | cons item items ih => rw [List.flatMap_cons, told_append, ih, List.flatMap_cons]

/-- Findings that set what is at one name of a directory and change nothing else, wherever in a
tree the directory is. -/
def Settle (findings : List Finding) (names : List Name) (name : Name) (outcome : Outcome) : Prop :=
  ∀ node tree, Keyed.find? (Bytes.toText name) node.directories = none →
    findings.foldl Finding.addTo (Directory.putAt (names.map Bytes.toText) node tree) =
      Directory.putAt (names.map Bytes.toText) (outcome.place (Bytes.toText name) node) tree

variable {names : List Name} {name : Name}

theorem settle_file (path : Path) : Settle [.file path (names ++ [name])] names name .file := by
  intro node tree fresh
  simp [Finding.addTo, Directory.addFile_putAt, Outcome.place]

theorem settle_directoryLink (path : Path) :
    Settle [.directoryLink path (names ++ [name])] names name .absent :=
  fun _ _ _ => rfl

theorem settle_loop (path ancestor : Path) :
    Settle [.loop path (names ++ [name]) ancestor] names name .absent :=
  fun _ _ _ => rfl

theorem settle_failure (path : Path) (reason : String) :
    Settle [.failure path (names ++ [name]) reason] names name .absent := by
  intro node tree fresh
  simp [Finding.addTo, Directory.removeEmpty?_putAt, Directory.removeEmpty?_fresh fresh, Outcome.place]

theorem settle_failure_root (path : Path) (reason : String) :
    Settle [.failure path [] reason] names name .absent := by
  intro node tree fresh
  simp [Finding.addTo, Directory.removeEmpty?, Outcome.place]

theorem settle_unlistable (path other : Path) (reason : String) :
    Settle [.directory path (names ++ [name]), .failure other (names ++ [name]) reason] names name
      .absent := by
  intro node tree fresh
  simp only [List.foldl_cons, List.foldl_nil, Finding.addTo, List.map_append, List.map_cons,
    List.map_nil, Directory.ensure_putAt _ _ fresh, Directory.putAt_append,
    Directory.removeEmpty?_putAt, Directory.removeEmpty?_withChild_empty fresh, Outcome.place]

theorem settle_directory (path : Path) {child : Directory} {findings : List Finding}
    (inside : ∀ tree, findings.foldl Finding.addTo
        (Directory.putAt ((names ++ [name]).map Bytes.toText) .empty tree) =
      Directory.putAt ((names ++ [name]).map Bytes.toText) child tree) :
    Settle (.directory path (names ++ [name]) :: findings) names name (.directory child) := by
  intro node tree fresh
  simp only [List.map_append, List.map_cons, List.map_nil] at inside
  simp only [List.foldl_cons, Finding.addTo, List.map_append, List.map_cons, List.map_nil,
    Directory.ensure_putAt _ _ fresh, Outcome.place]
  rw [inside, Directory.putAt_append]

theorem settle_all {items : List (Name × Entry)} {findings : Name × Entry → List Finding}
    {outcome : Name × Entry → Outcome}
    (each : ∀ item ∈ items, Settle (findings item) names item.1 (outcome item))
    (distinct : (items.map fun item => Bytes.toText item.1).Nodup) {node : Directory}
    (fresh : ∀ item ∈ items, Keyed.find? (Bytes.toText item.1) node.directories = none)
    (tree : Directory) :
    (items.flatMap findings).foldl Finding.addTo (Directory.putAt (names.map Bytes.toText) node tree) =
      Directory.putAt (names.map Bytes.toText)
        (assemble outcome (fun item => Bytes.toText item.1) items node) tree := by
  induction items generalizing node with
  | nil => rfl
  | cons item items ih =>
    obtain ⟨new, rest⟩ := List.nodup_cons.mp distinct
    rw [List.flatMap_cons, List.foldl_append,
      each item (List.mem_cons_self ..) node tree (fresh item (List.mem_cons_self ..))]
    refine ih (fun other member => each other (List.mem_cons_of_mem _ member)) rest ?_
    intro other member
    refine (outcome item).place_fresh ?_ (fresh other (List.mem_cons_of_mem _ member))
    exact fun equal => new (List.mem_map.mpr ⟨other, member, equal⟩)

end Effects

section Entries
variable {fs : FileSystem} {root : Path} {follow : Bool}

/-- What a listing has at an entry, with the warnings about it. -/
inductive IsOutcome (fs : FileSystem) (root : Path) (follow : Bool) (stages : List Stage) (path : Path)
    (entry : Entry) : Outcome → List Warning → Prop
  | file (listed : IsFile fs follow path entry) : IsOutcome fs root follow stages path entry .file []
  | directory {location : Location} {node : Directory} {warnings : List Warning}
      (entered : IsEntered fs follow stages path location entry)
      (listing : IsListing fs root follow (⟨path, location⟩ :: stages) path node warnings) :
      IsOutcome fs root follow stages path entry (.directory node) warnings
  | warned {warning : Warning} (warns : Warns fs root follow stages path entry warning) :
      IsOutcome fs root follow stages path entry .absent [warning]
  | passed (notFile : ¬ IsFile fs follow path entry)
      (notEntered : ∀ location, ¬ IsEntered fs follow stages path location entry)
      (notWarned : ∀ warning, ¬ Warns fs root follow stages path entry warning) :
      IsOutcome fs root follow stages path entry .absent []

variable {stages : List Stage} {path : Path} {entry : Entry} {outcome : Outcome}
  {warnings : List Warning}

theorem IsOutcome.file_iff (is : IsOutcome fs root follow stages path entry outcome warnings) :
    outcome = .file ↔ IsFile fs follow path entry := by
  cases is with
  | file listed => simp [listed]
  | directory entered listing => simpa using fun listed : IsFile fs follow path entry => listed.not_entered entered
  | warned warns => simpa using fun listed : IsFile fs follow path entry => listed.not_warns warns
  | passed notFile _ _ => simp [notFile]

theorem IsOutcome.directory_iff (is : IsOutcome fs root follow stages path entry outcome warnings) :
    (∃ child, outcome = .directory child) ↔ ∃ location, IsEntered fs follow stages path location entry := by
  cases is with
  | file listed => simpa using fun location => listed.not_entered
  | directory entered listing => simpa using ⟨_, entered⟩
  | warned warns => simpa using fun location (entered : IsEntered fs follow stages path location entry) =>
      entered.not_warns warns
  | passed _ notEntered _ => simpa using notEntered

theorem IsOutcome.listing {location : Location} {child : Directory}
    (is : IsOutcome fs root follow stages path entry (.directory child) warnings)
    (entered : IsEntered fs follow stages path location entry) :
    IsListing fs root follow (⟨path, location⟩ :: stages) path child warnings := by
  cases is with
  | directory entered' listing =>
    rw [entered.location_unique entered']
    exact listing

theorem IsOutcome.warnings_of_warns {warning : Warning}
    (is : IsOutcome fs root follow stages path entry outcome warnings)
    (warns : Warns fs root follow stages path entry warning) : warnings = [warning] := by
  cases is with
  | file listed => exact absurd warns listed.not_warns
  | directory entered listing => exact absurd warns entered.not_warns
  | warned warns' => rw [warns'.unique warns]
  | passed _ _ notWarned => exact absurd warns (notWarned warning)

theorem IsOutcome.warnings_nil (is : IsOutcome fs root follow stages path entry outcome warnings)
    (notEntered : ∀ location, ¬ IsEntered fs follow stages path location entry)
    (notWarned : ∀ warning, ¬ Warns fs root follow stages path entry warning) : warnings = [] := by
  cases is with
  | file listed => rfl
  | directory entered listing => exact absurd entered (notEntered _)
  | warned warns => exact absurd warns (notWarned _)
  | passed _ _ _ => rfl

end Entries

section Directories
variable {fs : FileSystem} {root : Path} {follow : Bool} {stages : List Stage} {path : Path}
  {location : Location} {entries : List (Name × Entry)}

section Texts
variable {locked : Bool} (sound : fs.WellFormed) (textual : fs.Textual)
  (stored : fs.top.at? location = some (.directory entries locked))
include sound textual stored

theorem texts_ascend : (sortNamed entries).Pairwise fun left right =>
    Bytes.ofText (Bytes.toText left.1) < Bytes.ofText (Bytes.toText right.1) := by
  refine (sortNamed_pairwise (sound.distinct stored)).imp_of_mem ?_
  intro left right leftMember rightMember less
  have members := (sortNamed_perm entries).subset
  rwa [textual.ofText_toText stored (members leftMember),
    textual.ofText_toText stored (members rightMember)]

theorem texts_distinct : ((sortNamed entries).map fun item => Bytes.toText item.1).Nodup := by
  refine List.pairwise_map.mpr ((texts_ascend sound textual stored).imp ?_)
  intro left right less equal
  rw [equal] at less
  exact List.lt_irrefl _ less

theorem eq_of_texts {item other : Name × Entry} (member : item ∈ entries) (otherMember : other ∈ entries)
    (equal : Bytes.toText item.1 = Bytes.toText other.1) : item = other := by
  have names := congrArg Bytes.ofText equal
  rw [textual.ofText_toText stored member, textual.ofText_toText stored otherMember] at names
  have found := findNamed?_of_mem (sound.distinct stored) member
  rw [names, findNamed?_of_mem (sound.distinct stored) otherMember] at found
  exact Prod.ext names (Option.some.inj found).symm

end Texts

theorem listing_of_outcomes (sound : fs.WellFormed) (textual : fs.Textual)
    (found : fs.status path = .ok (location, .directory entries false))
    {outcome : Name × Entry → Outcome} {warnings : Name × Entry → List Warning}
    (each : ∀ item ∈ entries,
      IsOutcome fs root follow stages (path.join item.1) item.2 (outcome item) (warnings item)) :
    IsListing fs root follow stages path
      (assemble outcome (fun item => Bytes.toText item.1) (sortNamed entries) .empty)
      ((sortNamed entries).flatMap warnings) := by
  have stored := status_at? found
  have sorted := sortNamed_pairwise (sound.distinct stored)
  have members : ∀ item, item ∈ sortNamed entries ↔ item ∈ entries :=
    fun item => (sortNamed_perm entries).mem_iff
  have directories := assemble_directories outcome (fun item => Bytes.toText item.1)
    (texts_distinct sound textual stored) .empty (fun _ _ => rfl)
  have noDirectories : ∀ child, child ∉ Directory.empty.directories := fun child => List.not_mem_nil
  have listed : fs.list path = .ok entries := list_of_status found
  refine .intro listed ?filesAscend ?files ?directoriesAscend ?directories ?below
    ?warned ?silent ⟨sortNamed_perm entries, sorted⟩
  case filesAscend =>
    rw [assemble_files]
    simp only [Directory.empty, List.nil_append, List.map_map]
    exact List.pairwise_map.mpr ((texts_ascend sound textual stored).sublist List.filter_sublist)
  case files =>
    intro text
    rw [assemble_files]
    simp only [Directory.empty, List.nil_append, List.mem_map, List.mem_filter]
    constructor
    · rintro ⟨⟨name, entry⟩, ⟨member, file⟩, rfl⟩
      have inside := (members _).mp member
      refine ⟨name, entry, inside, rfl, (each _ inside).file_iff.mp ?_⟩
      cases made : outcome (name, entry) <;> simp_all [Outcome.isFile]
    · rintro ⟨name, entry, member, rfl, file⟩
      refine ⟨(name, entry), ⟨(members _).mpr member, ?_⟩, rfl⟩
      rw [(each _ member).file_iff.mpr file]
      rfl
  case directoriesAscend =>
    have ordered := assemble_ordered outcome (fun item => Bytes.toText item.1) (sortNamed entries)
      .empty List.Pairwise.nil
    exact List.pairwise_map.mpr (ordered.imp fun less => (Bytes.ofText_lt_iff _ _).mpr less)
  case directories =>
    intro text
    constructor
    · rintro ⟨child, member⟩
      obtain old | ⟨⟨name, entry⟩, inside, made, rfl⟩ := (directories _).mp member
      · exact absurd old (noDirectories _)
      · have inside := (members _).mp inside
        obtain ⟨location, entered⟩ := (each _ inside).directory_iff.mp ⟨_, made⟩
        exact ⟨name, entry, location, inside, rfl, entered⟩
    · rintro ⟨name, entry, location, member, rfl, entered⟩
      obtain ⟨child, made⟩ := (each _ member).directory_iff.mpr ⟨location, entered⟩
      exact ⟨child, (directories _).mpr (.inr ⟨(name, entry), (members _).mpr member, made, rfl⟩)⟩
  case below =>
    intro name entry location child member entered inNode
    obtain old | ⟨other, inside, made, equal⟩ := (directories _).mp inNode
    · exact absurd old (noDirectories _)
    · obtain rfl := eq_of_texts sound textual stored member ((members _).mp inside) equal
      have is := each _ member
      rw [made] at is
      exact is.listing entered
  case warned => exact fun name entry warning member warns => (each _ member).warnings_of_warns warns
  case silent =>
    exact fun name entry member notEntered notWarned => (each _ member).warnings_nil notEntered notWarned

end Directories

end SourceAtlas.Listing
