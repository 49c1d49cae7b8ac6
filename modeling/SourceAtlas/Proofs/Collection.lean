import SourceAtlas.Collection
import SourceAtlas.Proofs.Directory
import SourceAtlas.Proofs.Utf8
import SourceAtlas.Proofs.Walk
import SourceAtlas.Scan

/-! The files that are collected from a scanned tree. Names of entries have no slash in them,
also where they had to be made into texts, so a key tells which file it stands for. -/
namespace SourceAtlas

namespace Directory

mutual

def EveryName (holds : String → Prop) : Directory → Prop
  | ⟨directories, files⟩ => (∀ file ∈ files, holds file) ∧ EveryNameOfAll holds directories

def EveryNameOfAll (holds : String → Prop) : List (String × Directory) → Prop
  | [] => True
  | (name, directory) :: rest => (holds name ∧ directory.EveryName holds) ∧ EveryNameOfAll holds rest

end

variable {holds : String → Prop}

private theorem everyNameOfAll_iff (directories : List (String × Directory)) :
    EveryNameOfAll holds directories ↔
      ∀ item ∈ directories, holds item.1 ∧ item.2.EveryName holds := by
  induction directories with
  | nil => simp [EveryNameOfAll]
  | cons item rest ih =>
    rcases item with ⟨name, directory⟩
    rw [EveryNameOfAll, ih, List.forall_mem_cons]

theorem everyName_iff (node : Directory) :
    node.EveryName holds ↔ (∀ file ∈ node.files, holds file) ∧
      ∀ item ∈ node.directories, holds item.1 ∧ item.2.EveryName holds := by
  rcases node with ⟨directories, files⟩
  rw [EveryName, everyNameOfAll_iff]

theorem everyName_empty : empty.EveryName holds := by
  rw [everyName_iff]
  simp [empty]

private theorem EveryName.child {node : Directory} (every : node.EveryName holds) (name : String) :
    ((Keyed.find? name node.directories).getD empty).EveryName holds := by
  cases found : Keyed.find? name node.directories with
  | none => exact everyName_empty
  | some child => exact (((everyName_iff node).mp every).2 _ (Keyed.mem_of_find? found)).2

private theorem EveryName.insert {node child : Directory} {name : String} (every : node.EveryName holds)
    (named : holds name) (below : child.EveryName holds) :
    ({ node with directories := Keyed.insert name child node.directories } : Directory).EveryName holds := by
  rw [everyName_iff] at every ⊢
  refine ⟨every.1, ?_⟩
  intro item member
  rcases Keyed.mem_insert member with rfl | inside
  · exact ⟨named, below⟩
  · exact every.2 item inside

theorem EveryName.modify {change : Directory → Directory}
    (step : ∀ node : Directory, node.EveryName holds → (change node).EveryName holds) {path : List String}
    (named : ∀ name ∈ path, holds name) {node : Directory} (every : node.EveryName holds) :
    (node.modify change path).EveryName holds := by
  induction path generalizing node with
  | nil => exact step node every
  | cons name rest ih =>
    have below := ih (fun other inside => named other (List.mem_cons_of_mem _ inside)) (every.child name)
    exact every.insert (named name List.mem_cons_self) below

theorem EveryName.removeEmpty? {path : List String} {node smaller : Directory} (every : node.EveryName holds)
    (removed : node.removeEmpty? path = some smaller) : smaller.EveryName holds := by
  fun_induction Directory.removeEmpty? path node generalizing smaller with
  | case1 | case3 | case4 | case6 => cases removed
  | case2 name node child found empty =>
    cases removed
    rw [everyName_iff] at every ⊢
    exact ⟨every.1, fun item inside => every.2 item (List.mem_filter.mp inside).1⟩
  | case5 name rest node more child found ih =>
    obtain ⟨below, inner, rfl⟩ := Option.map_eq_some_iff.mp removed
    have item := ((everyName_iff node).mp every).2 _ (Keyed.mem_of_find? found)
    exact every.insert item.1 (ih item.2 inner)

section Inventory

def under (name : String) (place : List String × String) : List String × String :=
  (name :: place.1, place.2)

mutual

def inventory : Directory → List (List String × String)
  | ⟨directories, files⟩ => files.map (fun file => ([], file)) ++ inventoryOfAll directories

def inventoryOfAll : List (String × Directory) → List (List String × String)
  | [] => []
  | (name, directory) :: rest => directory.inventory.map (under name) ++ inventoryOfAll rest

end

theorem inventoryOfAll_eq (directories : List (String × Directory)) :
    inventoryOfAll directories = directories.flatMap fun item => item.2.inventory.map (under item.1) := by
  induction directories with
  | nil => rfl
  | cons item rest ih => rw [inventoryOfAll, ih, List.flatMap_cons]

theorem inventory_eq (node : Directory) : node.inventory = node.files.map (fun file => ([], file)) ++
    node.directories.flatMap fun item => item.2.inventory.map (under item.1) := by
  rcases node with ⟨directories, files⟩
  rw [inventory, inventoryOfAll_eq]

variable (addressing : Addressing) (base : Path)

mutual

theorem collectFrom_eq (parents : List String) : (node : Directory) → node.collectFrom addressing base parents =
    node.inventory.map fun place => SourceFile.locate addressing base (parents ++ place.1) place.2
  | ⟨directories, files⟩ => by
    rw [collectFrom, inventory, collectFromAll_eq parents directories, List.map_append, List.map_map]
    simp [Function.comp_def]

theorem collectFromAll_eq (parents : List String) : (directories : List (String × Directory)) →
    collectFromAll addressing base parents directories =
      (inventoryOfAll directories).map fun place => SourceFile.locate addressing base (parents ++ place.1) place.2
  | [] => rfl
  | (name, directory) :: rest => by
    rw [collectFromAll, inventoryOfAll, collectFrom_eq (parents ++ [name]) directory, collectFromAll_eq parents rest,
      List.map_append, List.map_map]
    simp [Function.comp_def, under]

end

theorem collect_eq (node : Directory) : node.collect addressing base =
    node.inventory.map fun place => SourceFile.locate addressing base place.1 place.2 :=
  collectFrom_eq addressing base [] node

theorem EveryName.inventory {node : Directory} (every : node.EveryName holds) {place : List String × String}
    (member : place ∈ node.inventory) : ∀ part ∈ place.1 ++ [place.2], holds part := by
  induction node using Directory.induction generalizing place with
  | step node ih =>
    obtain ⟨here, lower⟩ := (everyName_iff node).mp every
    rw [inventory_eq, List.mem_append, List.mem_map, List.mem_flatMap] at member
    rcases member with ⟨file, inside, rfl⟩ | ⟨item, inside, below⟩
    · exact List.forall_mem_singleton.mpr (here file inside)
    · obtain ⟨place, further, rfl⟩ := List.mem_map.mp below
      exact List.forall_mem_cons.mpr ⟨(lower item inside).1, ih item inside (lower item inside).2 further⟩

end Inventory

end Directory

section Keys

def Unslashed (name : String) : Prop :=
  '/' ∉ name.toList

theorem splitOn_intercalate_slash {parts : List String} (nonempty : parts ≠ []) (unslashed : ∀ part ∈ parts, Unslashed part) :
    ("/".intercalate parts).toList.splitOn '/' = parts.map String.toList := by
  rw [String.toList_intercalate]
  apply List.splitOn_intercalate
  · intro chars member
    obtain ⟨part, inside, rfl⟩ := List.mem_map.mp member
    exact unslashed part inside
  · simpa using nonempty

theorem intercalate_injective {parts others : List String} (nonempty : parts ≠ [])
    (otherNonempty : others ≠ []) (unslashed : ∀ part ∈ parts, Unslashed part)
    (otherUnslashed : ∀ part ∈ others, Unslashed part)
    (same : "/".intercalate parts = "/".intercalate others) : parts = others := by
  have lists : parts.map String.toList = others.map String.toList := by
    rw [← splitOn_intercalate_slash nonempty unslashed, ← splitOn_intercalate_slash otherNonempty otherUnslashed, same]
  exact List.map_injective_iff.mpr (fun _ _ => String.toList_inj.mp) lists

theorem SourceFile.locate_eq_of_key {addressing : Addressing} {base : Path} {within others : List String}
    {name other : String} (unslashed : ∀ part ∈ within ++ [name], Unslashed part)
    (otherUnslashed : ∀ part ∈ others ++ [other], Unslashed part)
    (same : (locate addressing base within name).key = (locate addressing base others other).key) :
    locate addressing base within name = locate addressing base others other := by
  cases addressing with
  | fileName =>
    have names : name = other := same
    rw [names]
    rfl
  | relative =>
    have paths : within ++ [name] = others ++ [other] :=
      intercalate_injective (by simp) (by simp) unslashed otherUnslashed same
    obtain ⟨rfl, last⟩ := List.append_inj' paths rfl
    rw [List.singleton_inj.mp last]

theorem Directory.EveryName.collect_injective {addressing : Addressing} {base : Path} {tree : Directory}
    (every : tree.EveryName Unslashed) {file other : SourceFile} (member : file ∈ tree.collect addressing base)
    (otherMember : other ∈ tree.collect addressing base) (same : file.key = other.key) : file = other := by
  rw [collect_eq, List.mem_map] at member otherMember
  obtain ⟨place, inside, rfl⟩ := member
  obtain ⟨otherPlace, otherInside, rfl⟩ := otherMember
  exact SourceFile.locate_eq_of_key (every.inventory inside) (every.inventory otherInside) same

end Keys

section Findings
open FileSystem Walk

theorem Directory.EveryName.addTo {tree : Directory} {holds : String → Prop} (every : tree.EveryName holds)
    (finding : Finding) (named : ∀ name ∈ finding.names, holds (Bytes.toText name)) :
    (finding.addTo tree).EveryName holds := by
  have texts : ∀ text ∈ finding.names.map Bytes.toText, holds text := by
    intro text member
    obtain ⟨name, inside, rfl⟩ := List.mem_map.mp member
    exact named name inside
  cases finding with
  | directory path names => exact every.modify (fun node given => given) texts
  | directoryLink | loop => exact every
  | file path names =>
    rw [Finding.addTo]
    cases last : (names.map Bytes.toText).getLast? with
    | none => exact every
    | some name =>
      refine every.modify ?_ fun text inside => texts text ((List.dropLast_sublist _).subset inside)
      intro node given
      rw [everyName_iff] at given ⊢
      have new : holds name := texts name (List.mem_of_getLast? last)
      exact ⟨List.forall_mem_append.mpr ⟨given.1, List.forall_mem_singleton.mpr new⟩, given.2⟩
  | failure path names reason =>
    rw [Finding.addTo]
    cases removed : tree.removeEmpty? (names.map Bytes.toText) with
    | none => exact every
    | some smaller => exact every.removeEmpty? removed

theorem Directory.EveryName.foldl_addTo {holds : String → Prop} (findings : List Finding) {tree : Directory}
    (every : tree.EveryName holds)
    (named : ∀ finding ∈ findings, ∀ name ∈ finding.names, holds (Bytes.toText name)) :
    (findings.foldl Finding.addTo tree).EveryName holds := by
  induction findings generalizing tree with
  | nil => exact every
  | cons finding rest ih =>
    rw [List.forall_mem_cons] at named
    exact ih (every.addTo finding named.1) named.2

theorem scan_unslashed {fs : FileSystem} (sound : fs.WellFormed) (root : Path) (follow : Bool) :
    (scan fs root follow).tree.EveryName Unslashed := by
  apply Directory.everyName_empty.foldl_addTo
  intro finding member name inside slash
  exact (walk_properlyNamed sound root follow finding member name inside).noSlash
    (Bytes.mem_of_mem_toText (by decide) (by decide) slash)

end Findings

end SourceAtlas
