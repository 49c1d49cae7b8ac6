import SourceAtlas.Proofs.ScannedNames

/-! What the list of a tree's files says about the tree. Adding the files one by one where their keys say builds
the tree again, but for directories without files; and keys tell files apart as far as the names in every
directory do. -/
namespace SourceAtlas

namespace Directory

section Pruning

mutual

/-- The tree without directories that have no file in them or below them. The directory itself stays. -/
def pruned : Directory → Directory
  | ⟨directories, files⟩ => ⟨prunedOfAll directories, files⟩

def prunedOfAll : List (String × Directory) → List (String × Directory)
  | [] => []
  | (name, directory) :: rest =>
    if directory.fileCount = 0 then prunedOfAll rest else (name, directory.pruned) :: prunedOfAll rest

end

theorem length_inventory (node : Directory) : node.inventory.length = node.fileCount := by
  have collected := length_collectFrom .relative [] [] node
  rwa [collectFrom_eq, List.length_map] at collected

def add (tree : Directory) (place : List String × String) : Directory :=
  tree.addFile place.1 place.2

theorem foldl_add_files (files : List String) (node : Directory) :
    (files.map fun file => (([] : List String), file)).foldl add node = { node with files := node.files ++ files } := by
  induction files generalizing node with
  | nil =>
    rcases node with ⟨directories, files⟩
    simp
  | cons file files ih =>
    rw [List.map_cons, List.foldl_cons, ih]
    simp [add, addFile, modify]

theorem add_under (node : Directory) (name : String) (place : List String × String) :
    node.add (under name place) =
      node.withChild name (((Keyed.find? name node.directories).getD empty).add place) :=
  rfl

/-- Files below a subdirectory are added to it. It is made with the first of them. -/
theorem foldl_add_under {places : List (List String × String)} (some : places ≠ []) (name : String) (node : Directory) :
    (places.map (under name)).foldl add node =
      node.withChild name (places.foldl add ((Keyed.find? name node.directories).getD empty)) := by
  induction places generalizing node with
  | nil => exact absurd rfl some
  | cons place rest ih =>
    rw [List.map_cons, List.foldl_cons, List.foldl_cons, add_under]
    -- Without a further file the induction hypothesis says nothing: an empty list makes no subdirectory.
    by_cases last : rest = []
    · subst last
      rfl
    · rw [ih last]
      simp only [withChild, Keyed.find?_insert_self, Option.getD_some, Keyed.insert_insert]

theorem foldl_add_inventoryOfAll {directories : List (String × Directory)} (ordered : Keyed.Ordered directories)
    (rebuilt : ∀ item ∈ directories, item.2.inventory.foldl add empty = item.2.pruned) (files : List String)
    (before : List (String × Directory)) (behind : ∀ item ∈ directories, ∀ other ∈ before, other.1 < item.1) :
    (inventoryOfAll directories).foldl add ⟨before, files⟩ = ⟨before ++ prunedOfAll directories, files⟩ := by
  -- What is built already has smaller names than what comes, so that every insertion is at the end.
  induction directories generalizing before with
  | nil => simp [inventoryOfAll, prunedOfAll]
  | cons item rest ih =>
    rcases item with ⟨name, directory⟩
    obtain ⟨first, others⟩ := List.forall_mem_cons.mp behind
    obtain ⟨here, later⟩ := List.forall_mem_cons.mp rebuilt
    have count := length_inventory directory
    rw [inventoryOfAll, List.foldl_append, prunedOfAll]
    split_ifs with vacant
    · have none : directory.inventory = [] := List.eq_nil_of_length_eq_zero (by rw [count, vacant])
      rw [none]
      exact ih ordered.tail later before others
    · have some : directory.inventory ≠ [] := by
        intro none
        rw [none] at count
        exact vacant count.symm
      have fresh : Keyed.find? name before = none :=
        (Keyed.find?_eq_none_iff _ _).mpr fun other inside => ne_of_lt (first other inside)
      have appended : (directory.inventory.map (under name)).foldl add ⟨before, files⟩ =
          ⟨before ++ [(name, directory.pruned)], files⟩ := by
        rw [foldl_add_under some, fresh, Option.getD_none, here, withChild, Keyed.insert_of_greatest _ first]
      rw [appended, ih ordered.tail later _ ?_]
      · simp
      · intro item inside other member
        rcases List.mem_append.mp member with earlier | last
        · exact others item inside other earlier
        · rw [List.mem_singleton.mp last]
          exact ordered.head_lt inside

theorem foldl_add_inventory {node : Directory} (ordered : node.isOrdered = true) :
    node.inventory.foldl add empty = node.pruned := by
  induction node using Directory.induction with
  | step node ih =>
    obtain ⟨names, lower⟩ := (isOrdered_iff node).mp ordered
    rcases node with ⟨directories, files⟩
    have rebuilt := foldl_add_inventoryOfAll names (fun item inside => ih item inside (lower item inside)) files [] (by simp)
    rw [inventory, List.foldl_append, foldl_add_files, pruned]
    exact rebuilt

end Pruning

section Keys

def namesOf (key : String) : List String :=
  (key.toList.splitOn '/').map String.ofList

def addKey (tree : Directory) (key : String) : Directory :=
  tree.addFile (namesOf key).dropLast ((namesOf key).getLastD "")

def ofKeys (keys : List String) : Directory :=
  keys.foldl addKey empty

theorem namesOf_intercalate {parts : List String} (nonempty : parts ≠ []) (unslashed : ∀ part ∈ parts, Unslashed part) :
    namesOf ("/".intercalate parts) = parts := by
  rw [namesOf, splitOn_intercalate_slash nonempty unslashed, List.map_map]
  simp [Function.comp_def]

theorem addKey_locate (tree : Directory) (base : Path) {place : List String × String}
    (unslashed : ∀ part ∈ place.1 ++ [place.2], Unslashed part) :
    tree.addKey (SourceFile.locate .relative base place.1 place.2).key = tree.add place := by
  have names : namesOf (SourceFile.locate .relative base place.1 place.2).key = place.1 ++ [place.2] :=
    namesOf_intercalate (by simp) unslashed
  rw [addKey, names, List.dropLast_concat, List.getLastD_concat]
  rfl

end Keys

section Distinctness

/-- Something holds everywhere in a tree if it holds of the tree and everywhere in its subdirectories. -/
theorem forall_at?_iff {node : Directory} (ordered : Keyed.Ordered node.directories) (holds : Directory → Prop) :
    (∀ way child, node.at? way = some child → holds child) ↔
      holds node ∧ ∀ item ∈ node.directories, ∀ way child, item.2.at? way = some child → holds child := by
  constructor
  · intro every
    refine ⟨every [] node rfl, fun item inside way child there => every (item.1 :: way) child ?_⟩
    rw [at?, ordered.find?_of_mem inside]
    exact there
  · rintro ⟨here, lower⟩ way child there
    cases way with
    | nil =>
      cases there
      exact here
    | cons name rest =>
      obtain ⟨next, found, further⟩ := Option.bind_eq_some_iff.mp there
      exact lower (name, next) (Keyed.mem_of_find? found) rest child further

theorem under_injective (name : String) : Function.Injective (under name) := by
  rintro ⟨way, file⟩ ⟨otherWay, otherFile⟩ same
  simpa [under] using same

theorem disjoint_under {name other : String} (different : name ≠ other) (places others : List (List String × String)) :
    (places.map (under name)).Disjoint (others.map (under other)) := by
  intro place member otherMember
  obtain ⟨first, -, rfl⟩ := List.mem_map.mp member
  obtain ⟨second, -, same⟩ := List.mem_map.mp otherMember
  exact different (List.head_eq_of_cons_eq (Prod.mk.inj same).1).symm

theorem nodup_inventory_iff {node : Directory} (ordered : node.isOrdered = true) :
    node.inventory.Nodup ↔ ∀ way child, node.at? way = some child → child.files.Nodup := by
  induction node using Directory.induction with
  | step node ih =>
    obtain ⟨names, lower⟩ := (isOrdered_iff node).mp ordered
    have own : (node.files.map fun file => (([] : List String), file)).Nodup ↔ node.files.Nodup :=
      List.nodup_map_iff fun file other same => (Prod.mk.inj same).2
    have below (item) (inside : item ∈ node.directories) : (item.2.inventory.map (under item.1)).Nodup ↔
        ∀ way child, item.2.at? way = some child → child.files.Nodup := by
      rw [List.nodup_map_iff (under_injective item.1), ih item inside (lower item inside)]
    have apart : node.directories.Pairwise
        (Function.onFun List.Disjoint fun item => item.2.inventory.map (under item.1)) :=
      names.imp fun less => disjoint_under (ne_of_lt less) _ _
    have separate : ∀ place ∈ node.files.map (fun file => (([] : List String), file)),
        ∀ other ∈ node.directories.flatMap (fun item => item.2.inventory.map (under item.1)), place ≠ other := by
      rintro place member other otherMember rfl
      obtain ⟨file, -, rfl⟩ := List.mem_map.mp member
      obtain ⟨item, -, further⟩ := List.mem_flatMap.mp otherMember
      obtain ⟨lower, -, same⟩ := List.mem_map.mp further
      cases same
    rw [forall_at?_iff names fun child => child.files.Nodup, inventory_eq, List.nodup_append, own, List.nodup_flatMap]
    constructor
    · rintro ⟨here, ⟨further, -⟩, -⟩
      exact ⟨here, fun item inside => (below item inside).mp (further item inside)⟩
    · rintro ⟨here, further⟩
      exact ⟨here, ⟨fun item inside => (below item inside).mpr (further item inside), apart⟩, separate⟩

end Distinctness

end Directory

section Locations

theorem ofText_intercalate (first : String) (rest : List String) :
    Bytes.ofText ("/".intercalate (first :: rest)) = [Path.slash].intercalate ((first :: rest).map Bytes.ofText) := by
  induction rest generalizing first with
  | nil => simp [Bytes.ofText]
  | cons second rest ih =>
    have next := ih second
    simp only [Bytes.ofText, String.toList_intercalate, List.map_cons] at next ⊢
    rw [List.intercalate_cons_cons, List.intercalate_cons_cons, List.flatMap_append, List.flatMap_append, next]
    rfl

theorem Segment.intercalate_relative {first : Bytes} (segment : Segment first) (rest : List Bytes) :
    Path.isAbsolute ([Path.slash].intercalate (first :: rest)) = false := by
  have relative := segment.relative
  cases first with
  | nil => exact absurd rfl segment.nonempty
  | cons byte more => cases rest <;> exact relative

theorem SourceFile.location_locate (base : Path) {within : List String} {name : String}
    (named : ∀ part ∈ within ++ [name], part ≠ "" ∧ Unslashed part) :
    (locate .relative base within name).location = base.join (Path.ofText (locate .relative base within name).key) := by
  have located : (locate .relative base within name).location =
      ((within ++ [name]).map Bytes.ofText).foldl Path.join base := List.foldl_map.symm
  have keyed : (locate .relative base within name).key = "/".intercalate (within ++ [name]) := rfl
  obtain ⟨first, rest, whole⟩ : ∃ first rest, within ++ [name] = first :: rest := List.exists_cons_of_ne_nil (by simp)
  rw [located, keyed, whole]
  rw [whole] at named
  have segments : ∀ bytes ∈ (first :: rest).map Bytes.ofText, Segment bytes := by
    intro bytes member
    obtain ⟨part, inside, rfl⟩ := List.mem_map.mp member
    exact segment_ofText (named part inside).1 (named part inside).2
  have relative : Path.isAbsolute (Path.ofText ("/".intercalate (first :: rest))) = false := by
    rw [Path.ofText, ofText_intercalate]
    exact (segments _ List.mem_cons_self).intercalate_relative _
  rw [join_of_relative relative, Path.ofText, ofText_intercalate]
  exact foldl_join_eq base _ _ segments

end Locations

/-- Keys build the tree again in which files were collected, but for directories without files. In both modes the
list is as long as there are files, with the same names in the same order. -/
theorem collect_rebuilds (node : Directory) (base other : Path) :
    (node.isOrdered = true → node.EveryName Unslashed →
      Directory.ofKeys ((node.collect .relative base).map (·.key)) = node.pruned) ∧
    (node.collect .relative base).length = node.fileCount ∧
    (node.collect .fileName other).length = node.fileCount ∧
    (node.collect .fileName other).map (·.name) = (node.collect .relative base).map (·.name) := by
  refine ⟨fun ordered unslashed => ?_, Directory.length_collectFrom _ _ [] node, Directory.length_collectFrom _ _ [] node, ?_⟩
  · rw [Directory.collect_eq, Directory.ofKeys, List.map_map, List.foldl_map, ← Directory.foldl_add_inventory ordered]
    apply List.foldl_ext
    intro tree place member
    exact tree.addKey_locate base (unslashed.inventory member)
  · rw [Directory.collect_eq, Directory.collect_eq, List.map_map, List.map_map]
    rfl

/-- A tree with files of one name in several directories and twice in one of them, and with directories without files. -/
def scatteredTree : Directory :=
  ⟨[("a", ⟨[("b", ⟨[], ["x.py"]⟩), ("vacant", ⟨[("lower", .empty)], []⟩)], ["x.py", "x.py"]⟩), ("c", .empty)], ["top.py"]⟩

theorem isOrdered_scatteredTree : scatteredTree.isOrdered = true := by decide +kernel

theorem collect_rebuilds_scattered : scatteredTree.isOrdered = true ∧ scatteredTree.EveryName Unslashed ∧
    Directory.ofKeys ((scatteredTree.collect .relative (Path.ofText "r")).map (·.key)) =
      ⟨[("a", ⟨[("b", ⟨[], ["x.py"]⟩)], ["x.py", "x.py"]⟩)], ["top.py"]⟩ := by
  have ordered := isOrdered_scatteredTree
  have unslashed : scatteredTree.EveryName Unslashed := by
    simp [scatteredTree, Directory.empty, Directory.EveryName, Directory.EveryNameOfAll, Unslashed]
  refine ⟨ordered, unslashed, ?_⟩
  rw [(collect_rebuilds scatteredTree (Path.ofText "r") []).1 ordered unslashed]
  rfl

/-- Keys are distinct exactly if the names in every directory are, and lead from the base directory to where files
are opened. -/
theorem keys_distinct_and_lead (node : Directory) (ordered : node.isOrdered = true)
    (named : node.EveryName fun name => name ≠ "" ∧ Unslashed name) (base : Path) :
    (((node.collect .relative base).map (·.key)).Nodup ↔
      ∀ way child, node.at? way = some child → child.files.Nodup) ∧
    ∀ file ∈ node.collect .relative base, file.location = base.join (Path.ofText file.key) := by
  rw [Directory.collect_eq]
  constructor
  · rw [← Directory.nodup_inventory_iff ordered, List.map_map]
    refine ⟨List.Nodup.of_map _, fun distinct => distinct.map_on ?_⟩
    intro place member other otherMember same
    have unslashed {place : List String × String} (member : place ∈ node.inventory) :
        ∀ part ∈ place.1 ++ [place.2], Unslashed part := fun part inside => (named.inventory member part inside).2
    have parts : place.1 ++ [place.2] = other.1 ++ [other.2] :=
      intercalate_injective (by simp) (by simp) (unslashed member) (unslashed otherMember) same
    obtain ⟨ways, last⟩ := List.append_inj' parts rfl
    exact Prod.ext ways (List.singleton_inj.mp last)
  · intro file member
    obtain ⟨place, inside, rfl⟩ := List.mem_map.mp member
    exact SourceFile.location_locate base (named.inventory inside)

theorem keys_distinct_and_lead_scattered : scatteredTree.isOrdered = true ∧
    scatteredTree.EveryName (fun name => name ≠ "" ∧ Unslashed name) ∧
    (((scatteredTree.collect .relative (Path.ofText "r//")).map (·.key)).Nodup ↔
      ∀ way child, scatteredTree.at? way = some child → child.files.Nodup) ∧
    ∀ file ∈ scatteredTree.collect .relative (Path.ofText "r//"),
      file.location = Path.join (Path.ofText "r//") (Path.ofText file.key) := by
  have ordered := isOrdered_scatteredTree
  have named : scatteredTree.EveryName fun name => name ≠ "" ∧ Unslashed name := by
    simp [scatteredTree, Directory.empty, Directory.EveryName, Directory.EveryNameOfAll, Unslashed]
  exact ⟨ordered, named, keys_distinct_and_lead scatteredTree ordered named (Path.ofText "r//")⟩

end SourceAtlas
