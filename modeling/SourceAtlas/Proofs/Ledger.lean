import SourceAtlas.Collection
import SourceAtlas.Proofs.Directory
import Mathlib.Data.Set.Basic

/-! Trees that are built step by step. A ledger keeps which paths have a directory and which
files were added where; it describes the tree that the same steps make, whatever their order. -/
namespace SourceAtlas.Directory

def at? : List String → Directory → Option Directory
  | [], tree => some tree
  | name :: rest, tree => (Keyed.find? name tree.directories).bind (at? rest)

def filesAt? (path : List String) (tree : Directory) : Option (List String) :=
  (tree.at? path).map files

section View

theorem filesAt?_nil (tree : Directory) : tree.filesAt? [] = some tree.files := rfl

theorem filesAt?_cons (name : String) (rest : List String) (tree : Directory) :
    tree.filesAt? (name :: rest) = (Keyed.find? name tree.directories).bind (filesAt? rest) := by
  simp only [filesAt?, at?, Option.map_bind]
  rfl

theorem filesAt?_empty (path : List String) : empty.filesAt? path = if path = [] then some [] else none := by
  cases path with
  | nil => rfl
  | cons name rest => rfl

theorem filesAt?_getD (name : String) (rest : List String) (tree : Directory) :
    (((Keyed.find? name tree.directories).getD empty).filesAt? rest).getD [] =
      (tree.filesAt? (name :: rest)).getD [] := by
  rw [filesAt?_cons]
  cases Keyed.find? name tree.directories with
  | some child => rfl
  | none =>
    rw [Option.getD_none, filesAt?_empty]
    split <;> rfl

/-- A change of the files at a path makes the directories on the way and leaves the files of all
others alone. -/
theorem filesAt?_modify (edit : List String → List String) (path other : List String) (tree : Directory) :
    (tree.modify (fun node => { node with files := edit node.files }) path).filesAt? other =
      if other = path then some (edit ((tree.filesAt? other).getD []))
      else if other <+: path then some ((tree.filesAt? other).getD [])
      else tree.filesAt? other := by
  induction path generalizing other tree with
  | nil =>
    cases other with
    | nil => rfl
    | cons name rest => simp [modify, filesAt?_cons]
  | cons name rest ih =>
    cases other with
    | nil => simp [modify, filesAt?_nil]
    | cons first others =>
      rw [modify, filesAt?_cons]
      by_cases same : first = name
      · subst same
        rw [Keyed.find?_insert_self, Option.bind_some, ih, filesAt?_getD]
        simp only [List.cons.injEq, true_and, List.cons_prefix_cons]
        split
        · rfl
        · split
          · rfl
          · rename_i away
            rw [filesAt?_cons]
            cases Keyed.find? first tree.directories with
            | some child => rfl
            | none =>
              have further : others ≠ [] := by
                rintro rfl
                exact away List.nil_prefix
              rw [Option.getD_none, filesAt?_empty, if_neg further]
              rfl
      · rw [Keyed.find?_insert_of_ne _ _ same, filesAt?_cons]
        simp [same]

theorem filesAt?_ensure (path other : List String) (tree : Directory) :
    (tree.ensure path).filesAt? other =
      if other <+: path then some ((tree.filesAt? other).getD []) else tree.filesAt? other := by
  have files : (id : Directory → Directory) = fun node => { node with files := id node.files } := by
    funext node
    rcases node with ⟨directories, files⟩
    rfl
  rw [ensure, files, filesAt?_modify]
  by_cases here : other = path
  · simp [here]
  · simp [here]

theorem filesAt?_addFile (path : List String) (file : String) (other : List String) (tree : Directory) :
    (tree.addFile path file).filesAt? other =
      if other = path then some ((tree.filesAt? other).getD [] ++ [file])
      else if other <+: path then some ((tree.filesAt? other).getD [])
      else tree.filesAt? other :=
  filesAt?_modify (· ++ [file]) path other tree

theorem isEmpty_iff (node : Directory) :
    node.isEmpty = true ↔ node.filesAt? [] = some [] ∧ ∀ rest ≠ [], node.filesAt? rest = none := by
  rcases node with ⟨directories, files⟩
  rw [isEmpty, Bool.and_eq_true, List.isEmpty_iff, List.isEmpty_iff, filesAt?_nil, Option.some.injEq]
  refine and_congr_right fun _ => ?_
  constructor
  · rintro rfl rest further
    cases rest with
    | nil => exact absurd rfl further
    | cons name rest => rfl
  · intro vacant
    cases directories with
    | nil => rfl
    | cons item others =>
      have first := vacant [item.1] (by simp)
      simp [filesAt?_cons, Keyed.find?, filesAt?_nil] at first

end View

section Removal

theorem removeEmpty?_isSome_iff (path : List String) (tree : Directory) :
    (tree.removeEmpty? path).isSome = true ↔ path ≠ [] ∧ tree.filesAt? path = some [] ∧
      ∀ rest ≠ [], tree.filesAt? (path ++ rest) = none := by
  fun_induction removeEmpty? path tree with
  | case1 => simp
  | case2 name tree child found vacant =>
    simpa [filesAt?_cons, found] using (isEmpty_iff child).mp vacant
  | case3 name tree child found occupied =>
    simpa [filesAt?_cons, found] using (not_congr (isEmpty_iff child)).mp occupied
  | case4 name tree missing => simp [filesAt?_cons, missing]
  | case5 name rest tree further child found ih =>
    have longer : rest ≠ [] := by
      rintro rfl
      exact further rfl
    simp [filesAt?_cons, found, ih, longer]
  | case6 name rest tree further missing => simp [filesAt?_cons, missing]

theorem filesAt?_removeEmpty? {path : List String} {tree smaller : Directory}
    (removed : tree.removeEmpty? path = some smaller) (other : List String) :
    smaller.filesAt? other = if other = path then none else tree.filesAt? other := by
  fun_induction removeEmpty? path tree generalizing smaller other with
  | case1 | case3 | case4 | case6 => cases removed
  | case2 name tree child found vacant =>
    cases removed
    cases other with
    | nil => rfl
    | cons first rest =>
      rw [filesAt?_cons, filesAt?_cons]
      by_cases same : first = name
      · subst same
        have erased : Keyed.find? first (Keyed.erase first tree.directories) = none := by
          rw [Keyed.find?_eq_none_iff]
          intro entry member
          simpa [Keyed.erase] using (List.mem_filter.mp member).2
        simp only [erased, found, Option.bind_none, Option.bind_some, List.cons.injEq, true_and]
        split
        · rfl
        · rename_i further
          exact (((isEmpty_iff child).mp vacant).2 rest further).symm
      · rw [Keyed.find?_erase_of_ne same]
        simp [same]
  | case5 name rest tree further child found ih =>
    obtain ⟨below, inner, rfl⟩ := Option.map_eq_some_iff.mp removed
    cases other with
    | nil => rfl
    | cons first others =>
      rw [filesAt?_cons, filesAt?_cons]
      by_cases same : first = name
      · subst same
        rw [Keyed.find?_insert_self, found, Option.bind_some, ih inner]
        simp
      · rw [Keyed.find?_insert_of_ne _ _ same]
        simp [same]

end Removal

section Collecting
variable (addressing : Addressing) (base : Path)

mutual

theorem length_collectFrom (parents : List String) :
    (node : Directory) → (node.collectFrom addressing base parents).length = node.fileCount
  | ⟨directories, files⟩ => by
    rw [collectFrom, fileCount, List.length_append, List.length_map,
      length_collectFromAll parents directories]

theorem length_collectFromAll (parents : List String) : (directories : List (String × Directory)) →
    (collectFromAll addressing base parents directories).length = fileCountOfAll directories
  | [] => rfl
  | (name, directory) :: rest => by
    rw [collectFromAll, fileCountOfAll, List.length_append, length_collectFrom (parents ++ [name]) directory,
      length_collectFromAll parents rest]

end

variable (file : SourceFile)

theorem count_collectFromAll_insert {directories : List (String × Directory)}
    (ordered : Keyed.Ordered directories) (parents : List String) (name : String) (child : Directory) :
    (collectFromAll addressing base parents (Keyed.insert name child directories)).count file +
        (((Keyed.find? name directories).getD empty).collectFrom addressing base (parents ++ [name])).count file =
      (collectFromAll addressing base parents directories).count file +
        (child.collectFrom addressing base (parents ++ [name])).count file := by
  have nothing : empty.collectFrom addressing base (parents ++ [name]) = [] := rfl
  induction directories with
  | nil => simp [Keyed.insert, Keyed.find?, collectFromAll, nothing]
  | cons item rest ih =>
    rcases item with ⟨other, old⟩
    rw [Keyed.insert]
    split_ifs with before same
    · have fresh : Keyed.find? name ((other, old) :: rest) = none := by
        rw [Keyed.find?_eq_none_iff]
        intro entry member
        rcases List.mem_cons.mp member with rfl | inside
        · exact ne_of_gt before
        · exact ne_of_gt (before.trans (ordered.head_lt inside))
      simp only [fresh, collectFromAll, Option.getD_none, nothing, List.count_append, List.count_nil]
      omega
    · subst same
      simp only [Keyed.find?, if_true, collectFromAll, Option.getD_some, List.count_append]
      omega
    · have rest := ih ordered.tail
      simp only [Keyed.find?, Ne.symm same, if_false, collectFromAll, List.count_append]
      omega

theorem count_collectFrom_withChild {node : Directory} (ordered : node.isOrdered = true)
    (parents : List String) (name : String) (child : Directory) :
    ((node.withChild name child).collectFrom addressing base parents).count file +
        (((Keyed.find? name node.directories).getD empty).collectFrom addressing base
          (parents ++ [name])).count file =
      (node.collectFrom addressing base parents).count file +
        (child.collectFrom addressing base (parents ++ [name])).count file := by
  have changed := count_collectFromAll_insert addressing base file ((isOrdered_iff node).mp ordered).1
    parents name child
  rcases node with ⟨directories, files⟩
  simp only [withChild, collectFrom, List.count_append] at changed ⊢
  omega

theorem count_collectFrom_modify {change : Directory → Directory} {more : List String → List SourceFile}
    (adds : ∀ parents node, ((change node).collectFrom addressing base parents).count file =
      (node.collectFrom addressing base parents).count file + (more parents).count file)
    (path parents : List String) {tree : Directory} (ordered : tree.isOrdered = true) :
    ((tree.modify change path).collectFrom addressing base parents).count file =
      (tree.collectFrom addressing base parents).count file + (more (parents ++ path)).count file := by
  induction path generalizing tree parents with
  | nil => simpa only [modify, List.append_nil] using adds parents tree
  | cons name rest ih =>
    have below := ih (parents ++ [name]) (isOrdered_child ordered name)
    have changed := count_collectFrom_withChild addressing base file ordered parents name
      (modify change rest ((Keyed.find? name tree.directories).getD empty))
    rw [List.append_assoc, List.singleton_append] at below
    rw [modify]
    simp only [withChild] at changed
    omega

theorem count_collectFromAll_erase {directories : List (String × Directory)}
    (ordered : Keyed.Ordered directories) {name : String} {child : Directory}
    (found : Keyed.find? name directories = some child) (parents : List String) :
    (collectFromAll addressing base parents (Keyed.erase name directories)).count file +
        (child.collectFrom addressing base (parents ++ [name])).count file =
      (collectFromAll addressing base parents directories).count file := by
  induction directories with
  | nil => cases found
  | cons item rest ih =>
    rcases item with ⟨other, old⟩
    by_cases same : other = name
    · subst same
      have fresh : Keyed.find? other rest = none :=
        (Keyed.find?_eq_none_iff _ _).mpr fun entry inside => ne_of_gt (ordered.head_lt inside)
      have kept := Keyed.erase_of_fresh fresh
      simp only [Keyed.find?, if_true, Option.some.injEq] at found
      simp only [Keyed.erase] at kept ⊢
      simp [collectFromAll, kept, found, Nat.add_comm]
    · simp only [Keyed.find?, same, if_false] at found
      have others := ih ordered.tail found
      simp only [Keyed.erase] at others ⊢
      simp only [bne_iff_ne, ne_eq, same, not_false_eq_true, List.filter_cons_of_pos, collectFromAll,
        List.count_append]
      omega

theorem count_collectFrom_removeEmpty? {path : List String} {tree smaller : Directory}
    (ordered : tree.isOrdered = true) (removed : tree.removeEmpty? path = some smaller) (parents : List String) :
    (smaller.collectFrom addressing base parents).count file =
      (tree.collectFrom addressing base parents).count file := by
  fun_induction removeEmpty? path tree generalizing smaller parents with
  | case1 | case3 | case4 | case6 => cases removed
  | case2 name tree child found vacant =>
    cases removed
    have without := count_collectFromAll_erase addressing base file ((isOrdered_iff tree).mp ordered).1
      found parents
    have nothing : child.collectFrom addressing base (parents ++ [name]) = [] := by
      rcases child with ⟨directories, files⟩
      simp only [isEmpty, Bool.and_eq_true, List.isEmpty_iff] at vacant
      simp [collectFrom, collectFromAll, vacant.1, vacant.2]
    rcases tree with ⟨directories, files⟩
    simp only [collectFrom, List.count_append, nothing, List.count_nil] at without ⊢
    omega
  | case5 name rest tree further child found ih =>
    obtain ⟨below, inner, rfl⟩ := Option.map_eq_some_iff.mp removed
    have inside := isOrdered_child ordered name
    have changed := count_collectFrom_withChild addressing base file ordered parents name below
    rw [found] at inside changed
    have same := ih inside inner (parents ++ [name])
    simp only [withChild, Option.getD_some] at changed same
    omega

end Collecting

/-- One step in building a tree: a directory is made sure of, a file is added to one, or one is
removed if nothing is in it. -/
inductive Change where
  | enter (path : List String)
  | push (path : List String) (file : String)
  | remove (path : List String)

def Change.apply (tree : Directory) : Change → Directory
  | enter path => tree.ensure path
  | push path file => tree.addFile path file
  | remove path => (tree.removeEmpty? path).getD tree

/-- What is kept of steps: the paths that have a directory, and the added files in order, each
with the path of its directory. -/
structure Ledger where
  present : Set (List String)
  added : List (List String × String)

namespace Ledger

/-- The ledger before the first step. Only the top is there. -/
def start : Ledger := ⟨{[]}, []⟩

def addedAt (ledger : Ledger) (path : List String) : List String :=
  (ledger.added.filter fun entry => entry.1 = path).map (·.2)

theorem nodup_added {ledger : Ledger} (each : ∀ path, (ledger.addedAt path).Nodup) : ledger.added.Nodup := by
  rcases ledger with ⟨present, added⟩
  simp only [addedAt] at each ⊢
  induction added with
  | nil => exact List.nodup_nil
  | cons entry rest ih =>
    refine List.nodup_cons.mpr ⟨fun again => ?_, ih fun path => ?_⟩
    · have here := each entry.1
      simp only [decide_true, List.filter_cons_of_pos, List.map_cons, List.nodup_cons] at here
      exact here.1 (List.mem_map.mpr ⟨entry, List.mem_filter.mpr ⟨again, by simp⟩, rfl⟩)
    · exact (each path).sublist (((List.sublist_cons_self entry rest).filter _).map _)

/-- Whether a path has a directory other than the top to which no file was added and below which
there is none. -/
def Vacant (ledger : Ledger) (path : List String) : Prop :=
  path ≠ [] ∧ path ∈ ledger.present ∧ ledger.addedAt path = [] ∧
    ∀ longer ∈ ledger.present, path <+: longer → longer = path

def record (ledger : Ledger) : Change → Ledger
  | .enter path => { ledger with present := ledger.present ∪ {other | other <+: path} }
  | .push path file =>
    { present := ledger.present ∪ {other | other <+: path}, added := ledger.added ++ [(path, file)] }
  | .remove path =>
    { ledger with present := {other ∈ ledger.present | other = path → ¬ ledger.Vacant path} }

structure Describes (ledger : Ledger) (tree : Directory) : Prop where
  present_iff : ∀ path, (∃ node, tree.at? path = some node) ↔ path ∈ ledger.present
  removed_iff : ∀ path, (tree.removeEmpty? path).isSome = true ↔ ledger.Vacant path
  unchanged : ∀ path, ¬ ledger.Vacant path → Change.apply tree (.remove path) = tree
  files_eq : ∀ path node, tree.at? path = some node → node.files = ledger.addedAt path
  count_eq : tree.fileCount = ledger.added.length

/-- What steps preserve: the files at each path are those in the ledger, and files are only added
where a directory stays. -/
structure Tracks (ledger : Ledger) (tree : Directory) : Prop where
  ordered : tree.isOrdered = true
  present : ∀ path ∈ ledger.present, tree.filesAt? path = some (ledger.addedAt path)
  absent : ∀ path ∉ ledger.present, tree.filesAt? path = none ∧ ledger.addedAt path = []
  collected : ∀ addressing base file, (tree.collect addressing base).count file =
    (ledger.added.map fun entry => SourceFile.locate addressing base entry.1 entry.2).count file

variable {ledger : Ledger} {tree : Directory}

theorem tracks_start : start.Tracks empty where
  ordered := rfl
  present := by
    rintro path rfl
    rfl
  absent := by
    intro path missing
    cases path with
    | nil => exact absurd rfl missing
    | cons name rest => exact ⟨rfl, rfl⟩
  collected _ _ _ := rfl

theorem addedAt_push (path : List String) (file : String) (other : List String) :
    (ledger.record (.push path file)).addedAt other =
      if other = path then ledger.addedAt other ++ [file] else ledger.addedAt other := by
  by_cases here : other = path
  · simp [addedAt, record, here]
  · simp [addedAt, record, here, Ne.symm here]

namespace Tracks
variable (tracks : ledger.Tracks tree)
include tracks

theorem filesAt?_getD (path : List String) : (tree.filesAt? path).getD [] = ledger.addedAt path := by
  by_cases there : path ∈ ledger.present
  · rw [tracks.present path there, Option.getD_some]
  · rw [(tracks.absent path there).1, (tracks.absent path there).2, Option.getD_none]

theorem mem_present_iff (path : List String) : path ∈ ledger.present ↔ ∃ files, tree.filesAt? path = some files := by
  constructor
  · exact fun there => ⟨_, tracks.present path there⟩
  · rintro ⟨files, found⟩
    by_contra missing
    rw [(tracks.absent path missing).1] at found
    cases found

theorem removed_iff (path : List String) : (tree.removeEmpty? path).isSome = true ↔ ledger.Vacant path := by
  rw [removeEmpty?_isSome_iff, Vacant]
  refine and_congr_right fun _ => ?_
  constructor
  · rintro ⟨found, below⟩
    have there : path ∈ ledger.present := (tracks.mem_present_iff path).mpr ⟨_, found⟩
    refine ⟨there, Option.some.inj ((tracks.present path there).symm.trans found), ?_⟩
    rintro longer inside ⟨rest, rfl⟩
    by_contra further
    have missing := below rest (by simpa using further)
    rw [tracks.present _ inside] at missing
    cases missing
  · rintro ⟨there, unused, lowest⟩
    refine ⟨by rw [tracks.present path there, unused], fun rest further => ?_⟩
    by_contra found
    have inside := (tracks.mem_present_iff _).mpr (Option.ne_none_iff_exists'.mp found)
    exact further (by simpa using lowest _ inside (List.prefix_append path rest))

theorem enter (path : List String) : (ledger.record (.enter path)).Tracks (Change.apply tree (.enter path)) where
  ordered := isOrdered_modify (fun _ given => given) path tracks.ordered
  present := by
    intro other there
    rw [Change.apply, filesAt?_ensure]
    split
    · exact congrArg some (tracks.filesAt?_getD other)
    · rename_i away
      exact tracks.present other (there.resolve_right away)
  absent := by
    intro other missing
    obtain ⟨old, away⟩ : other ∉ ledger.present ∧ ¬ other <+: path := not_or.mp missing
    rw [Change.apply, filesAt?_ensure, if_neg away]
    exact tracks.absent other old
  collected addressing base file := by
    have adds (parents : List String) (node : Directory) :
        ((id node).collectFrom addressing base parents).count file =
          (node.collectFrom addressing base parents).count file + ([] : List SourceFile).count file := rfl
    rw [Change.apply, ensure, collect, count_collectFrom_modify addressing base file adds path [] tracks.ordered]
    exact tracks.collected addressing base file

theorem push (path : List String) (name : String) :
    (ledger.record (.push path name)).Tracks (Change.apply tree (.push path name)) where
  ordered := by
    refine isOrdered_modify ?_ path tracks.ordered
    rintro ⟨directories, files⟩ given
    exact given
  present := by
    intro other there
    rw [Change.apply, filesAt?_addFile, addedAt_push, tracks.filesAt?_getD]
    split
    · rfl
    · split
      · rfl
      · rename_i away
        exact tracks.present other (there.resolve_right away)
  absent := by
    intro other missing
    obtain ⟨old, away⟩ : other ∉ ledger.present ∧ ¬ other <+: path := not_or.mp missing
    have elsewhere : other ≠ path := fun same => away (same ▸ List.prefix_refl other)
    rw [Change.apply, filesAt?_addFile, addedAt_push, if_neg elsewhere, if_neg away, if_neg elsewhere]
    exact tracks.absent other old
  collected addressing base file := by
    have adds (parents : List String) (node : Directory) :
        (({ node with files := node.files ++ [name] } : Directory).collectFrom addressing base parents).count file =
          (node.collectFrom addressing base parents).count file +
            [SourceFile.locate addressing base parents name].count file := by
      rcases node with ⟨directories, files⟩
      simp only [collectFrom, List.map_append, List.map_singleton, List.count_append]
      omega
    rw [Change.apply, addFile, collect, count_collectFrom_modify addressing base file adds path [] tracks.ordered]
    rw [record, List.map_append, List.count_append, ← tracks.collected addressing base file]
    rfl

theorem remove (path : List String) :
    (ledger.record (.remove path)).Tracks (Change.apply tree (.remove path)) := by
  have removable := tracks.removed_iff path
  rw [Change.apply]
  cases removed : tree.removeEmpty? path with
  | none =>
    have kept : ¬ ledger.Vacant path := by
      rw [← removable, removed]
      simp
    have same : ledger.record (.remove path) = ledger := by simp [record, kept]
    rw [same, Option.getD_none]
    exact tracks
  | some smaller =>
    have vacant : ledger.Vacant path := by
      rw [← removable, removed]
      rfl
    have view := filesAt?_removeEmpty? removed
    rw [Option.getD_some]
    refine ⟨isOrdered_removeEmpty? tracks.ordered removed, ?_, ?_, fun addressing base file =>
      (count_collectFrom_removeEmpty? addressing base file tracks.ordered removed []).trans
        (tracks.collected addressing base file)⟩
    · rintro other ⟨there, kept⟩
      have elsewhere : other ≠ path := fun same => kept same vacant
      rw [view, if_neg elsewhere]
      exact tracks.present other there
    · intro other missing
      rw [view]
      by_cases here : other = path
      · rw [if_pos here, here]
        exact ⟨rfl, vacant.2.2.1⟩
      · rw [if_neg here]
        exact tracks.absent other fun there => missing ⟨there, fun same => absurd same here⟩

theorem step (change : Change) : (ledger.record change).Tracks (Change.apply tree change) := by
  cases change with
  | enter path => exact tracks.enter path
  | push path file => exact tracks.push path file
  | remove path => exact tracks.remove path

theorem collect_perm (addressing : Addressing) (base : Path) : (tree.collect addressing base).Perm
    (ledger.added.map fun entry => SourceFile.locate addressing base entry.1 entry.2) :=
  List.perm_iff_count.mpr (tracks.collected addressing base)

theorem fileCount_eq : tree.fileCount = ledger.added.length := by
  have same := (tracks.collect_perm .relative []).length_eq
  rwa [collect, length_collectFrom, List.length_map] at same

theorem describes : ledger.Describes tree where
  present_iff path := by
    rw [tracks.mem_present_iff]
    simp [filesAt?]
  removed_iff := tracks.removed_iff
  unchanged path kept := by
    rw [← tracks.removed_iff, Option.not_isSome_iff_eq_none] at kept
    rw [Change.apply, kept, Option.getD_none]
  files_eq path node found := by
    have view : tree.filesAt? path = some node.files := by rw [filesAt?, found, Option.map_some]
    have there := (tracks.mem_present_iff path).mpr ⟨_, view⟩
    exact Option.some.inj (view.symm.trans (tracks.present path there))
  count_eq := tracks.fileCount_eq

end Tracks

theorem tracks_foldl (changes : List Change) (tracks : ledger.Tracks tree) :
    (changes.foldl record ledger).Tracks (changes.foldl Change.apply tree) := by
  induction changes generalizing ledger tree with
  | nil => exact tracks
  | cons change changes ih => exact ih (tracks.step change)

theorem mem_present_foldl {path : List String} (changes : List Change)
    (there : path ∈ (changes.foldl record ledger).present) :
    path ∈ ledger.present ∨
      ∃ goal, path <+: goal ∧ (.enter goal ∈ changes ∨ ∃ file, .push goal file ∈ changes) := by
  induction changes generalizing ledger with
  | nil => exact .inl there
  | cons change changes ih =>
    rcases ih there with before | ⟨goal, past, step⟩
    · cases change with
      | enter goal =>
        rcases before with old | past
        · exact .inl old
        · exact .inr ⟨goal, past, .inl List.mem_cons_self⟩
      | push goal file =>
        rcases before with old | past
        · exact .inl old
        · exact .inr ⟨goal, past, .inr ⟨file, List.mem_cons_self⟩⟩
      | remove goal => exact .inl before.1
    · refine .inr ⟨goal, past, ?_⟩
      rcases step with entered | ⟨file, pushed⟩
      · exact .inl (List.mem_cons_of_mem _ entered)
      · exact .inr ⟨file, List.mem_cons_of_mem _ pushed⟩

/-- However a tree was built from the empty one, the ledger of the steps tells where it has
directories, which of them can be removed, which files they have and how many there are. -/
theorem describes_built (changes : List Change) :
    (changes.foldl record start).Describes (changes.foldl Change.apply empty) :=
  (tracks_foldl changes tracks_start).describes

end Ledger

end SourceAtlas.Directory
