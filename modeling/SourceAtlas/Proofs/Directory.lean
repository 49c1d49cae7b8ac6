import SourceAtlas.Directory
import SourceAtlas.Proofs.Keyed

/-! Changes of a directory tree at one path. What is changed below a path is changed in the
directory at the path, and the rest of the tree stays as it is. -/
namespace SourceAtlas.Directory

/-- What holds of a directory whenever it holds of its subdirectories holds of every directory. -/
protected theorem induction {motive : Directory → Prop}
    (step : ∀ node : Directory, (∀ item ∈ node.directories, motive item.2) → motive node) (node : Directory) : motive node :=
  step node fun item _ => Directory.induction step item.2
termination_by node
decreasing_by
  rename_i member
  have := List.sizeOf_lt_of_mem member
  cases node
  cases item
  simp only [mk.sizeOf_spec, Prod.mk.sizeOf_spec] at this ⊢
  omega

def putAt (path : List String) (node tree : Directory) : Directory :=
  tree.modify (fun _ => node) path

def withChild (node : Directory) (name : String) (child : Directory) : Directory :=
  { node with directories := Keyed.insert name child node.directories }

def withFile (node : Directory) (file : String) : Directory :=
  { node with files := node.files ++ [file] }

theorem putAt_nil (node tree : Directory) : putAt [] node tree = node := by
  simp [putAt, modify]

theorem putAt_cons (name : String) (path : List String) (node tree : Directory) :
    putAt (name :: path) node tree =
      tree.withChild name (putAt path node ((Keyed.find? name tree.directories).getD empty)) := by
  simp [putAt, modify, withChild]

theorem modify_append (change : Directory → Directory) (path rest : List String) (tree : Directory) :
    tree.modify change (path ++ rest) = tree.modify (fun node => node.modify change rest) path := by
  induction path generalizing tree with
  | nil => simp [modify]
  | cons name path ih => simp [modify, ih]

theorem modify_putAt (change : Directory → Directory) (path : List String) (node tree : Directory) :
    (putAt path node tree).modify change path = putAt path (change node) tree := by
  induction path generalizing tree with
  | nil => simp [putAt, modify]
  | cons name path ih =>
    simp only [putAt_cons, modify, withChild, Keyed.find?_insert_self, Option.getD_some, ih,
      Keyed.insert_insert]

theorem putAt_append (path : List String) (name : String) (child node tree : Directory) :
    putAt (path ++ [name]) child (putAt path node tree) = putAt path (node.withChild name child) tree := by
  rw [putAt, modify_append, modify_putAt]
  simp [modify, withChild]

theorem ensure_putAt {name : String} {node : Directory} (path : List String) (tree : Directory)
    (fresh : Keyed.find? name node.directories = none) :
    (putAt path node tree).ensure (path ++ [name]) =
      putAt (path ++ [name]) empty (putAt path node tree) := by
  rw [putAt_append, ensure, modify_append, modify_putAt]
  simp [modify, withChild, fresh]

theorem addFile_putAt (path : List String) (file : String) (node tree : Directory) :
    (putAt path node tree).addFile path file = putAt path (node.withFile file) tree := by
  rw [addFile, modify_putAt, withFile]

theorem removeEmpty?_putAt (path : List String) (name : String) (node tree : Directory) :
    (removeEmpty? (path ++ [name]) (putAt path node tree)).getD (putAt path node tree) =
      putAt path ((removeEmpty? [name] node).getD node) tree := by
  induction path generalizing tree with
  | nil => simp [putAt_nil]
  | cons first path ih =>
    obtain ⟨second, rest, longer⟩ : ∃ second rest, path ++ [name] = second :: rest :=
      List.exists_cons_of_ne_nil (by simp)
    have below := ih ((Keyed.find? first tree.directories).getD empty)
    simp only [putAt_cons, List.cons_append, longer, removeEmpty?, withChild,
      Keyed.find?_insert_self] at below ⊢
    rw [← below]
    cases removeEmpty? (second :: rest) (putAt path node _) with
    | none => simp
    | some removed => simp [Keyed.insert_insert]

theorem removeEmpty?_fresh {name : String} {node : Directory}
    (fresh : Keyed.find? name node.directories = none) : (removeEmpty? [name] node).getD node = node := by
  simp [removeEmpty?, fresh]

theorem removeEmpty?_withChild_empty {name : String} {node : Directory}
    (fresh : Keyed.find? name node.directories = none) :
    (removeEmpty? [name] (node.withChild name empty)).getD (node.withChild name empty) = node := by
  rcases node with ⟨directories, files⟩
  simp [removeEmpty?, withChild, Keyed.find?_insert_self, isEmpty, empty, Keyed.erase_insert fresh]

section Order

mutual

def isOrdered : Directory → Bool
  | ⟨directories, _⟩ => decide (Keyed.Ordered directories) && areOrdered directories

def areOrdered : List (String × Directory) → Bool
  | [] => true
  | (_, directory) :: rest => directory.isOrdered && areOrdered rest

end

theorem areOrdered_iff (directories : List (String × Directory)) :
    areOrdered directories = true ↔ ∀ item ∈ directories, item.2.isOrdered = true := by
  induction directories with
  | nil => simp [areOrdered]
  | cons item rest ih =>
    rcases item with ⟨name, directory⟩
    simp only [areOrdered, Bool.and_eq_true, ih, List.forall_mem_cons]

theorem isOrdered_iff (node : Directory) : node.isOrdered = true ↔
    Keyed.Ordered node.directories ∧ ∀ item ∈ node.directories, item.2.isOrdered = true := by
  rcases node with ⟨directories, files⟩
  rw [isOrdered, Bool.and_eq_true, decide_eq_true_eq, areOrdered_iff]

theorem isOrdered_child {node : Directory} (ordered : node.isOrdered = true) (name : String) :
    ((Keyed.find? name node.directories).getD empty).isOrdered = true := by
  cases found : Keyed.find? name node.directories with
  | none => rfl
  | some child => exact ((isOrdered_iff node).mp ordered).2 _ (Keyed.mem_of_find? found)

theorem isOrdered_withChild {node child : Directory} (ordered : node.isOrdered = true)
    (below : child.isOrdered = true) (name : String) : (node.withChild name child).isOrdered = true := by
  rw [isOrdered_iff] at ordered ⊢
  refine ⟨ordered.1.insert name child, ?_⟩
  intro item member
  rcases Keyed.mem_insert member with rfl | inside
  · exact below
  · exact ordered.2 item inside

theorem isOrdered_modify {change : Directory → Directory}
    (keeps : ∀ node : Directory, node.isOrdered = true → (change node).isOrdered = true) (path : List String)
    {tree : Directory} (ordered : tree.isOrdered = true) : (tree.modify change path).isOrdered = true := by
  induction path generalizing tree with
  | nil => exact keeps tree ordered
  | cons name rest ih => exact isOrdered_withChild ordered (ih (isOrdered_child ordered name)) name

theorem isOrdered_removeEmpty? {path : List String} {tree smaller : Directory} (ordered : tree.isOrdered = true)
    (removed : tree.removeEmpty? path = some smaller) : smaller.isOrdered = true := by
  fun_induction removeEmpty? path tree generalizing smaller with
  | case1 | case3 | case4 | case6 => cases removed
  | case2 name tree child found vacant =>
    cases removed
    rw [isOrdered_iff] at ordered ⊢
    exact ⟨ordered.1.sublist List.filter_sublist, fun item inside => ordered.2 item (List.mem_filter.mp inside).1⟩
  | case5 name rest tree further child found ih =>
    obtain ⟨below, inner, rfl⟩ := Option.map_eq_some_iff.mp removed
    have inside := isOrdered_child ordered name
    rw [found] at inside
    exact isOrdered_withChild ordered (ih inside inner) name

end Order

end SourceAtlas.Directory
