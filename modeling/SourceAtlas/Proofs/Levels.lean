import SourceAtlas.Proofs.Preorder
import SourceAtlas.Python.Reading
import Mathlib.Data.List.Flatten

/-! The order in which a queue visits a syntax tree. A node's level is the number of visited nodes
above it, and the queue takes the levels in turn, each from left to right: it lists the tree from
the root down, without what is transparent, and then sorts by level. -/
namespace SourceAtlas.Syntax

section Sorting
variable {α : Type} (key : α → Nat)

private theorem filter_append_filter_of_sorted {items : List α}
    (sorted : items.Pairwise fun first second => key first ≤ key second) (bound : Nat) :
    items.filter (key · < bound) ++ items.filter (bound ≤ key ·) = items := by
  induction items with
  | nil => rfl
  | cons item items ih =>
    have least := (List.pairwise_cons.mp sorted).1
    have rest := ih (List.pairwise_cons.mp sorted).2
    by_cases less : key item < bound
    · simpa [less, Nat.not_le.mpr less] using rest
    · have none : items.filter (key · < bound) = [] := by
        refine List.filter_eq_nil_iff.mpr fun other member => ?_
        have := least other member
        simp
        omega
      rw [none, List.nil_append] at rest
      simp [less, none, Nat.not_lt.mp less, rest]

private theorem flatMap_filter_of_sorted {items : List α}
    (sorted : items.Pairwise fun first second => key first ≤ key second) (bound : Nat)
    (bounded : ∀ item ∈ items, key item < bound) :
    (List.range bound).flatMap (fun rank => items.filter (key · = rank)) = items := by
  induction bound generalizing items with
  | zero =>
    have empty : items = [] := List.eq_nil_iff_forall_not_mem.mpr fun item member => by
      have := bounded item member
      omega
    simp [empty]
  | succ bound ih =>
    have lower := ih (sorted.filter (key · < bound)) fun item member => by
      simpa using (List.mem_filter.mp member).2
    have same (rank : Nat) (inRange : rank ∈ List.range bound) :
        (items.filter (key · < bound)).filter (key · = rank) = items.filter (key · = rank) := by
      rw [List.filter_filter]
      refine List.filter_congr fun item _ => ?_
      have := List.mem_range.mp inRange
      simp
      omega
    have upper : items.filter (key · = bound) = items.filter (bound ≤ key ·) := by
      refine List.filter_congr fun item member => ?_
      have := bounded item member
      simp
      omega
    rw [List.range_succ, List.flatMap_append, List.flatMap_singleton, upper, ← List.flatMap_congr same, lower]
    exact filter_append_filter_of_sorted key sorted bound

private theorem le_trans_key (first second third : α) (one : decide (key first ≤ key second) = true)
    (two : decide (key second ≤ key third) = true) : decide (key first ≤ key third) = true := by
  simp at one two ⊢
  omega

private theorem le_total_key (first second : α) :
    (decide (key first ≤ key second) || decide (key second ≤ key first)) = true := by
  simp
  omega

private theorem sorted_mergeSort (items : List α) :
    (items.mergeSort fun first second => key first ≤ key second).Pairwise fun first second => key first ≤ key second := by
  have sorted := List.pairwise_mergeSort (le_trans_key key) (le_total_key key) items
  exact sorted.imp fun le => by simpa using le

private theorem filter_key_mergeSort (items : List α) (rank : Nat) :
    (items.mergeSort fun first second => key first ≤ key second).filter (key · = rank) = items.filter (key · = rank) := by
  have equal : (items.filter (key · = rank)).Pairwise fun first second => decide (key first ≤ key second) = true := by
    refine List.pairwise_filter.mpr (List.pairwise_of_forall fun first second one two => ?_)
    simp at one two
    simp [one, two]
  have kept := List.sublist_mergeSort (le_trans_key key) (le_total_key key) equal List.filter_sublist
  have both := kept.filter (key · = rank)
  rw [List.filter_filter] at both
  simp only [Bool.and_self] at both
  refine (both.eq_of_length ?_).symm
  exact ((List.mergeSort_perm items _).filter _).length_eq.symm

private theorem exists_bound (items : List α) : ∃ bound, ∀ item ∈ items, key item < bound := by
  induction items with
  | nil => exact ⟨0, by simp⟩
  | cons item items ih =>
    obtain ⟨bound, bounded⟩ := ih
    refine ⟨bound + key item + 1, List.forall_mem_cons.mpr ⟨by omega, fun other member => ?_⟩⟩
    have := bounded other member
    omega

private theorem mergeSort_eq_flatMap (items : List α) (bound : Nat) (bounded : ∀ item ∈ items, key item < bound) :
    (items.mergeSort fun first second => key first ≤ key second) =
      (List.range bound).flatMap fun rank => items.filter (key · = rank) := by
  have sorted := flatMap_filter_of_sorted key (sorted_mergeSort key items) bound
    fun item member => bounded item (List.mem_mergeSort.mp member)
  simp only [filter_key_mergeSort] at sorted
  exact sorted.symm

private theorem filter_mergeSort (items : List α) (wanted : α → Bool) :
    (items.mergeSort fun first second => key first ≤ key second).filter wanted =
      (items.filter wanted).mergeSort fun first second => key first ≤ key second := by
  obtain ⟨bound, bounded⟩ := exists_bound key items
  rw [mergeSort_eq_flatMap key items bound bounded, List.filter_flatMap,
    mergeSort_eq_flatMap key (items.filter wanted) bound fun item member => bounded item (List.mem_filter.mp member).1]
  exact List.flatMap_congr fun rank _ => List.filter_comm wanted _ items

end Sorting

def Node.isShown (transparent : List String) (node : Node) : Bool :=
  !transparent.contains node.kind

/-- Whether a node is visited. The root is, even if it is transparent. -/
def Spot.isVisited (transparent : List String) (spot : Spot) : Bool :=
  spot.path.isEmpty || spot.node.isShown transparent

namespace Node

/-- The number of visited nodes above the one that a way leads to: the root, and those below it that
are shown. -/
def level (transparent : List String) (root : Node) (path : List Nat) : Nat :=
  match root.ancestors path with
  | [] => 0
  | _ :: inner => inner.countP (isShown transparent) + 1

/-- The wanted nodes among those that are reached through named ones, sorted by level. The sort is
stable, so that within a level they stay in source order. -/
def byLevel (transparent : List String) (wanted : Spot → Bool) (root : Node) : List Spot :=
  ((root.preorder (·.named)).filter wanted).mergeSort fun first second =>
    root.level transparent first.path ≤ root.level transparent second.path

section Tiers
variable {transparent : List String}

private def rank (transparent : List String) (node : Node) (path : List Nat) : Nat :=
  (node.ancestors path).countP (isShown transparent)

private theorem level_cons {root child : Node} {index : Nat} (nth : root.children[index]? = some child) (path : List Nat) :
    root.level transparent (index :: path) = child.rank transparent path + 1 := by
  simp [level, ancestors_cons nth, rank]

private theorem rank_cons {node child : Node} {index : Nat} (nth : node.children[index]? = some child) (path : List Nat) :
    node.rank transparent (index :: path) = child.rank transparent path + if node.isShown transparent then 1 else 0 := by
  simp [rank, ancestors_cons nth, List.countP_cons]

private def tier (transparent : List String) (count : Nat) (node : Node) : List Node :=
  ((node.preorder (·.named)).filter fun spot =>
    spot.node.isShown transparent && node.rank transparent spot.path = count).map (·.node)

private def tierBelow (transparent : List String) (count : Nat) (node : Node) : List Node :=
  node.children.flatMap fun child => if child.named then child.tier transparent count else []

private theorem map_filter_preorderOfAll {nodes : List Node} (index count : Nat) (wanted : Spot → Bool)
    (agree : ∀ (offset : Nat) (child : Node) (inner : Spot), nodes[offset]? = some child → wanted (inner.under (index + offset)) =
      (inner.node.isShown transparent && child.rank transparent inner.path = count)) :
    ((preorderOfAll (·.named) index nodes).filter wanted).map (·.node) =
      nodes.flatMap fun child => if child.named then child.tier transparent count else [] := by
  induction nodes generalizing index with
  | nil => rfl
  | cons node rest ih =>
    have later := ih (index + 1) fun offset child inner nth => by
      rw [Nat.add_right_comm]
      exact agree (offset + 1) child inner nth
    rw [preorderOfAll, List.filter_append, List.map_append, later, List.flatMap_cons]
    congr 1
    split
    · have here : wanted ∘ Spot.under index =
          fun inner => inner.node.isShown transparent && node.rank transparent inner.path = count :=
        funext fun inner => agree 0 node inner rfl
      rw [List.filter_map, List.map_map, tier, here]
      rfl
    · rfl

private theorem tier_hidden {node : Node} (hidden : node.isShown transparent = false) (count : Nat) :
    node.tier transparent count = node.tierBelow transparent count := by
  rw [tier, preorder_eq, List.filter_cons_of_neg (by simp [hidden])]
  refine map_filter_preorderOfAll 0 count _ fun offset child inner nth => ?_
  simp [Spot.under, rank_cons nth, hidden]

private theorem tier_shown_succ {node : Node} (shown : node.isShown transparent = true) (count : Nat) :
    node.tier transparent (count + 1) = node.tierBelow transparent count := by
  have first : node.rank transparent [] = 0 := rfl
  rw [tier, preorder_eq, List.filter_cons_of_neg (by simp [first])]
  refine map_filter_preorderOfAll 0 count _ fun offset child inner nth => ?_
  simp [Spot.under, rank_cons nth, shown]

private theorem tier_shown_zero {node : Node} (shown : node.isShown transparent = true) :
    node.tier transparent 0 = [node] := by
  have first : node.rank transparent [] = 0 := rfl
  have none : (preorderOfAll (·.named) 0 node.children).filter (fun spot =>
      spot.node.isShown transparent && node.rank transparent spot.path = 0) = [] := by
    refine List.filter_eq_nil_iff.mpr fun spot member => ?_
    obtain ⟨offset, child, inner, nth, -, -, rfl⟩ := mem_preorderOfAll.mp member
    simp [Spot.under, rank_cons nth, shown]
  rw [tier, preorder_eq, List.filter_cons_of_pos (by simp [shown, first]), none]
  rfl

private theorem successors_eq (node : Node) :
    node.successors transparent = node.children.flatMap fun child =>
      if child.named then if child.isShown transparent then [child] else child.successors transparent else [] := by
  have each (nodes : List Node) : successorsOfAll transparent nodes = nodes.flatMap fun child =>
      if child.named then if child.isShown transparent then [child] else child.successors transparent else [] := by
    induction nodes with
    | nil => rfl
    | cons child rest ih =>
      rw [successorsOfAll, List.flatMap_cons, ih]
      cases child.named <;> cases shown : child.isShown transparent <;> simp_all [isShown]
  cases node
  exact each _

private theorem tierBelow_zero (node : Node) : node.tierBelow transparent 0 = node.successors transparent := by
  induction node using Node.induction with
  | step node ih =>
    rw [tierBelow, successors_eq]
    refine List.flatMap_congr fun child member => ?_
    cases shown : child.isShown transparent with
    | true => simp [tier_shown_zero shown]
    | false => simp [tier_hidden shown, ih child member]

private theorem tierBelow_succ (node : Node) (count : Nat) :
    node.tierBelow transparent (count + 1) =
      (node.successors transparent).flatMap (tierBelow transparent count) := by
  induction node using Node.induction with
  | step node ih =>
    rw [tierBelow, successors_eq, List.flatMap_assoc]
    refine List.flatMap_congr fun child member => ?_
    cases shown : child.isShown transparent with
    | true => cases child.named <;> simp [tier_shown_succ shown]
    | false => cases child.named <;> simp [tier_hidden shown, ih child member]

end Tiers

section Visiting
variable {transparent : List String}

private def stage (transparent : List String) : Nat → Node → List Node
  | 0, node => [node]
  | count + 1, node => node.tierBelow transparent count

private theorem flatMap_stage (node : Node) (count : Nat) :
    (node.successors transparent).flatMap (stage transparent count) = node.stage transparent (count + 1) := by
  cases count with
  | zero =>
    rw [stage, tierBelow_zero]
    exact List.flatMap_singleton' _
  | succ count =>
    rw [stage, tierBelow_succ]
    rfl

private theorem visit_nil (back : List Node) : visit transparent [] back = visit transparent back.reverse [] := by
  cases back with
  | nil => rfl
  | cons last back => rw [visit]

private theorem visit_front (front back : List Node) :
    visit transparent front back =
      front ++ visit transparent [] ((front.flatMap (successors transparent)).reverse ++ back) := by
  induction front generalizing back with
  | nil => simp
  | cons node front ih => rw [visit, ih]; simp

private theorem visit_queue (queue : List Node) :
    visit transparent queue [] = queue ++ visit transparent (queue.flatMap (successors transparent)) [] := by
  rw [visit_front, visit_nil]
  simp

private theorem sizeOfAll_flatMap_successors (transparent : List String) (queue : List Node) :
    sizeOfAll (queue.flatMap (successors transparent)) + queue.length ≤ sizeOfAll queue := by
  induction queue with
  | nil => simp [sizeOfAll]
  | cons node queue ih =>
    have := sizeOfAll_successors_lt transparent node
    simp only [List.flatMap_cons, sizeOfAll_append, sizeOfAll, List.length_cons]
    omega

private theorem visit_eq_stages {queue : List Node} (bound : Nat) (small : sizeOfAll queue ≤ bound) :
    visit transparent queue [] =
      (List.range bound).flatMap fun count => queue.flatMap (stage transparent count) := by
  induction bound generalizing queue with
  | zero =>
    have shorter := sizeOfAll_flatMap_successors transparent queue
    have empty : queue = [] := List.eq_nil_of_length_eq_zero (by omega)
    rw [empty, visit]
    rfl
  | succ bound ih =>
    have shorter := sizeOfAll_flatMap_successors transparent queue
    by_cases empty : queue = []
    · simp [empty, visit]
    · have := List.length_pos_iff.mpr empty
      have first : queue.flatMap (stage transparent 0) = queue := List.flatMap_singleton' queue
      have next (count : Nat) : (queue.flatMap (successors transparent)).flatMap (stage transparent count) =
          queue.flatMap (stage transparent (count + 1)) := by
        rw [List.flatMap_assoc]
        exact List.flatMap_congr fun node _ => flatMap_stage node count
      rw [visit_queue, ih (by omega), List.range_succ_eq_map, List.flatMap_cons, List.flatMap_map, first]
      simp only [next]

private theorem stage_eq (root : Node) (count : Nat) :
    root.stage transparent count = (((root.preorder (·.named)).filter (Spot.isVisited transparent)).filter fun spot =>
      root.level transparent spot.path = count).map (·.node) := by
  have first : root.level transparent [] = 0 := rfl
  rw [List.filter_filter, preorder_eq]
  cases count with
  | zero =>
    have none : (preorderOfAll (·.named) 0 root.children).filter (fun spot =>
        root.level transparent spot.path = 0 && spot.isVisited transparent) = [] := by
      refine List.filter_eq_nil_iff.mpr fun spot member => ?_
      obtain ⟨offset, child, inner, nth, -, -, rfl⟩ := mem_preorderOfAll.mp member
      simp [Spot.under, level_cons nth]
    rw [List.filter_cons_of_pos (by simp [first, Spot.isVisited]), none]
    rfl
  | succ count =>
    rw [List.filter_cons_of_neg (by simp [first])]
    refine (map_filter_preorderOfAll 0 count _ fun offset child inner nth => ?_).symm
    simp [Spot.under, Spot.isVisited, level_cons nth, Bool.and_comm]

theorem breadthFirst_eq_byLevel (root : Node) :
    root.breadthFirst transparent = (root.byLevel transparent (Spot.isVisited transparent)).map (·.node) := by
  obtain ⟨bound, bounded⟩ := exists_bound (fun spot : Spot => root.level transparent spot.path)
    ((root.preorder (·.named)).filter (Spot.isVisited transparent))
  have enough (spot : Spot) (member : spot ∈ (root.preorder (·.named)).filter (Spot.isVisited transparent)) :
      root.level transparent spot.path < bound + root.size := Nat.lt_add_right _ (bounded spot member)
  have small : sizeOfAll [root] ≤ bound + root.size := by simp [sizeOfAll]
  rw [breadthFirst, visit_eq_stages (bound + root.size) small, byLevel,
    mergeSort_eq_flatMap (fun spot : Spot => root.level transparent spot.path) _ _ enough, List.map_flatMap]
  refine List.flatMap_congr fun count _ => ?_
  rw [List.flatMap_singleton, stage_eq]

end Visiting

section Listing
variable {transparent : List String} {wanted : Spot → Bool} {root : Node}

theorem mem_byLevel {spot : Spot} :
    spot ∈ root.byLevel transparent wanted ↔
      Reaches (·.named) root spot.path spot.node ∧ wanted spot = true := by
  rw [byLevel, List.mem_mergeSort, List.mem_filter, mem_preorder]

theorem pairwise_byLevel (root : Node) :
    (root.byLevel transparent wanted).Pairwise fun first second =>
      root.level transparent first.path < root.level transparent second.path ∨
        root.level transparent first.path = root.level transparent second.path ∧ first.Before second := by
  obtain ⟨bound, bounded⟩ := exists_bound (fun spot : Spot => root.level transparent spot.path)
    ((root.preorder (·.named)).filter wanted)
  have at_level {spot : Spot} {count : Nat} (member : spot ∈ ((root.preorder (·.named)).filter wanted).filter fun spot =>
      root.level transparent spot.path = count) : root.level transparent spot.path = count := by
    simpa using (List.mem_filter.mp member).2
  rw [byLevel, mergeSort_eq_flatMap (fun spot : Spot => root.level transparent spot.path) _ bound bounded,
    List.pairwise_flatMap]
  constructor
  · intro count _
    have ordered := ((pairwise_preorder (·.named) root).filter wanted).filter fun spot =>
      root.level transparent spot.path = count
    refine ordered.imp_of_mem fun inFirst inSecond before => .inr ⟨?_, before⟩
    rw [at_level inFirst, at_level inSecond]
  · refine List.pairwise_lt_range.imp fun less first inFirst second inSecond => .inl ?_
    rw [at_level inFirst, at_level inSecond]
    exact less

theorem filter_breadthFirst (transparent : List String) (wanted : Node → Bool) (root : Node)
    (shown : ∀ node, wanted node = true → node.isShown transparent = true) :
    (root.breadthFirst transparent).filter wanted = (root.byLevel transparent (wanted ·.node)).map (·.node) := by
  have same (spot : Spot) : (wanted spot.node && spot.isVisited transparent) = wanted spot.node := by
    cases found : wanted spot.node with
    | false => rfl
    | true => simp [Spot.isVisited, shown spot.node found]
  rw [breadthFirst_eq_byLevel, List.filter_map, byLevel, filter_mergeSort, List.filter_filter, byLevel]
  simp only [Function.comp_apply, same]

end Listing

end Node

end SourceAtlas.Syntax

namespace SourceAtlas.Python
open SourceAtlas.Syntax

def isClass (node : Node) : Bool :=
  node.kind = "class_definition"

def isPlainFunction (node : Node) : Bool :=
  node.kind = "function_definition" && !isCoroutine node

def isImport (node : Node) : Bool :=
  ["import_statement", "import_from_statement", "future_import_statement"].contains node.kind

/-- The outline that a tree's definitions and imports give when they are listed from the root down and
then sorted by level. -/
def outlineByLevel (source : Source) (root : Node) : Outline :=
  let listed := fun wanted : Node → Bool => (root.byLevel transparentKinds (wanted ·.node)).map (·.node)
  { classes := (listed isClass).filterMap (definedName? source)
    functions := (listed isPlainFunction).filterMap (definedName? source)
    imports := ((listed isImport).filterMap (Import.ofNode? source)).map Import.render }

private theorem ofNode?_eq_none {source : Source} {node : Node} (other : isImport node = false) :
    Import.ofNode? source node = none := by
  simp [isImport] at other
  simp [Import.ofNode?, other]

private theorem isShown_of_kind {node : Node} (kinds : List String) (disjoint : ∀ kind ∈ kinds, kind ∉ transparentKinds)
    (member : node.kind ∈ kinds) : node.isShown transparentKinds = true := by
  simpa [Node.isShown] using disjoint node.kind member

theorem outlineOf_eq_outlineByLevel (source : Source) (root : Node) : outlineOf source root = outlineByLevel source root := by
  have classes := Node.filter_breadthFirst transparentKinds isClass root fun node is =>
    isShown_of_kind ["class_definition"] (by decide) (by simpa [isClass] using is)
  have functions := Node.filter_breadthFirst transparentKinds isPlainFunction root fun node is =>
    isShown_of_kind ["function_definition"] (by decide) (by simp_all [isPlainFunction])
  have imports := Node.filter_breadthFirst transparentKinds isImport root fun node is =>
    isShown_of_kind ["import_statement", "import_from_statement", "future_import_statement"]
      (by decide) (by simpa [isImport] using is)
  have allImports : (root.breadthFirst transparentKinds).filterMap (Import.ofNode? source) =
      ((root.breadthFirst transparentKinds).filter isImport).filterMap (Import.ofNode? source) := by
    rw [List.filterMap_filter]
    refine List.filterMap_congr fun node _ => ?_
    split
    · rfl
    · rename_i other
      exact ofNode?_eq_none (Bool.not_eq_true _ ▸ other)
  rw [outlineByLevel]
  simp only [← classes, ← functions, ← imports, ← allImports]
  rfl

/-- A queue visits a syntax tree by level and within a level in source order, and with that the outline
of a text has the order of its definitions by level. -/
theorem visits_by_level :
    (∀ (transparent : List String) (root : Node), ∃ spots : List Spot,
      root.breadthFirst transparent = spots.map (·.node) ∧
      (∀ spot, spot ∈ spots ↔ Node.Reaches (·.named) root spot.path spot.node ∧
        (spot.path = [] ∨ spot.node.kind ∉ transparent)) ∧
      (spots.map (·.path)).Nodup ∧
      spots.Pairwise fun first second =>
        root.level transparent first.path < root.level transparent second.path ∨
          root.level transparent first.path = root.level transparent second.path ∧ first.Before second) ∧
    ∀ text, outline text = (parse obsoleteStatements (Source.ofString text)).map (outlineByLevel (Source.ofString text)) := by
  refine ⟨fun transparent root => ⟨_, Node.breadthFirst_eq_byLevel root, fun spot => ?_, ?_, Node.pairwise_byLevel root⟩,
    fun text => ?_⟩
  · rw [Node.mem_byLevel]
    simp [Spot.isVisited, Node.isShown]
  · refine List.pairwise_map.mpr ((Node.pairwise_byLevel root).imp fun order same => ?_)
    rcases order with less | ⟨-, before⟩
    · rw [same] at less
      exact Nat.lt_irrefl _ less
    · rw [Spot.Before, same] at before
      exact List.lt_irrefl _ before
  · rw [outline, funext (outlineOf_eq_outlineByLevel (Source.ofString text))]

end SourceAtlas.Python
