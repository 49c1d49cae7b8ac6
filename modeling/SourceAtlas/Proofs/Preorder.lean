import SourceAtlas.Syntax.Node
import Mathlib.Data.List.Basic

/-! Syntax trees from the root down, each node before those below it and children in source order.
A node is told from another by the way to it, and the ways ascend along the listing. A search
that stops at the first wanted node finds the first one of the listing. -/
namespace SourceAtlas.Syntax

/-- A node with the way to it from the root of its tree: which child to take at each step. -/
structure Spot where
  path : List Nat
  node : Node

namespace Spot

def under (index : Nat) (spot : Spot) : Spot :=
  ⟨index :: spot.path, spot.node⟩

def Before (first second : Spot) : Prop :=
  first.path < second.path

def NotAfter (first second : Spot) : Prop :=
  first = second ∨ first.Before second

theorem NotAfter.trans {first second third : Spot} (one : first.NotAfter second) (two : second.NotAfter third) :
    first.NotAfter third := by
  rcases one with rfl | one
  · exact two
  · rcases two with rfl | two
    · exact .inr one
    · exact .inr (List.lt_trans one two)

theorem NotAfter.antisymm {first second : Spot} (one : first.NotAfter second) (two : second.NotAfter first) :
    first = second := by
  rcases one with same | one
  · exact same
  · rcases two with same | two
    · exact same.symm
    · exact absurd two (List.lt_asymm one)

end Spot

namespace Node

protected theorem induction {motive : Node → Prop} (step : ∀ node, (∀ child ∈ node.children, motive child) → motive node)
    (node : Node) : motive node :=
  step node fun child _ => Node.induction step child
termination_by node
decreasing_by
  rename_i member
  have := List.sizeOf_lt_of_mem member
  cases node
  simp only [mk.sizeOf_spec] at this ⊢
  omega

mutual

/-- The nodes of a tree, each before those below it. Of the children only those that may be
entered are listed. -/
def preorder (enter : Node → Bool) : Node → List Spot
  | ⟨kind, named, start, stop, position, isError, isMissing, hasError, children⟩ =>
    ⟨[], ⟨kind, named, start, stop, position, isError, isMissing, hasError, children⟩⟩ :: preorderOfAll enter 0 children

def preorderOfAll (enter : Node → Bool) (index : Nat) : List Node → List Spot
  | [] => []
  | node :: rest =>
    (if enter node then (preorder enter node).map (Spot.under index) else []) ++ preorderOfAll enter (index + 1) rest

end

/-- The way from a node to one below it, through nodes that may be entered. -/
inductive Reaches (enter : Node → Bool) : Node → List Nat → Node → Prop
  | here {node : Node} : Reaches enter node [] node
  | child {node child target : Node} {index : Nat} {path : List Nat} (nth : node.children[index]? = some child)
      (entered : enter child = true) (rest : Reaches enter child path target) :
      Reaches enter node (index :: path) target

def ancestors : Node → List Nat → List Node
  | _, [] => []
  | node, index :: path => node :: (node.children[index]?.map (·.ancestors path)).getD []

def everywhere (_ : Node) : Bool :=
  true

variable {enter : Node → Bool}

theorem preorder_eq (node : Node) : node.preorder enter = ⟨[], node⟩ :: preorderOfAll enter 0 node.children := by
  cases node
  rfl

theorem ancestors_cons {node child : Node} {index : Nat} (nth : node.children[index]? = some child) (path : List Nat) :
    node.ancestors (index :: path) = node :: child.ancestors path := by
  simp [ancestors, nth]

theorem Reaches.mono {other : Node → Bool} (weaker : ∀ node, enter node = true → other node = true) {root node : Node}
    {path : List Nat} (reached : Reaches enter root path node) : Reaches other root path node := by
  induction reached with
  | here => exact .here
  | child nth entered _ ih => exact .child nth (weaker _ entered) ih

theorem Reaches.ancestor {root node above : Node} {path : List Nat} (reached : Reaches enter root path node)
    (member : above ∈ root.ancestors path) : ∃ upper, Reaches enter root upper above ∧ upper < path := by
  induction reached with
  | here => simp [ancestors] at member
  | child nth entered rest ih =>
    rw [ancestors_cons nth, List.mem_cons] at member
    rcases member with rfl | member
    · exact ⟨[], .here, List.nil_lt_cons _ _⟩
    · obtain ⟨upper, reached, before⟩ := ih member
      exact ⟨_ :: upper, .child nth entered reached, List.cons_lt_cons_self.mpr before⟩

theorem Reaches.of_all {other : Node → Bool} {root node : Node} {path : List Nat} (reached : Reaches enter root path node)
    (all : ∀ above ∈ node :: root.ancestors path, other above = true) : Reaches other root path node := by
  induction reached with
  | here => exact .here
  | @child root child target index path nth entered rest ih =>
    rw [ancestors_cons nth, List.forall_mem_cons, List.forall_mem_cons] at all
    obtain ⟨last, -, inner⟩ := all
    refine .child nth ?_ (ih (List.forall_mem_cons.mpr ⟨last, inner⟩))
    cases path with
    | nil =>
      cases rest
      exact last
    | cons => exact inner child List.mem_cons_self

section Membership

theorem mem_preorderOfAll {nodes : List Node} {index : Nat} {spot : Spot} :
    spot ∈ preorderOfAll enter index nodes ↔ ∃ offset child inner, nodes[offset]? = some child ∧
      enter child = true ∧ inner ∈ child.preorder enter ∧ spot = inner.under (index + offset) := by
  induction nodes generalizing index with
  | nil => simp [preorderOfAll]
  | cons node rest ih =>
    rw [preorderOfAll, List.mem_append, ih]
    constructor
    · rintro (first | ⟨offset, child, inner, nth, entered, member, rfl⟩)
      · split at first
        · obtain ⟨inner, member, rfl⟩ := List.mem_map.mp first
          exact ⟨0, node, inner, rfl, by assumption, member, rfl⟩
        · simp at first
      · exact ⟨offset + 1, child, inner, nth, entered, member, by rw [Nat.add_right_comm, Nat.add_assoc]⟩
    · rintro ⟨offset, child, inner, nth, entered, member, rfl⟩
      cases offset with
      | zero =>
        obtain rfl : node = child := by simpa using nth
        rw [if_pos entered]
        exact .inl (List.mem_map_of_mem member)
      | succ offset =>
        exact .inr ⟨offset, child, inner, nth, entered, member, by rw [Nat.add_right_comm, Nat.add_assoc]⟩

theorem mem_preorder {root : Node} {spot : Spot} :
    spot ∈ root.preorder enter ↔ Reaches enter root spot.path spot.node := by
  induction root using Node.induction generalizing spot with
  | step root ih =>
    rw [preorder_eq, List.mem_cons, mem_preorderOfAll]
    constructor
    · rintro (rfl | ⟨index, child, inner, nth, entered, member, rfl⟩)
      · exact .here
      · rw [Nat.zero_add]
        exact .child nth entered ((ih child (List.mem_of_getElem? nth)).mp member)
    · obtain ⟨path, node⟩ := spot
      rintro (here | @⟨_, child, _, index, path, nth, entered, rest⟩)
      · exact .inl rfl
      · refine .inr ⟨index, child, ⟨path, node⟩, nth, entered, ?_, by rw [Nat.zero_add]; rfl⟩
        exact (ih child (List.mem_of_getElem? nth)).mpr rest

end Membership

section Order

private theorem pairwise_preorderOfAll {nodes : List Node} (index : Nat)
    (each : ∀ node ∈ nodes, (node.preorder enter).Pairwise Spot.Before) :
    (preorderOfAll enter index nodes).Pairwise Spot.Before := by
  induction nodes generalizing index with
  | nil => exact .nil
  | cons node rest ih =>
    rw [List.forall_mem_cons] at each
    rw [preorderOfAll]
    refine List.pairwise_append.mpr ⟨?_, ih (index + 1) each.2, ?_⟩
    · split
      · exact List.pairwise_map.mpr (each.1.imp fun before => List.cons_lt_cons_self.mpr before)
      · exact .nil
    · intro first inFirst second inSecond
      obtain ⟨offset, child, inner, -, -, -, rfl⟩ := mem_preorderOfAll.mp inSecond
      split at inFirst
      · obtain ⟨other, -, rfl⟩ := List.mem_map.mp inFirst
        exact List.Lex.rel (by omega)
      · simp at inFirst

theorem pairwise_preorder (enter : Node → Bool) (root : Node) : (root.preorder enter).Pairwise Spot.Before := by
  induction root using Node.induction with
  | step root ih =>
    rw [preorder_eq]
    refine List.pairwise_cons.mpr ⟨fun spot member => ?_, pairwise_preorderOfAll 0 ih⟩
    obtain ⟨offset, child, inner, -, -, -, rfl⟩ := mem_preorderOfAll.mp member
    exact List.nil_lt_cons _ _

end Order

section Searching
variable {wanted : Node → Bool}

theorem findFirst?_eq (root : Node) :
    root.findFirst? enter wanted = if wanted root then some root else findFirstIn? enter wanted root.children := by
  cases root
  rfl

private theorem findFirstIn?_eq_find? {nodes : List Node} (index : Nat)
    (each : ∀ node ∈ nodes, node.findFirst? enter wanted =
      ((node.preorder enter).find? (wanted ·.node)).map (·.node)) :
    findFirstIn? enter wanted nodes = ((preorderOfAll enter index nodes).find? (wanted ·.node)).map (·.node) := by
  induction nodes generalizing index with
  | nil => rfl
  | cons node rest ih =>
    rw [List.forall_mem_cons] at each
    rw [findFirstIn?, preorderOfAll, List.find?_append, ih (index + 1) each.2, each.1]
    have moved : (fun spot => wanted spot.node) ∘ Spot.under index = fun spot => wanted spot.node := rfl
    split
    · rw [List.find?_map, moved]
      cases (node.preorder enter).find? (wanted ·.node) <;> rfl
    · rfl

/-- The search that goes down one child after the other stops where the listing has its first
wanted node. -/
theorem findFirst?_eq_find? (root : Node) :
    root.findFirst? enter wanted = ((root.preorder enter).find? (wanted ·.node)).map (·.node) := by
  induction root using Node.induction with
  | step root ih =>
    rw [findFirst?_eq, preorder_eq, List.find?_cons, findFirstIn?_eq_find? 0 ih]
    cases wanted root <;> rfl

end Searching

end Node

end SourceAtlas.Syntax
