import SourceAtlas.Proofs.Offenders
import SourceAtlas.Proofs.TreeParts

/-! The nodes that a tree leaves. What holds of all trees of a parse is handed on to them: sizes and blanks that are added
up on the way through a tree come to the measure of the text in front of each node, and nodes are listed in the order in
which they stand in the text. -/
namespace SourceAtlas.Syntax

theorem Length.toPosition_le_add (first second : Length) : first.toPosition ≤ (first + second).toPosition := by
  rw [Position.le_def]
  simp only [toPosition, row_add, column_add]
  split <;> omega

theorem Source.toPosition_le (source : Source) {place later : Nat} (le : place ≤ later) :
    (source.between 0 place).toPosition ≤ (source.between 0 later).toPosition := by
  rw [← source.between_add (Nat.zero_le place) le]
  exact Length.toPosition_le_add ..

namespace Node

/-- Something holds of a node and of all nodes below it. -/
inductive Throughout (holds : Node → Prop) : Node → Prop
  | mk {node : Node} (here : holds node) (below : ∀ child ∈ node.children, Throughout holds child) : Throughout holds node

variable {holds : Node → Prop} {enter : Node → Bool} {root node : Node}

theorem Throughout.here (all : node.Throughout holds) : holds node := by
  cases all with
  | mk here below => exact here

theorem Throughout.child (all : node.Throughout holds) {child : Node} (member : child ∈ node.children) :
    child.Throughout holds := by
  cases all with
  | mk here below => exact below child member

theorem Throughout.reached {path : List Nat} (all : root.Throughout holds) (reached : Reaches enter root path node) :
    node.Throughout holds := by
  induction reached with
  | here => exact all
  | child nth entered rest ih => exact ih (all.child (List.mem_of_getElem? nth))

section Order
variable {source : Source} {start middle stop : Nat} {nodes others : List Node}

/-- Nodes between two places, one behind the other. -/
structure Spread (start stop : Nat) (nodes : List Node) : Prop where
  between : ∀ node ∈ nodes, start ≤ node.start ∧ node.stop ≤ stop
  apart : nodes.Pairwise (·.stop ≤ ·.start)

/-- A node has its place in a text. It is measured as the text in front of it, and its children stand in it. -/
structure Stands (source : Source) (node : Node) : Prop where
  order : node.start ≤ node.stop
  inside : node.stop ≤ source.size
  position : node.position = source.between 0 node.start
  children : Spread node.start node.stop node.children

theorem Spread.nil : Spread start stop [] :=
  ⟨by simp, .nil⟩

theorem Spread.append (first : Spread start middle nodes) (second : Spread middle stop others) (low : start ≤ middle)
    (high : middle ≤ stop) : Spread start stop (nodes ++ others) where
  between node member := by
    rcases List.mem_append.mp member with here | later
    · exact ⟨(first.between node here).1, Nat.le_trans (first.between node here).2 high⟩
    · exact ⟨Nat.le_trans low (second.between node later).1, (second.between node later).2⟩
  apart := List.pairwise_append.mpr ⟨first.apart, second.apart, fun node here other later =>
    Nat.le_trans (first.between node here).2 (second.between other later).1⟩

theorem Spread.below {lower : Nat} (spread : Spread start stop nodes) (le : lower ≤ start) : Spread lower stop nodes :=
  ⟨fun node member => (spread.between node member).imp_left (Nat.le_trans le), spread.apart⟩

variable (all : root.Throughout (Stands source))
include all

theorem Throughout.between {path : List Nat} (reached : Reaches enter root path node) :
    root.start ≤ node.start ∧ node.stop ≤ root.stop := by
  induction reached with
  | here => exact ⟨Nat.le_refl _, Nat.le_refl _⟩
  | child nth _ _ ih =>
    have member := List.mem_of_getElem? nth
    obtain ⟨low, high⟩ := all.here.children.between _ member
    obtain ⟨later, earlier⟩ := ih (all.child member)
    exact ⟨Nat.le_trans low later, Nat.le_trans earlier high⟩

theorem Throughout.start_le {path later : List Nat} {other : Node} (reached : Reaches enter root path node)
    (too : Reaches enter root later other) (before : path < later) : node.start ≤ other.start := by
  induction reached generalizing later with
  | here => exact (all.between too).1
  | @child root child node index path nth _ rest ih =>
    have member := List.mem_of_getElem? nth
    cases too with
    | here => exact absurd before (List.not_lt_nil _)
    | @child _ sibling _ number later nth' _ rest' =>
      rcases List.cons_lt_cons_iff.mp before with lower | ⟨rfl, further⟩
      · have beyond : child.stop ≤ sibling.start := by
          obtain ⟨bound, rfl⟩ := List.getElem?_eq_some_iff.mp nth
          obtain ⟨bound', rfl⟩ := List.getElem?_eq_some_iff.mp nth'
          exact List.pairwise_iff_getElem.mp all.here.children.apart _ _ bound bound' lower
        have order := ((all.child member).reached rest).here.order
        have inner := ((all.child member).between rest).2
        have outer := ((all.child (List.mem_of_getElem? nth')).between rest').1
        omega
      · obtain rfl : child = sibling := Option.some.inj (nth.symm.trans nth')
        exact ih (all.child member) rest' further

theorem Throughout.ascends : root.Ascends := by
  intro first second reached too before
  rw [(all.reached reached).here.position, (all.reached too).here.position]
  exact source.toPosition_le (all.start_le reached too before)

end Order

theorem reached_of_offender? {rejected : List String} (found : root.offender? rejected = some node) :
    ∃ path, Reaches everywhere root path node := by
  have first {enter wanted : Node → Bool} (found : root.findFirst? enter wanted = some node) :
      ∃ path, Reaches everywhere root path node := by
    obtain ⟨spot, first, rfl⟩ := findFirst?_eq_some_iff.mp found
    exact ⟨spot.path, first.reached.mono fun _ _ => rfl⟩
  unfold offender? at found
  split at found
  · obtain same := Option.some.inj found
    cases error : root.firstError? with
    | none =>
      rw [error] at same
      exact ⟨[], same ▸ .here⟩
    | some other =>
      obtain rfl : other = node := by rwa [error] at same
      exact first error
  · exact first found

end Node

namespace Tree
variable {σ : Type} (language : Language σ) (source : Source)

mutual

/-- The visible nodes that a tree leaves, each measured by the text in front of it. -/
def nodesIn (renamed : Option Appearance) : Tree σ → List Node
  | .mk facts children =>
    let shown := renamed.getD (appearance language facts)
    if shown.visible then
      [{ kind := shown.name
         named := shown.named
         start := facts.start
         stop := facts.stop
         position := source.between 0 facts.start
         isError := facts.label = .error
         isMissing := facts.missing
         hasError := 0 < (Tree.mk facts children).cost
         children := allNodesIn facts.aliases children }]
    else allNodesIn facts.aliases children

def allNodesIn : List (Option Appearance) → List (Tree σ) → List Node
  | _, [] => []
  | aliases, tree :: rest =>
    if tree.extra then nodesIn none tree ++ allNodesIn aliases rest
    else nodesIn aliases.head?.join tree ++ allNodesIn aliases.tail rest

end

variable {language source}

theorem allNodesIn_extra {aliases : List (Option Appearance)} {tree : Tree σ} {rest : List (Tree σ)}
    (aside : tree.extra = true) :
    allNodesIn language source aliases (tree :: rest) =
      nodesIn language source none tree ++ allNodesIn language source aliases rest := by
  rw [allNodesIn, if_pos aside]

theorem allNodesIn_part {aliases : List (Option Appearance)} {tree : Tree σ} {rest : List (Tree σ)}
    (plain : tree.extra = false) :
    allNodesIn language source aliases (tree :: rest) =
      nodesIn language source aliases.head?.join tree ++ allNodesIn language source aliases.tail rest := by
  rw [allNodesIn, if_neg (by simp [plain])]

section Measures

/-- Along trees side by side: where each of them is known to leave its nodes, all of them do. -/
theorem nodesOfAll_eq {place stop : Nat} {trees : List (Tree σ)} (chain : Chain place trees stop)
    (measured : ∀ tree ∈ trees, Measured source tree)
    (each : ∀ tree ∈ trees, ∀ renamed others, nodes language (source.between 0 tree.facts.start) renamed tree others =
      nodesIn language source renamed tree ++ others)
    {position : Length} (first : ∀ tree ∈ trees.head?, position = source.between 0 tree.facts.start)
    (aliases : List (Option Appearance)) (others : List Node) :
    nodesOfAll language position aliases trees others = allNodesIn language source aliases trees ++ others := by
  induction chain generalizing position aliases with
  | nil => rfl
  | @cons place stop tree trees origin rest ih =>
    obtain ⟨own, later⟩ := List.forall_mem_cons.mp measured
    obtain ⟨here, behind⟩ := List.forall_mem_cons.mp each
    obtain rfl := first tree rfl
    -- The next tree begins where this one stops.
    have next : ∀ other ∈ trees.head?, source.between 0 tree.facts.start + tree.facts.size +
        (trees.head?.map (·.facts.padding)).getD 0 = source.between 0 other.facts.start := by
      intro other known
      have measures := (later other (List.mem_of_mem_head? known)).measures
      have starts := measures.origin
      rw [rest.head known] at starts
      rw [Option.mem_def.mp known, Option.map_some, Option.getD_some, own.measures.size, measures.padding,
        rest.head known, source.between_add (Nat.zero_le _) own.measures.start,
        source.between_add (Nat.zero_le _) starts]
    unfold nodesOfAll allNodesIn
    dsimp only
    split
    · rw [ih later behind next, here, List.append_assoc]
    · rw [ih later behind next, here, List.append_assoc]

theorem nodes_eq {tree : Tree σ} (measured : Measured source tree) (renamed : Option Appearance) (others : List Node) :
    nodes language (source.between 0 tree.facts.start) renamed tree others =
      nodesIn language source renamed tree ++ others := by
  induction measured generalizing renamed others with
  | @mk facts children measures first chain overt each ih =>
    have below (others : List Node) : nodesOfAll language (source.between 0 facts.start) facts.aliases children others =
        allNodesIn language source facts.aliases children ++ others := by
      cases children with
      | nil => rfl
      | cons child children =>
        exact nodesOfAll_eq (chain (List.cons_ne_nil _ _)) each ih (fun tree known => by rw [← first tree known]) _ _
    change nodes language (source.between 0 facts.start) renamed (.mk facts children) others = _
    unfold nodes nodesIn
    dsimp only
    split
    · rw [below, List.append_nil]
      rfl
    · exact below others

/-- What is added up along a tree from the start of the text comes to the measure of the text in front of each node. -/
theorem toNode_eq {tree : Tree σ} (measured : Measured source tree) (whole : tree.facts.origin = 0) :
    tree.toNode language = (nodesIn language source none tree).headD default := by
  have start : tree.facts.padding = source.between 0 tree.facts.start := by rw [measured.measures.padding, whole]
  rw [toNode, start, nodes_eq measured, List.append_nil]

end Measures

def Renames (aliases : List (Option Appearance)) (trees : List (Tree σ)) (tree : Tree σ) (shown : Appearance) : Prop :=
  ∃ index : Nat, (constituents trees)[index]? = some tree ∧ aliases[index]?.join = some shown

theorem exists_of_mem_allNodesIn {aliases : List (Option Appearance)} {trees : List (Tree σ)} {node : Node}
    (member : node ∈ allNodesIn language source aliases trees) :
    ∃ tree ∈ trees, ∃ renamed, node ∈ nodesIn language source renamed tree ∧
      ∀ shown ∈ renamed, Renames aliases trees tree shown := by
  induction trees generalizing aliases with
  | nil => cases member
  | cons tree rest ih =>
    cases aside : tree.extra with
    | true =>
      rw [allNodesIn_extra aside] at member
      simp only [Renames, constituents_extra aside]
      rcases List.mem_append.mp member with here | later
      · exact ⟨tree, List.mem_cons_self, none, here, nofun⟩
      · obtain ⟨other, member, renamed, found, names⟩ := ih later
        exact ⟨other, List.mem_cons_of_mem _ member, renamed, found, names⟩
    | false =>
      rw [allNodesIn_part aside] at member
      simp only [Renames, constituents_part aside]
      rcases List.mem_append.mp member with here | later
      · refine ⟨tree, List.mem_cons_self, _, here, fun shown known => ⟨0, rfl, ?_⟩⟩
        rw [← List.head?_eq_getElem?]
        exact known
      · obtain ⟨other, member, renamed, found, names⟩ := ih later
        refine ⟨other, List.mem_cons_of_mem _ member, renamed, found, fun shown known => ?_⟩
        obtain ⟨index, nth, name⟩ := names shown known
        exact ⟨index + 1, nth, by rwa [List.getElem?_tail] at name⟩

def shownAs (language : Language σ) (source : Source) (shown : Appearance) : Tree σ → Node
  | .mk facts children =>
    { kind := shown.name
      named := shown.named
      start := facts.start
      stop := facts.stop
      position := source.between 0 facts.start
      isError := facts.label = .error
      isMissing := facts.missing
      hasError := 0 < (Tree.mk facts children).cost
      children := allNodesIn language source facts.aliases children }

section Shown
variable (tree : Tree σ) (shown : Appearance)

@[simp] theorem kind_shownAs : (tree.shownAs language source shown).kind = shown.name := by cases tree; rfl

@[simp] theorem named_shownAs : (tree.shownAs language source shown).named = shown.named := by cases tree; rfl

@[simp] theorem start_shownAs : (tree.shownAs language source shown).start = tree.facts.start := by cases tree; rfl

@[simp] theorem stop_shownAs : (tree.shownAs language source shown).stop = tree.facts.stop := by cases tree; rfl

@[simp] theorem hasError_shownAs : (tree.shownAs language source shown).hasError = decide (0 < tree.cost) := by
  cases tree
  rfl

@[simp] theorem children_shownAs :
    (tree.shownAs language source shown).children = allNodesIn language source tree.facts.aliases tree.children := by
  cases tree
  rfl

end Shown

theorem nodesIn_visible {renamed : Option Appearance} {tree : Tree σ}
    (visible : (renamed.getD (appearance language tree.facts)).visible = true) :
    nodesIn language source renamed tree =
      [tree.shownAs language source (renamed.getD (appearance language tree.facts))] := by
  cases tree with
  | mk facts children =>
    unfold nodesIn
    exact if_pos visible

theorem nodesIn_hidden {renamed : Option Appearance} {tree : Tree σ}
    (hidden : (renamed.getD (appearance language tree.facts)).visible = false) :
    nodesIn language source renamed tree = allNodesIn language source tree.facts.aliases tree.children := by
  cases tree with
  | mk facts children =>
    unfold nodesIn
    exact if_neg (Bool.eq_false_iff.mp hidden)

theorem mem_allNodesIn {aliases : List (Option Appearance)} {children : List (Tree σ)} {index : Nat} {child : Tree σ}
    {node : Node} (nth : (constituents children)[index]? = some child) (same : aliases[index]?.join = none)
    (member : node ∈ nodesIn language source none child) : node ∈ allNodesIn language source aliases children := by
  induction children generalizing aliases index with
  | nil => simp [constituents] at nth
  | cons tree children ih =>
    cases aside : tree.extra with
    | true =>
      rw [constituents_extra aside] at nth
      rw [allNodesIn_extra aside]
      exact List.mem_append_right _ (ih nth same)
    | false =>
      rw [constituents_part aside] at nth
      rw [allNodesIn_part aside]
      cases index with
      | zero =>
        obtain rfl := Option.some.inj nth
        have unnamed : aliases.head?.join = none := by rwa [List.head?_eq_getElem?]
        exact List.mem_append_left _ (unnamed ▸ member)
      | succ index =>
        have later : aliases.tail[index]?.join = none := by rwa [List.getElem?_tail]
        exact List.mem_append_right _ (ih nth later)

end Tree

section Stands
variable {σ : Type} {language : Language σ} {source : Source} {tree : Tree σ}

theorem spread_allNodesIn {place stop start : Nat} {trees : List (Tree σ)} (chain : Chain place trees stop)
    (measured : ∀ tree ∈ trees, Measured source tree) (each : ∀ tree ∈ trees, ∀ renamed,
      Node.Spread tree.facts.start tree.facts.stop (Tree.nodesIn language source renamed tree))
    (first : ∀ tree ∈ trees.head?, start ≤ tree.facts.start) (aliases : List (Option Appearance)) :
    Node.Spread start stop (Tree.allNodesIn language source aliases trees) := by
  induction chain generalizing start aliases with
  | nil => exact .nil
  | @cons place stop tree trees origin rest ih =>
    obtain ⟨own, later⟩ := List.forall_mem_cons.mp measured
    obtain ⟨here, behind⟩ := List.forall_mem_cons.mp each
    have low : start ≤ tree.facts.start := first tree rfl
    have next : ∀ other ∈ trees.head?, tree.facts.stop ≤ other.facts.start := by
      intro other known
      rw [← rest.head known]
      exact (later other (List.mem_of_mem_head? known)).measures.origin
    have joined (renamed : Option Appearance) (aliases : List (Option Appearance)) : Node.Spread start stop
        (Tree.nodesIn language source renamed tree ++ Tree.allNodesIn language source aliases trees) :=
      ((here renamed).below low).append (ih later behind next aliases) (Nat.le_trans low own.measures.start)
        (rest.le later)
    cases aside : tree.extra with
    | true =>
      rw [Tree.allNodesIn_extra aside]
      exact joined none aliases
    | false =>
      rw [Tree.allNodesIn_part aside]
      exact joined _ aliases.tail

theorem Measured.spread (measured : Measured source tree) : (∀ renamed,
    Node.Spread tree.facts.start tree.facts.stop (Tree.nodesIn language source renamed tree)) ∧
    Node.Spread tree.facts.start tree.facts.stop (Tree.allNodesIn language source tree.facts.aliases tree.children) := by
  induction measured with
  | @mk facts children measures first chain overt each ih =>
    have below : Node.Spread facts.start facts.stop (Tree.allNodesIn language source facts.aliases children) := by
      cases children with
      | nil => exact .nil
      | cons child children =>
        exact spread_allNodesIn (chain (List.cons_ne_nil _ _)) each (fun tree member => (ih tree member).1)
          (fun tree known => Nat.le_of_eq (first tree known)) _
    refine ⟨fun renamed => ?_, below⟩
    change Node.Spread facts.start facts.stop (Tree.nodesIn language source renamed (.mk facts children))
    unfold Tree.nodesIn
    dsimp only
    split
    · exact ⟨by simp, List.pairwise_singleton ..⟩
    · exact below

theorem Measured.nodesIn (measured : Measured source tree) {renamed : Option Appearance} {node : Node}
    (member : node ∈ Tree.nodesIn language source renamed tree) : node.Throughout (Node.Stands source) := by
  induction measured generalizing renamed node with
  | @mk facts children measures first chain overt each ih =>
    have below {node : Node} (member : node ∈ Tree.allNodesIn language source facts.aliases children) :
        node.Throughout (Node.Stands source) := by
      obtain ⟨child, inside, renamed, found, -⟩ := Tree.exists_of_mem_allNodesIn member
      exact ih child inside found
    have spread : Node.Spread facts.start facts.stop (Tree.allNodesIn language source facts.aliases children) :=
      (Measured.mk measures first chain overt each).spread.2
    unfold Tree.nodesIn at member
    dsimp only at member
    split at member
    · obtain rfl := List.mem_singleton.mp member
      exact .mk ⟨measures.start, measures.stop, rfl, spread⟩ fun child inside => below inside
    · exact below member

/-- Every node of a tree over a text has its place in the text. -/
theorem Measured.toNode (measured : Measured source tree) (whole : tree.facts.origin = 0) :
    (tree.toNode language).Throughout (Node.Stands source) := by
  rw [Tree.toNode_eq measured whole]
  cases shown : Tree.nodesIn language source none tree with
  | nil =>
    exact .mk ⟨Nat.le_refl _, Nat.zero_le _, (source.between_self 0).symm, .nil⟩ fun _ member =>
      absurd member List.not_mem_nil
  | cons node rest => exact measured.nodesIn (shown ▸ List.mem_cons_self)

theorem Measured.of_checked (measured : Measured source tree) (whole : tree.facts.origin = 0) {rejected : List String}
    {position : Position} (failed : (tree.toNode language).checked rejected = .error position) :
    ∃ node, (tree.toNode language).offender? rejected = some node ∧ position = node.position.toPosition ∧
      node.Stands source := by
  unfold Node.checked at failed
  split at failed
  · rename_i node found
    obtain rfl := Except.error.inj failed
    obtain ⟨path, reached⟩ := Node.reached_of_offender? found
    exact ⟨node, found, rfl, ((measured.toNode whole).reached reached).here⟩
  · cases failed

end Stands

section Flags
variable {σ : Type} {language : Language σ} {source : Source} {tree : Tree σ}

/-- With all of the way to a fault flagged, the tree that leaves the node has a cost. -/
def Tree.FlagsIn (tree : Tree σ) (node : Node) : Prop :=
  ∀ path fault, Node.Reaches Node.everywhere node path fault → fault.isFault = true →
    (∀ above ∈ node.ancestors path, above.isError = false) →
    0 < tree.cost ∧ ∀ above ∈ fault :: node.ancestors path, above.hasError = true

theorem Tree.Renames.plain {aliases : List (Option Appearance)} {trees : List (Tree σ)} {shown : Appearance}
    (renames : Tree.Renames aliases trees tree shown) : tree.extra = false := by
  obtain ⟨index, nth, -⟩ := renames
  simpa using (List.mem_filter.mp (List.mem_of_getElem? nth)).2

/-- An error is never shown under another name, as those are given to parts of a rule only. -/
theorem Measured.flagsIn (measured : Measured source tree) (seen : tree.label ≠ .gathered) {renamed : Option Appearance}
    (error : tree.label = .error → renamed = none ∧ 0 < tree.cost) {node : Node}
    (member : node ∈ Tree.nodesIn language source renamed tree) : tree.FlagsIn node := by
  induction measured generalizing renamed node with
  | @mk facts children measures first chain overt each ih =>
    have below (plain : facts.label ≠ .error) {node : Node}
        (member : node ∈ Tree.allNodesIn language source facts.aliases children) :
        (Tree.mk facts children).FlagsIn node := by
      obtain ⟨child, inside, renamed, found, names⟩ := Tree.exists_of_mem_allNodesIn member
      have rule : facts.label.isError = false := by
        cases known : facts.label with
        | symbol => rfl
        | error => exact absurd known plain
        | gathered => exact absurd known seen
      obtain ⟨shows, costs⟩ := overt rule child inside
      have own : child.FlagsIn node := by
        refine ih child inside shows.seen (fun label => ⟨?_, (shows.error label).2⟩) found
        cases renamed with
        | none => rfl
        | some shown =>
          have part := Tree.Renames.plain (names shown rfl)
          rw [(shows.error label).1] at part
          cases part
      exact fun path fault reached is clear => (own path fault reached is clear).imp_left costs
    unfold Tree.nodesIn at member
    dsimp only at member
    split at member
    · obtain rfl := List.mem_singleton.mp member
      intro path fault reached is clear
      cases reached with
      | here =>
        have costs : 0 < (Tree.mk facts children).cost := by
          rcases Bool.or_eq_true_iff.mp is with isError | isMissing
          · exact (error (of_decide_eq_true isError)).2
          · have missing : facts.missing = true := isMissing
            rw [Tree.cost, Tree.facts, if_pos missing]
            decide
        exact ⟨costs, by simpa [Node.ancestors] using costs⟩
      | @child _ child _ index path nth _ rest =>
        simp only [Node.ancestors, nth, Option.map_some, Option.getD_some, List.forall_mem_cons] at clear ⊢
        have inner := below (of_decide_eq_false clear.1) (List.mem_of_getElem? nth) path fault rest is clear.2
        exact ⟨inner.1, inner.2 fault List.mem_cons_self, decide_eq_true inner.1,
          fun above member => inner.2 above (List.mem_cons_of_mem _ member)⟩
    · rename_i hidden
      refine below (fun label => hidden ?_) member
      rw [(error label).1, Option.getD_none, Tree.appearance, label]

theorem Measured.flagged (measured : Measured source tree) (whole : tree.facts.origin = 0)
    (seen : tree.label ≠ .gathered) (error : tree.label = .error → 0 < tree.cost) :
    (tree.toNode language).Flagged := by
  rw [Tree.toNode_eq measured whole]
  cases shown : Tree.nodesIn language source none tree with
  | nil =>
    intro path fault reached is
    cases reached with
    | here => cases is
    | child nth => cases nth
  | cons node rest =>
    intro path fault reached is clear
    exact (measured.flagsIn seen (fun label => ⟨rfl, error label⟩) (shown ▸ List.mem_cons_self) path fault reached is
      clear).2

end Flags

end SourceAtlas.Syntax
