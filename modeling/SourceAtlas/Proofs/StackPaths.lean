import SourceAtlas.Proofs.RegularStack
import Mathlib.Data.List.SplitBy

/-! Popping: every path that is taken down a regular stack is a climb, and each node that a path ends on
gets one new reading, in the order of the slices. -/
namespace SourceAtlas.Syntax.Stack
variable {σ : Type}

section Walks
variable {α : Type} {stack : Stack σ} {decide : α → Path σ → α × Verdict} {Good Taken : Path σ → Prop}

/-- What holds of a path holds of those that continue it, and gives what is wanted of those taken. -/
structure Follows (stack : Stack σ) (decide : α → Path σ → α × Verdict) (Good Taken : Path σ → Prop) : Prop where
  descend : ∀ {acc : α} {path : Path σ}, Good path → (decide acc path).2 = .descend →
    ∀ next ∈ stack.pathsBelow path, Good next
  take : ∀ {acc : α} {path : Path σ}, Good path → (decide acc path).2 = .take → Taken path

theorem Follows.walkRound (follows : Follows stack decide Good Taken) {paths kept added taken : List (Path σ)} {acc : α}
    (good : ∀ path ∈ paths, Good path) (goodKept : ∀ path ∈ kept, Good path) (goodAdded : ∀ path ∈ added, Good path)
    (all : ∀ path ∈ taken, Taken path) :
    (∀ path ∈ (stack.walkRound decide paths acc kept added taken).2.1, Good path) ∧
      ∀ path ∈ (stack.walkRound decide paths acc kept added taken).2.2, Taken path := by
  induction paths generalizing acc kept added taken with
  | nil =>
    refine ⟨fun path member => ?_, all⟩
    rcases List.mem_append.mp member with old | new
    · exact goodKept path (List.mem_reverse.mp old)
    · exact goodAdded path new
  | cons path paths ih =>
    obtain ⟨here, later⟩ := List.forall_mem_cons.mp good
    unfold Stack.walkRound
    split
    · rename_i next verdict
      refine ih later goodKept goodAdded fun other member => ?_
      rcases List.mem_append.mp member with old | new
      · exact all other old
      · rw [List.mem_singleton.mp new]
        exact follows.take here (congrArg Prod.snd verdict)
    · exact ih later goodKept goodAdded all
    · rename_i next verdict
      have lower := follows.descend here (congrArg Prod.snd verdict)
      split
      · exact ih later goodKept goodAdded all
      · rename_i first others paths
        rw [paths] at lower
        obtain ⟨lowerFirst, lowerOthers⟩ := List.forall_mem_cons.mp lower
        refine ih later (List.forall_mem_cons.mpr ⟨lowerFirst, goodKept⟩) (fun other member => ?_) all
        rcases List.mem_append.mp member with old | new
        · exact goodAdded other old
        · exact lowerOthers other (List.mem_of_mem_take new)

theorem Follows.walk (follows : Follows stack decide Good Taken) {fuel : Nat} {paths taken : List (Path σ)} {acc : α}
    (good : ∀ path ∈ paths, Good path) (all : ∀ path ∈ taken, Taken path) :
    ∀ path ∈ (stack.walk decide fuel paths acc taken).2, Taken path := by
  induction fuel generalizing paths taken acc with
  | zero => exact all
  | succ fuel ih =>
    cases paths with
    | nil => exact all
    | cons path paths =>
      obtain ⟨goodNext, allNext⟩ := follows.walkRound good (List.forall_mem_nil _) (List.forall_mem_nil _) all
      exact ih goodNext allNext

end Walks

section Slices
variable {Taken : Path σ → Prop} {base heads : Array (Head σ)} {slices : List (Slice σ)}

/-- New readings behind those of `base`, each on the node at the end of some paths, and these in order. -/
structure Sliced (base : Array (Head σ)) (Taken : Path σ → Prop) (heads : Array (Head σ)) (slices : List (Slice σ)) :
    Prop where
  count : base.size ≤ heads.size
  kept : ∀ version < base.size, heads.getD version default = base.getD version default
  active : ∀ version, base.size ≤ version → version < heads.size → (heads.getD version default).status = .active
  cover : ∀ version, base.size ≤ version → version < heads.size → ∃ slice ∈ slices, slice.head = version
  range : ∀ slice ∈ slices, base.size ≤ slice.head ∧ slice.head < heads.size
  sorted : slices.Pairwise fun first second => first.head ≤ second.head
  taken : ∀ slice ∈ slices, ∃ path, Taken path ∧ (heads.getD slice.head default).node = path.node ∧
    slice.trees = path.trees

private theorem split_therelast {same : Slice σ → Bool} {found : Slice σ}
    (last : slices.reverse.find? same = some found) :
    ∃ before after, slices = before ++ found :: after ∧
      slices.length - (slices.reverse.takeWhile (!same ·)).length = before.length + 1 := by
  obtain ⟨hit, before, after, whole, missed⟩ := List.find?_eq_some_iff_append.mp last
  have slices_eq : slices = after.reverse ++ found :: before.reverse := by
    have reversed := congrArg List.reverse whole
    simpa using reversed
  have run : slices.reverse.takeWhile (!same ·) = before := by
    rw [whole, List.takeWhile_append_of_pos]
    · simp [hit]
    · simpa using missed
  refine ⟨after.reverse, before.reverse, slices_eq, ?_⟩
  rw [run, slices_eq]
  simp
  omega

theorem Sliced.insert (sliced : Sliced base Taken heads slices) {path : Path σ} (taken : Taken path)
    {same : Slice σ → Bool}
    {found : Slice σ} (last : slices.reverse.find? same = some found)
    (node : (heads.getD found.head default).node = path.node) :
    Sliced base Taken heads
      (slices.take (slices.length - (slices.reverse.takeWhile (!same ·)).length) ++
        ⟨found.head, path.trees⟩ :: slices.drop (slices.length - (slices.reverse.takeWhile (!same ·)).length)) := by
  obtain ⟨before, after, rfl, length⟩ := split_therelast last
  have parts : (before ++ found :: after).take (before.length + 1) ++
      ⟨found.head, path.trees⟩ :: (before ++ found :: after).drop (before.length + 1) =
        before ++ found :: ⟨found.head, path.trees⟩ :: after := by
    rw [List.take_append, List.drop_append, List.take_of_length_le (by omega), List.drop_of_length_le (by omega)]
    simp
  rw [length, parts]
  have there : found ∈ before ++ found :: after := by simp
  have cases : ∀ slice ∈ before ++ found :: ⟨found.head, path.trees⟩ :: after,
      slice ∈ before ++ found :: after ∨ slice = ⟨found.head, path.trees⟩ := by
    intro slice member
    simp only [List.mem_append, List.mem_cons] at member ⊢
    tauto
  refine { sliced with cover := ?_, range := ?_, sorted := ?_, taken := ?_ }
  · intro version low high
    obtain ⟨slice, member, head⟩ := sliced.cover version low high
    refine ⟨slice, ?_, head⟩
    simp only [List.mem_append, List.mem_cons] at member ⊢
    tauto
  · intro slice member
    rcases cases slice member with old | rfl
    · exact sliced.range slice old
    · exact sliced.range found there
  · obtain ⟨lower, upper, across⟩ := List.pairwise_append.mp sliced.sorted
    obtain ⟨later, rest⟩ := List.pairwise_cons.mp upper
    refine List.pairwise_append.mpr ⟨lower, List.pairwise_cons.mpr ⟨?_, List.pairwise_cons.mpr ⟨later, rest⟩⟩, ?_⟩
    · intro slice member
      rcases List.mem_cons.mp member with rfl | member
      · exact Nat.le_refl _
      · exact later slice member
    · intro low lowMember slice member
      rcases List.mem_cons.mp member with rfl | member
      · exact across low lowMember slice List.mem_cons_self
      · rcases List.mem_cons.mp member with rfl | member
        · exact across low lowMember found List.mem_cons_self
        · exact across low lowMember slice (List.mem_cons_of_mem _ member)
  · intro slice member
    rcases cases slice member with old | rfl
    · exact sliced.taken slice old
    · exact ⟨path, taken, node, rfl⟩

theorem Sliced.append (sliced : Sliced base Taken heads slices) {path : Path σ} (taken : Taken path) {head : Head σ}
    (node : head.node = path.node) (active : head.status = .active) :
    Sliced base Taken (heads.push head) (slices ++ [⟨heads.size, path.trees⟩]) := by
  have size : (heads.push head).size = heads.size + 1 := Array.size_push ..
  have old : ∀ version < heads.size, (heads.push head).getD version default = heads.getD version default := by
    intro version bound
    simp only [Array.getD_eq_getD_getElem?, Array.getElem?_push]
    rw [if_neg (by omega)]
  have new : (heads.push head).getD heads.size default = head := by
    simp [Array.getD_eq_getD_getElem?]
  have count := sliced.count
  refine ⟨by omega, ?_, ?_, ?_, ?_, ?_, ?_⟩
  · intro version bound
    rw [old version (by omega), sliced.kept version bound]
  · intro version low high
    by_cases last : version = heads.size
    · rw [last, new, active]
    · rw [old version (by omega)]
      exact sliced.active version low (by omega)
  · intro version low high
    by_cases last : version = heads.size
    · exact ⟨_, List.mem_append_right _ (List.mem_singleton.mpr rfl), last.symm⟩
    · obtain ⟨slice, member, head⟩ := sliced.cover version low (by omega)
      exact ⟨slice, List.mem_append_left _ member, head⟩
  · intro slice member
    rcases List.mem_append.mp member with member | member
    · have range := sliced.range slice member
      omega
    · rw [List.mem_singleton.mp member]
      dsimp only
      omega
  · rw [List.pairwise_append]
    refine ⟨sliced.sorted, List.pairwise_singleton _ _, fun slice member other last => ?_⟩
    rw [List.mem_singleton.mp last]
    exact Nat.le_of_lt (sliced.range slice member).2
  · intro slice member
    rcases List.mem_append.mp member with member | member
    · rw [old slice.head (sliced.range slice member).2]
      exact sliced.taken slice member
    · rw [List.mem_singleton.mp member, new]
      exact ⟨path, taken, node, rfl⟩

theorem Sliced.addSlices (popped : Head σ) {paths : List (Path σ)} (sliced : Sliced base Taken heads slices)
    (taken : ∀ path ∈ paths, Taken path) :
    Sliced base Taken (addSlices popped paths heads slices).1 (addSlices popped paths heads slices).2 := by
  induction paths generalizing heads slices with
  | nil => exact sliced
  | cons path paths ih =>
    obtain ⟨here, later⟩ := List.forall_mem_cons.mp taken
    unfold Stack.addSlices
    dsimp only
    split
    · rename_i found last
      have node := List.find?_some last
      exact ih (sliced.insert here last (beq_iff_eq.mp node)) later
    · exact ih (sliced.append here rfl rfl) later

theorem Sliced.start (base : Array (Head σ)) : Sliced base Taken base [] where
  count := Nat.le_refl _
  kept _ _ := rfl
  active _ _ _ := by omega
  cover _ _ _ := by omega
  range _ member := by cases member
  sorted := List.Pairwise.nil
  taken _ member := by cases member

end Slices

section Groups
variable {groups : List (List (Slice σ))} {base top : Nat}

private theorem head_eq_of_isChain {slice : Slice σ} {slices : List (Slice σ)}
    (chain : (slice :: slices).IsChain fun first second => (first.head == second.head) = true) :
    ∀ other ∈ slice :: slices, other.head = slice.head := by
  induction slices generalizing slice with
  | nil => simp
  | cons second slices ih =>
    rw [List.isChain_cons_cons] at chain
    have same := beq_iff_eq.mp chain.1
    intro other member
    rcases List.mem_cons.mp member with rfl | later
    · rfl
    · rw [ih chain.2 other later, same]

/-- Groups of slices with one head each, which follow the numbers from `base` on. -/
private theorem groups_numbered (least : base ≤ top)
    (sorted : groups.flatten.Pairwise fun first second => first.head ≤ second.head)
    (range : ∀ slice ∈ groups.flatten, base ≤ slice.head ∧ slice.head < top)
    (cover : ∀ version, base ≤ version → version < top → ∃ slice ∈ groups.flatten, slice.head = version)
    (filled : [] ∉ groups)
    (equal : ∀ group ∈ groups, group.IsChain fun first second => (first.head == second.head) = true)
    (breaks : groups.IsChain fun group next => ∃ some one, ((group.getLast some).head == (next.head one).head) = false) :
    base + groups.length = top ∧ ∀ (index : Nat) (group : List (Slice σ)), groups[index]? = some group →
      ∀ slice ∈ group, slice.head = base + index := by
  induction groups generalizing base with
  | nil =>
    refine ⟨Nat.le_antisymm least (Nat.le_of_not_lt fun less => ?_), fun index group known => by cases known⟩
    obtain ⟨slice, member, -⟩ := cover base (Nat.le_refl _) less
    cases member
  | cons group groups ih =>
    rw [List.flatten_cons] at sorted range cover
    obtain ⟨-, sortedRest, across⟩ := List.pairwise_append.mp sorted
    cases group with
    | nil => exact absurd List.mem_cons_self filled
    | cons slice others =>
      have same := head_eq_of_isChain (equal _ List.mem_cons_self)
      have lowest : slice.head = base := by
        obtain ⟨low, high⟩ := range slice (List.mem_append_left _ List.mem_cons_self)
        obtain ⟨other, listed, head⟩ := cover base (Nat.le_refl _) (by omega)
        rcases List.mem_append.mp listed with here | later
        · rw [← same other here, head]
        · have le := across slice List.mem_cons_self other later
          omega
      have later : ∀ other ∈ groups.flatten, base + 1 ≤ other.head := by
        intro other member
        cases groups with
        | nil => cases member
        | cons next groups =>
          obtain ⟨⟨some, one, differ⟩, -⟩ := List.isChain_cons_cons.mp breaks
          cases next with
          | nil => exact absurd rfl one
          | cons first rest =>
            have last := same _ (List.getLast_mem some)
            have least := across slice List.mem_cons_self first (by simp)
            have le : first.head ≤ other.head := by
              rw [List.flatten_cons, List.cons_append] at member sortedRest
              rcases List.mem_cons.mp member with rfl | member
              · exact Nat.le_refl _
              · exact (List.pairwise_cons.mp sortedRest).1 other member
            rw [last, List.head_cons, beq_eq_false_iff_ne] at differ
            omega
      have room : base + 1 ≤ top := by
        have high := (range slice (List.mem_append_left _ List.mem_cons_self)).2
        omega
      obtain ⟨length, numbered⟩ := ih room sortedRest
        (fun other member => ⟨later other member, (range other (List.mem_append_right _ member)).2⟩)
        (fun version low high => by
          obtain ⟨other, member, head⟩ := cover version (by omega) high
          rcases List.mem_append.mp member with here | there
          · have equal := same other here
            omega
          · exact ⟨other, there, head⟩)
        (fun none => filled (List.mem_cons_of_mem _ none))
            (fun other member => equal other (List.mem_cons_of_mem _ member))
        breaks.tail
      refine ⟨by rw [List.length_cons]; omega, fun index other known third member => ?_⟩
      cases index with
      | zero =>
        obtain rfl := Option.some.inj known
        rw [same third member, lowest]
        rfl
      | succ index =>
        have head := numbered index other known third member
        omega

end Groups

section Popping
variable {α : Type} {language : Language σ} {source : Source} {stack popped : Stack σ} {version : Nat}
  {slices : List (Slice σ)}
  {regular : Nat → Prop} {Good Wanted : Path σ → Prop}

theorem Founded.pathsBelow (founded : stack.Founded language source regular) {path : Path σ} {trees : List (Tree σ)}
    {state place : Nat} (known : regular path.node)
    (climb : Climb language source (stack.node path.node).state (stack.node path.node).place trees state place) :
    ∀ next ∈ stack.pathsBelow path, regular next.node ∧ ∃ above,
      next.trees = above ++ path.trees ∧
      Climb language source (stack.node next.node).state (stack.node next.node).place (above ++ trees) state place := by
  intro next member
  obtain ⟨link, listed, rfl⟩ := List.mem_map.mp member
  have below := founded.below known link listed
  have leads := founded.leads known link listed
  cases tree : link.tree with
  | none =>
    rw [tree] at leads
    obtain ⟨error, same⟩ := leads
    rw [error, same] at climb
    exact ⟨below, [], rfl, .mark climb⟩
  | some found =>
    rw [tree] at leads
    exact ⟨below, [found], rfl, .tree leads climb⟩

theorem Follows.pop {decide : α → Path σ → α × Verdict} (acc : α) (follows : Follows stack decide Good Wanted)
    (start : Good ⟨(stack.head version).node, [], 0⟩) : ∃ heads slices,
      stack.pop version decide acc = ({ stack with heads }, slices) ∧ Sliced stack.heads Wanted heads slices := by
  have taken : ∀ path ∈ (stack.walkFrom version decide acc).2, Wanted path := by
    apply follows.walk _ (List.forall_mem_nil _)
    intro path member
    rw [List.mem_singleton.mp member]
    exact start
  exact ⟨_, _, rfl, (Sliced.start stack.heads).addSlices (stack.head version) taken⟩

section Sliced
variable {heads : Array (Head σ)} (sliced : Sliced stack.heads Wanted heads slices)
include sliced

theorem Sliced.footing {other : Nat} (bound : other < stack.heads.size) :
    ({ stack with heads } : Stack σ).footing other = stack.footing other := by
  have head := sliced.kept other bound
  apply footing_congr
  · rfl
  · exact congrArg Head.node head
  · exact congrArg (fun head => head.status.isActive) head

theorem Sliced.carries (founded : stack.Founded language source regular) (ends : ∀ path, Wanted path → regular path.node)
    {other : Nat} (low : stack.heads.size ≤ other) (high : other < heads.size) :
    ({ stack with heads } : Stack σ).Carries source regular (heads.getD other default) := by
  have active := sliced.active other low high
  obtain ⟨slice, member, rfl⟩ := sliced.cover other low high
  obtain ⟨path, wanted, node, -⟩ := sliced.taken slice member
  have known := ends path wanted
  rw [← node] at known
  refine ⟨founded.known known, fun _ => known, fun token paused => ?_⟩
  rw [active] at paused
  cases paused

end Sliced

/-- A pop leaves the readings that were there and adds new ones, from which the slices lead up again. -/
structure Popped (language : Language σ) (source : Source) (stack : Stack σ) (version : Nat) (Wanted : Path σ → Prop)
    (popped : Stack σ) (slices : List (Slice σ)) : Prop where
  regular : popped.Regular language source
  count : stack.heads.size ≤ popped.heads.size
  kept : ∀ other < stack.heads.size, popped.footing other = stack.footing other
  live : ∀ other, stack.heads.size ≤ other → other < popped.heads.size → (popped.footing other).live = true
  cover : ∀ other, stack.heads.size ≤ other → other < popped.heads.size → ∃ slice ∈ slices, slice.head = other
  range : ∀ slice ∈ slices, stack.heads.size ≤ slice.head ∧ slice.head < popped.heads.size
  sorted : slices.Pairwise fun first second => first.head ≤ second.head
  wanted : ∀ slice ∈ slices, ∃ path, Wanted path ∧ slice.trees = path.trees
  climbs : ∀ slice ∈ slices, Climb language source (popped.footing slice.head).state (popped.footing slice.head).place
    slice.trees (stack.footing version).state (stack.footing version).place

theorem Regular.pop (sound : stack.Regular language source) (live : (stack.footing version).live = true)
    {decide : α → Path σ → α × Verdict} (acc : α) (Good : Path σ → Prop) (follows : Follows stack decide Good Wanted)
    (start : Good ⟨(stack.head version).node, [], 0⟩) :
    Popped language source stack version Wanted (stack.pop version decide acc).1 (stack.pop version decide acc).2 := by
  obtain ⟨regular, founded, heads⟩ := sound
  let Climbs : Path σ → Prop := fun path => regular path.node ∧
    Climb language source (stack.node path.node).state (stack.node path.node).place path.trees
      (stack.footing version).state (stack.footing version).place
  have both : Follows stack decide (fun path => Good path ∧ Climbs path) fun path => Wanted path ∧ Climbs path := {
    descend := fun good verdict next member => by
      obtain ⟨known, above, trees, climb⟩ := founded.pathsBelow good.2.1 good.2.2 next member
      rw [← trees] at climb
      exact ⟨follows.descend good.1 verdict next member, known, climb⟩
    take := fun good verdict => ⟨follows.take good.1 verdict, good.2⟩ }
  have top := (founded.carries heads version).regular (Status.isHalted_of_isActive live)
  obtain ⟨added, slices, pop, sliced⟩ := both.pop acc ⟨start, top, .nil⟩
  rw [pop]
  refine ⟨⟨regular, { founded with }, fun head member => ?_⟩, sliced.count, fun other => sliced.footing, ?_,
    sliced.cover, sliced.range, sliced.sorted, ?_, ?_⟩
  · obtain ⟨other, bound, rfl⟩ := Array.mem_iff_getElem.mp member
    have found : added.getD other default = added[other] := by rw [Array.getD, dif_pos bound]; rfl
    rw [← found]
    by_cases old : other < stack.heads.size
    · rw [sliced.kept other old]
      have carried := founded.carries heads other
      exact ⟨carried.known, carried.regular, carried.waiting⟩
    · exact sliced.carries founded (fun path wanted => wanted.2.1) (Nat.not_lt.mp old) bound
  · intro other low high
    have active := sliced.active other low high
    simp only [Stack.footing, Stack.isActive, Stack.head, active]
    rfl
  · intro slice member
    obtain ⟨path, wanted, -, trees⟩ := sliced.taken slice member
    exact ⟨path, wanted.1, trees⟩
  · intro slice member
    obtain ⟨path, ⟨-, -, climb⟩, node, trees⟩ := sliced.taken slice member
    rw [← node, ← trees] at climb
    exact climb

theorem Regular.popCount (sound : stack.Regular language source) (live : (stack.footing version).live = true)
    (count : Nat) :
    Popped language source stack version (fun _ => True) (stack.popCount version count).1
      (stack.popCount version count).2 :=
  sound.pop live () (fun _ => True) ⟨fun _ _ _ _ => trivial, fun _ _ => trivial⟩ trivial

/-- The groups of slices with the same head are as many as the new readings, and in their order. -/
theorem Popped.groups (pop : Popped language source stack version Wanted popped slices) :
    stack.heads.size + (slices.splitBy fun a b => a.head == b.head).length = popped.heads.size ∧
      ∀ (index : Nat) (group : List (Slice σ)), (slices.splitBy fun a b => a.head == b.head)[index]? = some group →
        group ≠ [] ∧ ∀ slice ∈ group, slice ∈ slices ∧ slice.head = stack.heads.size + index := by
  have whole := List.flatten_splitBy (fun a b : Slice σ => a.head == b.head) slices
  have numbered := groups_numbered pop.count (whole.symm ▸ pop.sorted) (whole.symm ▸ pop.range) (whole.symm ▸ pop.cover)
    (List.nil_notMem_splitBy _ _) (fun group member => List.isChain_of_mem_splitBy member)
        (List.isChain_getLast_head_splitBy (fun a b : Slice σ => a.head == b.head) slices)
  refine ⟨numbered.1, fun index group known => ?_⟩
  have member := List.mem_of_getElem? known
  refine ⟨List.ne_nil_of_mem_splitBy member, fun slice listed => ⟨?_, numbered.2 index group known slice listed⟩⟩
  rw [← whole]
  exact List.mem_flatten.mpr ⟨group, member, listed⟩

structure Uncovered (language : Language σ) (source : Source) (stack : Stack σ) (version : Nat) (uncovered : Stack σ)
    (error : Option (Tree σ)) : Prop where
  regular : uncovered.Regular language source
  count : stack.heads.size ≤ uncovered.heads.size
  kept : ∀ other < stack.heads.size, other ≠ version → uncovered.footing other = stack.footing other
  live : (uncovered.footing version).live = true
  unchanged : error = none → uncovered.footing version = stack.footing version
  climbs : ∀ tree, error = some tree → tree.label = .error ∧ Climb language source (uncovered.footing version).state
    (uncovered.footing version).place [tree] (stack.footing version).state (stack.footing version).place

theorem Popped.uncovered {slice : Slice σ} (pop : Popped language source stack version Wanted popped slices)
    (bound : version < stack.heads.size)
    (member : slice ∈ slices) {tree : Tree σ} (only : slice.trees = [tree]) (label : tree.label = .error) :
    Uncovered language source stack version (popped.renumber slice.head version) slice.trees.head? := by
  obtain ⟨low, high⟩ := pop.range slice member
  have before : version < slice.head := by omega
  have own : (popped.renumber slice.head version).footing version = popped.footing slice.head := by
    rw [popped.footing_renumber version before high, if_pos rfl]
  refine ⟨pop.regular.renumber _ _, ?_, fun other known different => ?_, ?_, ?_, ?_⟩
  · rw [popped.size_renumber before high]
    omega
  · rw [popped.footing_renumber other before high, if_neg different, if_pos (by omega), pop.kept other known]
  · rw [own]
    exact pop.live _ low high
  · rw [only]
    exact fun none => by cases none
  · intro found known
    rw [only] at known
    obtain rfl : tree = found := Option.some.inj known
    refine ⟨label, ?_⟩
    rw [own, ← only]
    exact pop.climbs slice member

theorem Regular.popError (sound : stack.Regular language source) (bound : version < stack.heads.size)
    (live : (stack.footing version).live = true) :
    Uncovered language source stack version (stack.popError version).1 (stack.popError version).2 := by
  have same : Uncovered language source stack version stack none :=
    ⟨sound, Nat.le_refl _, fun _ _ _ => rfl, live, fun _ => rfl, fun _ found => by cases found⟩
  unfold Stack.popError
  dsimp only
  split
  · generalize done : stack.pop version _ false = result
    have pop : Popped language source stack version (fun path => ∃ tree, path.trees = [tree] ∧ tree.label = .error)
        result.1 result.2 := by
      rw [← done]
      -- Only a path without a tree is followed further, so the one taken has a single tree.
      refine sound.pop live false (fun path => path.trees = [] ∨ ∃ tree, path.trees = [tree]) ⟨?_, ?_⟩ (.inl rfl)
      · intro found path good verdict next member
        split at verdict
        · rename_i none
          obtain ⟨link, -, rfl⟩ := List.mem_map.mp member
          cases link.tree with
          | none => exact .inl none
          | some tree => exact .inr ⟨tree, by rw [none]⟩
        · split at verdict <;> cases verdict
      · intro found path good verdict
        split at verdict
        · cases verdict
        · rename_i tree rest trees
          split at verdict
          · rename_i isError
            rw [trees] at good
            rcases good with none | ⟨other, only⟩
            · cases none
            · obtain ⟨rfl, rfl⟩ := List.cons.inj only
              exact ⟨tree, trees, beq_iff_eq.mp (Bool.and_eq_true_iff.mp isError).2⟩
          · cases verdict
    obtain ⟨popped, slices⟩ := result
    cases slices with
    | nil =>
      have own := pop.kept version bound
      exact ⟨pop.regular, pop.count, fun other known _ => pop.kept other known, own ▸ live, fun _ => own,
        fun _ found => by cases found⟩
    | cons slice rest =>
      obtain ⟨path, ⟨tree, only, label⟩, trees⟩ := pop.wanted slice List.mem_cons_self
      exact pop.uncovered bound List.mem_cons_self (trees.trans only) label
  · exact same

end Popping

section Ends
variable {language : Language σ} {source : Source} {stack : Stack σ} {version state place : Nat} {tail : List (Tree σ)}

/-- A node above another one, with some trees between them and no other way down. -/
inductive Tops (stack : Stack σ) (base : Nat) : Nat → List (Tree σ) → Prop
  | base : Tops stack base base []
  | above {id below : Nat} {tree : Tree σ} {tail : List (Tree σ)} (known : id < stack.nodes.size)
      (links : (stack.node id).links = [⟨below, some tree⟩]) (lower : Tops stack base below tail) :
      Tops stack base id (tail ++ [tree])

theorem Tops.congr {base id : Nat} (tops : Tops stack base id tail) {changed : Stack σ}
    (nodes : changed.nodes = stack.nodes) :
    Tops changed base id tail := by
  induction tops with
  | base => exact .base
  | above known links lower ih => exact .above (nodes ▸ known) (by rw [Stack.node, nodes]; exact links) ih

/-- Everything is regular, but that one reading has put the end of the text on top of what it has. -/
def Crowned (language : Language σ) (source : Source) (stack : Stack σ) (version state place : Nat)
    (tail : List (Tree σ)) : Prop :=
  ∃ regular base, stack.Founded language source regular ∧ regular base ∧
    ((stack.node base).state = state ∧ (stack.node base).place = place) ∧
    Tops stack base (stack.head version).node tail ∧ (stack.head version).node < stack.nodes.size ∧
    ∀ other, other ≠ version → stack.Carries source regular (stack.head other)

theorem Regular.crowned (sound : stack.Regular language source) (live : (stack.footing version).live = true) :
    Crowned language source stack version (stack.footing version).state (stack.footing version).place [] := by
  obtain ⟨regular, founded, heads⟩ := sound
  have carried := founded.carries heads version
  have top := carried.regular (Status.isHalted_of_isActive live)
  exact ⟨regular, _, founded, top, ⟨rfl, rfl⟩, .base, carried.known, fun other _ => founded.carries heads other⟩

theorem Crowned.push (crowned : Crowned language source stack version state place tail) {tree : Tree σ} (next : Nat)
    (bound : version < stack.heads.size) (inside : tree.facts.stop ≤ source.size) :
    Crowned language source (stack.push version (some tree) next) version state place (tail ++ [tree]) ∧
      ∀ other, other ≠ version → (stack.push version (some tree) next).footing other = stack.footing other := by
  obtain ⟨regular, base, founded, known, reached, tops, top, others⟩ := crowned
  have size : (stack.push version (some tree) next).nodes.size = stack.nodes.size + 1 := Array.size_push ..
  have old : ∀ id < stack.nodes.size, (stack.push version (some tree) next).node id = stack.node id := by
    intro id bound
    rw [node_push, if_neg (Nat.ne_of_lt bound)]
  have lower : ∀ {id : Nat} {tail : List (Tree σ)}, Tops stack base id tail →
      Tops (stack.push version (some tree) next) base id tail := by
    intro id tail tops
    induction tops with
    | base => exact .base
    | above known links lower ih => exact .above (by omega) (by rw [old _ known, links]) ih
  have head := stack.head_push version (some tree) next
  refine ⟨⟨regular, base, ⟨founded.first, ?_, ?_, ?_, ?_, ?_⟩, known, ?_, ?_, ?_, ?_⟩, ?_⟩
  · exact fun known => size ▸ Nat.lt_succ_of_lt (founded.known known)
  · intro id known
    rw [old id (founded.known known)]
    exact founded.bottom known
  · intro id known
    rw [old id (founded.known known)]
    exact founded.below known
  · intro id known link member
    rw [old id (founded.known known)] at member ⊢
    rw [old link.below (founded.known (founded.below known link member))]
    exact founded.leads known link member
  · intro id
    rw [node_push]
    split
    · exact inside
    · exact founded.inside id
  · rw [old base (founded.known known)]
    exact reached
  · rw [(head version).2, if_pos ⟨rfl, bound⟩]
    refine .above (by omega) ?_ (lower tops)
    rw [node_push, if_pos rfl, nodeAbove_links]
  · rw [(head version).2, if_pos ⟨rfl, bound⟩]
    omega
  · intro other different
    obtain ⟨status, node⟩ := head other
    rw [if_neg fun both => different both.1] at node
    have carried := others other different
    have known := carried.known
    refine ⟨by omega, fun live => node ▸ carried.regular (status ▸ live), fun token paused => ?_⟩
    rw [node, old _ known]
    exact carried.waiting token (status.symm.trans paused)
  · intro other different
    obtain ⟨status, node⟩ := head other
    rw [if_neg fun both => different both.1] at node
    simp only [Stack.footing, Stack.state, Stack.place, Stack.isActive, Stack.top, status, node,
      old _ (others other different).known]

theorem Crowned.popAll (crowned : Crowned language source stack version state place tail)
    (bound : version < stack.heads.size) :
    ∃ popped slices, stack.popAll version = (popped, slices) ∧ Crowned language source popped version state place tail ∧
      stack.heads.size ≤ popped.heads.size ∧
      (∀ other < stack.heads.size, popped.footing other = stack.footing other) ∧
      ∀ slice ∈ slices, (stack.heads.size ≤ slice.head ∧ slice.head < popped.heads.size) ∧ ∃ trees,
        slice.trees = trees ++ tail ∧ Climb language source 1 0 trees state place := by
  obtain ⟨regular, base, founded, known, ⟨reachedState, reachedPlace⟩, tops, top, others⟩ := crowned
  let Below : Path σ → Prop := fun path => regular path.node ∧ ∃ trees, path.trees = trees ++ tail ∧
    Climb language source (stack.node path.node).state (stack.node path.node).place trees state place
  let Good : Path σ → Prop := fun path => Below path ∨ ∃ lower, Tops stack base path.node lower ∧
    lower ++ path.trees = tail
  have atBase : Climb language source (stack.node base).state (stack.node base).place [] state place := by
    rw [reachedState, reachedPlace]
    exact .nil
  have deeper : ∀ path, Below path → ∀ next ∈ stack.pathsBelow path, Below next := by
    rintro path ⟨known, trees, whole, climb⟩ next member
    obtain ⟨below, above, nextTrees, nextClimb⟩ := founded.pathsBelow known climb next member
    exact ⟨below, above ++ trees, by rw [nextTrees, whole, List.append_assoc], nextClimb⟩
  have started : ∀ path, path.node = base → path.trees = tail → Below path := by
    rintro path rfl whole
    exact ⟨known, [], whole, atBase⟩
  have follows : Follows stack (fun (_ : Unit) path =>
      ((), if (stack.node path.node).links.isEmpty then Verdict.take else Verdict.descend)) Good
      fun path => Below path ∧ (stack.node path.node).links = [] := by
    refine ⟨fun {_ path} good _ next member => ?_, fun {_ path} good verdict => ?_⟩
    · rcases good with below | ⟨lower, tops, whole⟩
      · exact .inl (deeper path below next member)
      · generalize there : path.node = node at tops
        cases tops with
        | base => exact .inl (deeper path (started path there whole) next member)
        | above _ links lower =>
          obtain ⟨link, listed, rfl⟩ := List.mem_map.mp member
          rw [there, links, List.mem_singleton] at listed
          subst listed
          exact .inr ⟨_, lower, by rw [← whole, List.append_assoc]; rfl⟩
    · have empty : (stack.node path.node).links = [] := by
        dsimp only at verdict
        split at verdict
        · rename_i none
          exact List.isEmpty_iff.mp none
        · cases verdict
      refine ⟨?_, empty⟩
      rcases good with below | ⟨lower, tops, whole⟩
      · exact below
      · generalize there : path.node = node at tops
        cases tops with
        | base => exact started path there whole
        | above _ links lower =>
          rw [there, links] at empty
          cases empty
  obtain ⟨heads, slices, pop, sliced⟩ := follows.pop () (.inr ⟨tail, tops, List.append_nil tail⟩)
  refine ⟨{ stack with heads }, slices, pop, ?_, sliced.count, fun other => sliced.footing, fun slice member => ?_⟩
  · have own : ({ stack with heads } : Stack σ).head version = stack.head version := sliced.kept version bound
    refine ⟨regular, base, { founded with }, known, ⟨reachedState, reachedPlace⟩, ?_, own ▸ top,
      fun other different => ?_⟩
    · rw [own]
      exact Tops.congr tops rfl
    · by_cases old : other < stack.heads.size
      · have same : ({ stack with heads } : Stack σ).head other = stack.head other := sliced.kept other old
        rw [same]
        have carried := others other different
        exact ⟨carried.known, carried.regular, carried.waiting⟩
      · by_cases new : other < heads.size
        · exact sliced.carries founded (fun path wanted => wanted.1.1) (Nat.not_lt.mp old) new
        · rw [head_of_le _ _ (Nat.not_lt.mp new)]
          exact ⟨founded.known founded.first, fun _ => founded.first, fun token paused => by cases paused⟩
  · obtain ⟨path, ⟨⟨known, trees, whole, climb⟩, empty⟩, -, same⟩ := sliced.taken slice member
    obtain ⟨state, place⟩ := founded.bottom known empty
    rw [state, place] at climb
    exact ⟨sliced.range slice member, trees, same.trans whole, climb⟩

theorem Crowned.remove (crowned : Crowned language source stack version state place tail) {other : Nat}
    (after : version < other) : Crowned language source (stack.remove other) version state place tail := by
  obtain ⟨regular, base, founded, known, reached, tops, top, others⟩ := crowned
  have own : (stack.remove other).head version = stack.head version := by rw [head_remove, if_pos after]
  refine ⟨regular, base, { founded with }, known, reached, ?_, own ▸ top, fun third different => ?_⟩
  · rw [own]
    exact Tops.congr tops rfl
  · rw [head_remove]
    have carried := others (if third < other then third else third + 1) (by split <;> omega)
    exact ⟨carried.known, carried.regular, carried.waiting⟩

theorem Crowned.halt (crowned : Crowned language source stack version state place tail)
    (bound : version < stack.heads.size) :
    (stack.halt version).Regular language source := by
  obtain ⟨regular, base, founded, -, -, -, top, others⟩ := crowned
  refine ⟨regular, { founded with }, fun head member => ?_⟩
  obtain ⟨other, rfl⟩ := exists_head member
  rw [Stack.halt, modifyHead, head_setHead]
  by_cases same : other = version
  · rw [if_pos ⟨same, bound⟩]
    refine ⟨top, fun live => ?_, fun token paused => ?_⟩
    · cases live
    · cases paused
  · rw [if_neg fun both => same both.1]
    have carried := others other same
    exact ⟨carried.known, carried.regular, carried.waiting⟩

end Ends

end SourceAtlas.Syntax.Stack
