import SourceAtlas.Proofs.Climbing

/-! Stacks on which every way down is a climb. Nodes on top of a finished text are set apart: their
readings are given up, and nothing is built on them. -/
namespace SourceAtlas.Syntax
variable {σ : Type}

/-- Where a reading has come to, and whether it goes on. -/
structure Footing where
  state : Nat
  place : Nat
  live : Bool

/-- A reading goes on from a place. -/
structure Footing.Stands (footing : Footing) (place : Nat) : Prop where
  live : footing.live = true
  place : footing.place = place

theorem Status.isHalted_of_isActive {status : Status σ} (active : status.isActive = true) : status.isHalted = false := by
  cases status with
  | active => rfl
  | paused | halted => cases active

namespace Stack

def footing (stack : Stack σ) (version : Nat) : Footing :=
  ⟨stack.state version, stack.place version, stack.isActive version⟩

section Reading
variable (stack : Stack σ) (version other : Nat)

theorem head_setHead (head : Head σ) : (stack.setHead version head).head other =
    if other = version ∧ version < stack.heads.size then head else stack.head other := by
  unfold setHead Stack.head
  simp only [Array.getD_eq_getD_getElem?, Array.getElem?_setIfInBounds]
  grind

theorem head_remove : (stack.remove version).head other = stack.head (if other < version then other else other + 1) := by
  unfold remove Stack.head
  simp only [Array.getD_eq_getD_getElem?, Array.eraseIdxIfInBounds_eq]
  split
  · rw [Array.getElem?_eraseIdx]
    split <;> rfl
  · grind

theorem size_remove : (stack.remove version).heads.size =
    if version < stack.heads.size then stack.heads.size - 1 else stack.heads.size := by
  unfold remove
  rw [Array.eraseIdxIfInBounds_eq]
  split
  · exact Array.size_eraseIdx ..
  · rfl

theorem head_mem (bound : version < stack.heads.size) : stack.head version ∈ stack.heads := by
  unfold Stack.head
  rw [Array.getD, dif_pos bound]
  exact Array.getElem_mem bound

theorem head_of_le (beyond : stack.heads.size ≤ version) : stack.head version = default := by
  unfold Stack.head
  rw [Array.getD, dif_neg (Nat.not_lt.mpr beyond)]

variable {stack} in
theorem exists_head {head : Head σ} (member : head ∈ stack.heads) : ∃ version, head = stack.head version := by
  obtain ⟨version, bound, rfl⟩ := Array.mem_iff_getElem.mp member
  refine ⟨version, ?_⟩
  unfold Stack.head
  rw [Array.getD, dif_pos bound]
  rfl

end Reading

section Founding
variable (language : Language σ) (source : Source)

def Leads (below : StackNode σ) (tree : Option (Tree σ)) (node : StackNode σ) : Prop :=
  match tree with
  | none => node.state = 0 ∧ node.place = below.place
  | some tree => Step language source below.state below.place tree node.state node.place

/-- The regular nodes of a stack: below them are only regular ones, down to the start of the text. -/
structure Founded (stack : Stack σ) (regular : Nat → Prop) : Prop where
  first : regular 0
  known : ∀ {id : Nat}, regular id → id < stack.nodes.size
  bottom : ∀ {id : Nat}, regular id → (stack.node id).links = [] → (stack.node id).state = 1 ∧ (stack.node id).place = 0
  below : ∀ {id : Nat}, regular id → ∀ link ∈ (stack.node id).links, regular link.below
  leads : ∀ {id : Nat}, regular id → ∀ link ∈ (stack.node id).links,
    Leads language source (stack.node link.below) link.tree (stack.node id)
  inside : ∀ id, (stack.node id).place ≤ source.size

/-- A token with which a reading may wait at a place. The end of the text is an extra, so that it is no part of
anything. -/
structure Waits (place : Nat) (token : Tree σ) : Prop where
  measured : Measured source token
  origin : token.facts.origin = place
  ends : token.label = .symbol 0 → token.extra = true

/-- A reading stands on a regular node, unless it has been given up. -/
structure Carries (stack : Stack σ) (regular : Nat → Prop) (head : Head σ) : Prop where
  known : head.node < stack.nodes.size
  regular : head.status.isHalted = false → regular head.node
  waiting : ∀ token, head.status = .paused token → Waits source (stack.node head.node).place token

def Regular (stack : Stack σ) : Prop :=
  ∃ regular, stack.Founded language source regular ∧ ∀ head ∈ stack.heads, stack.Carries source regular head

end Founding

section Heads
variable {language : Language σ} {source : Source} {stack : Stack σ} {regular : Nat → Prop}

theorem Waits.of_isToken {place : Nat} {token : Tree σ} (known : IsToken language source place token) :
    Waits source place token :=
  ⟨known.measured, known.origin, known.ends⟩

theorem Founded.carries (founded : stack.Founded language source regular)
    (heads : ∀ head ∈ stack.heads, stack.Carries source regular head) (version : Nat) :
    stack.Carries source regular (stack.head version) := by
  by_cases bound : version < stack.heads.size
  · exact heads _ (stack.head_mem version bound)
  · rw [stack.head_of_le version (Nat.not_lt.mp bound)]
    exact ⟨founded.known founded.first, fun _ => founded.first, fun token paused => by cases paused⟩

theorem Regular.place_le (sound : stack.Regular language source) (version : Nat) : stack.place version ≤ source.size := by
  obtain ⟨regular, founded, -⟩ := sound
  exact founded.inside _

theorem Regular.waiting (sound : stack.Regular language source) {version : Nat} {token : Tree σ}
    (paused : (stack.head version).status = .paused token) : Waits source (stack.place version) token := by
  obtain ⟨regular, founded, heads⟩ := sound
  exact (founded.carries heads version).waiting token paused

def Continues (source : Source) (stack : Stack σ) (old head : Head σ) : Prop :=
  head.node = old.node ∧ (head.status = old.status ∨ head.status = .halted ∨ old.status.isHalted = false ∧
    ∀ token, head.status = .paused token → Waits source (stack.node old.node).place token)

theorem Regular.of_heads (sound : stack.Regular language source) {heads : Array (Head σ)}
    (each : ∀ head ∈ heads, ∃ version, Continues source stack (stack.head version) head) :
    ({ stack with heads } : Stack σ).Regular language source := by
  obtain ⟨regular, founded, carried⟩ := sound
  refine ⟨regular, { founded with }, fun head member => ?_⟩
  obtain ⟨version, node, status⟩ := each head member
  have old := founded.carries carried version
  refine ⟨node ▸ old.known, fun live => ?_, fun token paused => ?_⟩
  · rw [node]
    apply old.regular
    rcases status with same | halted | ⟨before, -⟩
    · rw [← same, live]
    · rw [halted] at live
      cases live
    · exact before
  · change Waits source (stack.node head.node).place token
    rw [node]
    rcases status with same | halted | ⟨-, waits⟩
    · exact old.waiting token (same.symm.trans paused)
    · rw [halted] at paused
      cases paused
    · exact waits token paused

theorem Regular.modifyHead (sound : stack.Regular language source) {version : Nat} {change : Head σ → Head σ}
    (continues : Continues source stack (stack.head version) (change (stack.head version))) :
    (stack.modifyHead version change).Regular language source := by
  apply sound.of_heads
  intro head member
  rcases Array.mem_or_eq_of_mem_setIfInBounds member with old | rfl
  · obtain ⟨other, rfl⟩ := exists_head old
    exact ⟨other, rfl, .inl rfl⟩
  · exact ⟨version, continues⟩

theorem Regular.remove (sound : stack.Regular language source) (version : Nat) :
    (stack.remove version).Regular language source := by
  apply sound.of_heads
  intro head member
  obtain ⟨other, rfl⟩ := exists_head (show head ∈ (stack.remove version).heads from member)
  rw [head_remove]
  exact ⟨_, rfl, .inl rfl⟩

theorem Regular.setHead (sound : stack.Regular language source) {version : Nat} (other : Nat) {head : Head σ}
    (continues : Continues source stack (stack.head other) head) : (stack.setHead version head).Regular language source := by
  apply sound.of_heads
  intro head member
  rcases Array.mem_or_eq_of_mem_setIfInBounds member with old | rfl
  · obtain ⟨other, rfl⟩ := exists_head old
    exact ⟨other, rfl, .inl rfl⟩
  · exact ⟨other, continues⟩

theorem Regular.renumber (sound : stack.Regular language source) (first second : Nat) :
    (stack.renumber first second).Regular language source := by
  unfold Stack.renumber
  split
  · exact sound
  · refine Regular.remove (sound.setHead first ?_) first
    exact ⟨rfl, .inl rfl⟩

theorem Regular.swap (sound : stack.Regular language source) (first second : Nat) :
    (stack.swap first second).Regular language source := by
  apply sound.of_heads
  intro head member
  rcases Array.mem_or_eq_of_mem_setIfInBounds member with old | rfl
  · rcases Array.mem_or_eq_of_mem_setIfInBounds old with old | rfl
    · obtain ⟨other, rfl⟩ := exists_head old
      exact ⟨other, rfl, .inl rfl⟩
    · exact ⟨second, rfl, .inl rfl⟩
  · exact ⟨first, rfl, .inl rfl⟩

theorem Regular.copy (sound : stack.Regular language source) (version : Nat) :
    (stack.copy version).Regular language source := by
  apply sound.of_heads
  intro head member
  rcases Array.mem_push.mp member with old | rfl
  · obtain ⟨other, rfl⟩ := exists_head old
    exact ⟨other, rfl, .inl rfl⟩
  · exact ⟨version, rfl, .inl rfl⟩

theorem Regular.of_subset (sound : stack.Regular language source) {heads : Array (Head σ)}
    (each : ∀ head ∈ heads, head ∈ stack.heads) : ({ stack with heads } : Stack σ).Regular language source := by
  apply sound.of_heads
  intro head member
  obtain ⟨other, rfl⟩ := exists_head (each head member)
  exact ⟨other, rfl, .inl rfl⟩

theorem Regular.take (sound : stack.Regular language source) (count : Nat) :
    ({ stack with heads := stack.heads.take count } : Stack σ).Regular language source := by
  refine sound.of_subset fun head member => ?_
  obtain ⟨index, bound, rfl⟩ := Array.mem_extract_iff_getElem.mp member
  exact Array.getElem_mem _

end Heads

section Footings
variable (stack : Stack σ) (version other : Nat)

variable {stack} in
theorem footing_congr {changed : Stack σ} {version other : Nat} (nodes : changed.nodes = stack.nodes)
    (node : (changed.head version).node = (stack.head other).node)
    (status : (changed.head version).status.isActive = (stack.head other).status.isActive) :
    changed.footing version = stack.footing other := by
  simp only [footing, state, place, isActive, top, Stack.node, nodes, node, status]

theorem footing_remove :
    (stack.remove version).footing other = stack.footing (if other < version then other else other + 1) := by
  apply footing_congr <;> first | rfl | rw [head_remove]

theorem footing_setHead {head : Head σ} (different : other ≠ version) :
    (stack.setHead version head).footing other = stack.footing other := by
  have same : (stack.setHead version head).head other = stack.head other := by
    rw [head_setHead, if_neg fun both => different both.1]
  apply footing_congr <;> first | rfl | rw [same]

theorem footing_modifyHead {change : Head σ → Head σ} (node : ∀ head, (change head).node = head.node)
    (status : (change (stack.head version)).status.isActive = (stack.head version).status.isActive) :
    (stack.modifyHead version change).footing other = stack.footing other := by
  by_cases same : other = version ∧ version < stack.heads.size
  · obtain ⟨rfl, bound⟩ := same
    have changed : (stack.modifyHead other change).head other = change (stack.head other) := by
      rw [modifyHead, head_setHead, if_pos ⟨rfl, bound⟩]
    apply footing_congr
    · rfl
    · rw [changed, node]
    · rw [changed, status]
  · have kept : (stack.modifyHead version change).head other = stack.head other := by
      rw [modifyHead, head_setHead, if_neg same]
    apply footing_congr <;> first | rfl | rw [kept]

theorem footing_halt : ((stack.halt version).footing other).state = (stack.footing other).state ∧
    ((stack.halt version).footing other).place = (stack.footing other).place ∧
    (other ≠ version → (stack.halt version).footing other = stack.footing other) := by
  have node : ((stack.halt version).head other).node = (stack.head other).node := by
    rw [halt, modifyHead, head_setHead]
    split
    · rename_i same
      rw [same.1]
    · rfl
  refine ⟨?_, ?_, fun different => stack.footing_setHead version other different⟩
  · exact congrArg (fun id => (stack.node id).state) node
  · exact congrArg (fun id => (stack.node id).place) node

theorem footing_renumber {first second : Nat} (before : second < first) (bound : first < stack.heads.size) :
    (stack.renumber first second).footing other =
      stack.footing (if other = second then first else if other < first then other else other + 1) := by
  rw [renumber, if_neg (by omega), footing_remove]
  by_cases same : other = second
  · rw [if_pos same, if_pos (by omega)]
    have moved : ∀ head, (stack.setHead second head).head other = head := by
      intro head
      rw [head_setHead, if_pos ⟨same, by omega⟩]
    apply footing_congr <;> first | rfl | rw [moved]
  · rw [if_neg same, footing_setHead]
    split <;> omega

theorem footing_copy : (stack.copy version).footing other =
    stack.footing (if other = stack.heads.size then version else other) := by
  have head : (stack.copy version).head other =
      if other = stack.heads.size then { stack.head version with landings := none } else stack.head other := by
    unfold copy Stack.head
    simp only [Array.getD_eq_getD_getElem?, Array.getElem?_push]
    grind
  by_cases last : other = stack.heads.size
  · rw [if_pos last] at head ⊢
    apply footing_congr <;> first | rfl | rw [head]
  · rw [if_neg last] at head ⊢
    apply footing_congr <;> first | rfl | rw [head]

theorem footing_take {count : Nat} (below : other < count) :
    ({ stack with heads := stack.heads.take count } : Stack σ).footing other = stack.footing other := by
  have head : ({ stack with heads := stack.heads.take count } : Stack σ).head other = stack.head other := by
    unfold Stack.head
    simp only [Array.getD_eq_getD_getElem?, Array.take_eq_extract, Array.getElem?_extract]
    grind
  apply footing_congr <;> first | rfl | rw [head]

theorem size_setHead {head : Head σ} : (stack.setHead version head).heads.size = stack.heads.size := by
  simp [setHead]

theorem size_modifyHead {change : Head σ → Head σ} : (stack.modifyHead version change).heads.size = stack.heads.size :=
  stack.size_setHead version

theorem size_renumber {first second : Nat} (before : second < first) (bound : first < stack.heads.size) :
    (stack.renumber first second).heads.size = stack.heads.size - 1 := by
  rw [renumber, if_neg (by omega), size_remove, size_setHead, if_pos bound]

end Footings

section Pushing
variable (stack : Stack σ) (version : Nat) (tree : Option (Tree σ)) (state : Nat)

theorem node_push (id : Nat) : (stack.push version tree state).node id =
    if id = stack.nodes.size then stack.nodeAbove (stack.head version).node tree state else stack.node id := by
  unfold push Stack.node
  simp only [Array.getD_eq_getD_getElem?, Array.getElem?_push]
  grind

theorem head_push (other : Nat) : ((stack.push version tree state).head other).status = (stack.head other).status ∧
    ((stack.push version tree state).head other).node =
      if other = version ∧ version < stack.heads.size then stack.nodes.size else (stack.head other).node := by
  have head : ∃ count, (stack.push version tree state).head other = if other = version ∧ version < stack.heads.size then
      { stack.head version with node := stack.nodes.size, countAtError := count } else stack.head other :=
    ⟨_, stack.head_setHead version other _⟩
  obtain ⟨count, head⟩ := head
  rw [head]
  split
  · rename_i same
    rw [same.1]
    exact ⟨rfl, rfl⟩
  · exact ⟨rfl, rfl⟩

theorem size_push : (stack.push version tree state).heads.size = stack.heads.size := by
  simp [push]

theorem nodeAbove_state : (stack.nodeAbove version tree state).state = state := by
  cases tree <;> rfl

theorem nodeAbove_links : (stack.nodeAbove version tree state).links = [⟨version, tree⟩] := by
  cases tree <;> rfl

variable {language : Language σ} {source : Source} {stack version tree state}

theorem Regular.footing_push (sound : stack.Regular language source) {other : Nat} (different : other ≠ version) :
    (stack.push version tree state).footing other = stack.footing other := by
  obtain ⟨regular, founded, heads⟩ := sound
  obtain ⟨status, node⟩ := stack.head_push version tree state other
  rw [if_neg fun both => different both.1] at node
  have old : (stack.push version tree state).node (stack.head other).node = stack.node (stack.head other).node := by
    rw [node_push, if_neg (Nat.ne_of_lt (founded.carries heads other).known)]
  simp only [footing, Stack.state, place, isActive, top, status, node, old]

variable (stack tree state) in
theorem footing_push_self (bound : version < stack.heads.size) : (stack.push version tree state).footing version =
    ⟨state, (stack.nodeAbove (stack.head version).node tree state).place, (stack.footing version).live⟩ := by
  obtain ⟨status, node⟩ := stack.head_push version tree state version
  rw [if_pos ⟨rfl, bound⟩] at node
  simp only [footing, Stack.state, place, isActive, top, status, node, node_push, nodeAbove_state, if_true]

theorem Regular.push (sound : stack.Regular language source) (live : (stack.footing version).live = true)
    (leads : Leads language source (stack.top version) tree (stack.nodeAbove (stack.head version).node tree state))
    (inside : (stack.nodeAbove (stack.head version).node tree state).place ≤ source.size) :
    (stack.push version tree state).Regular language source := by
  obtain ⟨regular, founded, heads⟩ := sound
  have old : ∀ {id}, id < stack.nodes.size → (stack.push version tree state).node id = stack.node id := by
    intro id known
    rw [node_push, if_neg (Nat.ne_of_lt known)]
  have size : (stack.push version tree state).nodes.size = stack.nodes.size + 1 := Array.size_push ..
  have onTop : regular (stack.head version).node :=
    (founded.carries heads version).regular (Status.isHalted_of_isActive live)
  refine ⟨fun id => regular id ∨ id = stack.nodes.size, ⟨.inl founded.first, ?_, ?_, ?_, ?_, ?_⟩, ?_⟩
  · rintro id (known | rfl)
    · exact size ▸ Nat.lt_succ_of_lt (founded.known known)
    · exact size ▸ Nat.lt_succ_self _
  · rintro id (known | rfl) none
    · rw [old (founded.known known)] at none ⊢
      exact founded.bottom known none
    · rw [node_push, if_pos rfl, nodeAbove_links] at none
      cases none
  · rintro id (known | rfl) link member
    · rw [old (founded.known known)] at member
      exact .inl (founded.below known link member)
    · rw [node_push, if_pos rfl, nodeAbove_links, List.mem_singleton] at member
      subst member
      exact .inl onTop
  · rintro id (known | rfl) link member
    · rw [old (founded.known known)] at member ⊢
      rw [old (founded.known (founded.below known link member))]
      exact founded.leads known link member
    · have new := stack.node_push version tree state stack.nodes.size
      rw [if_pos rfl] at new
      rw [new, nodeAbove_links, List.mem_singleton] at member
      subst member
      rw [new, old (founded.known onTop)]
      exact leads
  · intro id
    rw [node_push]
    split
    · exact inside
    · exact founded.inside id
  · intro head member
    obtain ⟨other, rfl⟩ := exists_head member
    obtain ⟨status, node⟩ := stack.head_push version tree state other
    have carried := founded.carries heads other
    by_cases same : other = version ∧ version < stack.heads.size
    · rw [if_pos same] at node
      refine ⟨by omega, fun _ => .inr node, fun token paused => ?_⟩
      -- A reading that waits is not pushed on.
      have active : ((stack.push version tree state).head other).status.isActive = true := status ▸ same.1 ▸ live
      rw [paused] at active
      cases active
    · rw [if_neg same] at node
      have known := carried.known
      refine ⟨by omega, fun live => ?_, fun token paused => ?_⟩
      · rw [node]
        exact .inl (carried.regular (status ▸ live))
      · rw [node, old known]
        exact carried.waiting token (status.symm.trans paused)

theorem Regular.push_mark (sound : stack.Regular language source) (live : (stack.footing version).live = true) :
    (stack.push version none 0).Regular language source :=
  sound.push live ⟨rfl, rfl⟩ (sound.place_le version)

theorem Regular.push_tree (sound : stack.Regular language source) {version state : Nat} {tree : Tree σ}
    (live : (stack.footing version).live = true)
    (step : Step language source (stack.footing version).state (stack.footing version).place tree state tree.facts.stop) :
    (stack.push version (some tree) state).Regular language source :=
  sound.push live step step.sound.measured.stop

theorem Regular.pushAll (sound : stack.Regular language source) {version state stop : Nat} {trees : List (Tree σ)}
    (bound : version < stack.heads.size) (same : (stack.footing version).state = state)
    (live : (stack.footing version).live = true)
    (aside : Aside language source (stack.footing version).place trees stop) :
    (stack.pushAll version trees state).Regular language source ∧
      (stack.pushAll version trees state).heads.size = stack.heads.size ∧
      (stack.pushAll version trees state).footing version = ⟨state, stop, true⟩ ∧
      ∀ other, other ≠ version → (stack.pushAll version trees state).footing other = stack.footing other := by
  induction trees generalizing stack with
  | nil =>
    obtain rfl : stop = (stack.footing version).place := aside
    refine ⟨sound, rfl, ?_, fun _ _ => rfl⟩
    rw [← same, ← live]
    rfl
  | cons tree trees ih =>
    obtain ⟨extra, known, origin, rest⟩ := aside
    have pushed : (stack.push version (some tree) state).Regular language source :=
      sound.push_tree live ⟨known, rfl, origin, .inr (.inl ⟨extra, same.symm⟩), fun plain => by simp [extra] at plain⟩
    have footing := stack.footing_push_self (some tree) state bound
    obtain ⟨regular, size, own, others⟩ := ih pushed (by rwa [size_push]) (by rw [footing]) (by rw [footing, live])
      (by rw [footing]; exact rest)
    refine ⟨regular, size.trans (stack.size_push ..), own, fun other different => ?_⟩
    exact (others other different).trans (sound.footing_push different)

end Pushing

section Merging
variable {language : Language σ} {source : Source} {stack : Stack σ} {regular : Nat → Prop}

/-- Nodes keep their states and places, whatever is linked to them. -/
structure SameNodes (old stack : Stack σ) : Prop where
  heads : stack.heads = old.heads
  size : stack.nodes.size = old.nodes.size
  state : ∀ id, (stack.node id).state = (old.node id).state
  place : ∀ id, (stack.node id).place = (old.node id).place

theorem SameNodes.refl (stack : Stack σ) : SameNodes stack stack := ⟨rfl, rfl, fun _ => rfl, fun _ => rfl⟩

theorem SameNodes.trans {first second third : Stack σ} (lower : SameNodes first second) (upper : SameNodes second third) :
    SameNodes first third where
  heads := upper.heads.trans lower.heads
  size := upper.size.trans lower.size
  state id := (upper.state id).trans (lower.state id)
  place id := (upper.place id).trans (lower.place id)

theorem SameNodes.footing {old : Stack σ} (same : SameNodes old stack) (version : Nat) :
    stack.footing version = old.footing version := by
  have head : stack.head version = old.head version := by rw [Stack.head, same.heads]; rfl
  simp only [Stack.footing, Stack.state, Stack.place, isActive, top, head, same.state, same.place]

theorem Leads.congr {below below' node node' : StackNode σ} {tree : Option (Tree σ)}
    (leads : Leads language source below tree node) (belowState : below'.state = below.state)
    (belowPlace : below'.place = below.place) (state : node'.state = node.state) (place : node'.place = node.place) :
    Leads language source below' tree node' := by
  cases tree with
  | none => exact ⟨state.trans leads.1, place.trans (leads.2.trans belowPlace.symm)⟩
  | some tree =>
    unfold Leads at leads ⊢
    rwa [belowState, belowPlace, state, place]

theorem node_update (id : Nat) (node : StackNode σ) (other : Nat) :
    ({ stack with nodes := stack.nodes.setIfInBounds id node } : Stack σ).node other =
      if other = id ∧ id < stack.nodes.size then node else stack.node other := by
  unfold Stack.node
  simp only [Array.getD_eq_getD_getElem?, Array.getElem?_setIfInBounds]
  grind

theorem Founded.update (founded : stack.Founded language source regular) {id : Nat} {node : StackNode σ}
    (state : node.state = (stack.node id).state) (place : node.place = (stack.node id).place)
    (bottom : node.links = [] → (stack.node id).links = [])
    (links : ∀ link ∈ node.links, regular link.below ∧
      Leads language source (stack.node link.below) link.tree (stack.node id)) (known : regular id) :
    ({ stack with nodes := stack.nodes.setIfInBounds id node } : Stack σ).Founded language source regular ∧
      SameNodes stack { stack with nodes := stack.nodes.setIfInBounds id node } := by
  have bound := founded.known known
  have same : SameNodes stack { stack with nodes := stack.nodes.setIfInBounds id node } := by
    refine ⟨rfl, Array.size_setIfInBounds .., fun other => ?_, fun other => ?_⟩
    all_goals
      rw [node_update]
      split
      · rename_i hit
        rw [hit.1]
        assumption
      · rfl
  have own : ∀ other, ({ stack with nodes := stack.nodes.setIfInBounds id node } : Stack σ).node other =
      if other = id then node else stack.node other := by
    intro other
    rw [node_update]
    simp [bound]
  refine ⟨⟨founded.first, fun known => same.size ▸ founded.known known, ?_, ?_, ?_, ?_⟩, same⟩
  · intro other known none
    rw [same.state, same.place]
    apply founded.bottom known
    rw [own] at none
    split at none
    · rename_i hit
      exact hit ▸ bottom none
    · exact none
  · intro other known link member
    rw [own] at member
    split at member
    · exact (links link member).1
    · exact founded.below known link member
  · intro other known link member
    rw [own] at member
    split at member
    · rename_i hit
      exact (links link member).2.congr (same.state _) (same.place _) (hit ▸ same.state other) (hit ▸ same.place other)
    · exact (founded.leads known link member).congr (same.state _) (same.place _) (same.state _) (same.place _)
  · intro other
    rw [same.place]
    exact founded.inside other

private theorem Founded.foldl_links {add : Stack σ → Link σ → Stack σ} {id : Nat}
    (step : ∀ (stack : Stack σ) (link : Link σ), stack.Founded language source regular → regular link.below →
      Leads language source (stack.node link.below) link.tree (stack.node id) →
      (add stack link).Founded language source regular ∧ SameNodes stack (add stack link))
    (links : List (Link σ)) (founded : stack.Founded language source regular)
    (each : ∀ link ∈ links, regular link.below ∧ Leads language source (stack.node link.below) link.tree
      (stack.node id)) :
    (links.foldl add stack).Founded language source regular ∧ SameNodes stack (links.foldl add stack) := by
  induction links generalizing stack with
  | nil => exact ⟨founded, .refl stack⟩
  | cons link links ih =>
    obtain ⟨⟨below, leads⟩, later⟩ := List.forall_mem_cons.mp each
    obtain ⟨added, same⟩ := step stack link founded below leads
    obtain ⟨all, rest⟩ := ih added fun other member => ⟨(later other member).1,
      (later other member).2.congr (same.state _) (same.place _) (same.state _) (same.place _)⟩
    exact ⟨all, same.trans rest⟩

variable [BEq σ]

theorem Founded.addLink (fuel : Nat) {id : Nat} {link : Link σ} (founded : stack.Founded language source regular)
    (known : regular id) (below : regular link.below)
    (leads : Leads language source (stack.node link.below) link.tree (stack.node id)) :
    (stack.addLink fuel id link).Founded language source regular ∧ SameNodes stack (stack.addLink fuel id link) := by
  induction fuel generalizing stack id link with
  | zero => exact ⟨founded, .refl stack⟩
  | succ fuel ih =>
    have own : ∀ other ∈ (stack.node id).links, regular other.below ∧
        Leads language source (stack.node other.below) other.tree (stack.node id) :=
      fun other member => ⟨founded.below known other member, founded.leads known other member⟩
    unfold Stack.addLink
    split
    · exact ⟨founded, .refl stack⟩
    · dsimp only
      split
      · rename_i index found
        obtain ⟨bound, agrees, -⟩ := List.findIdx?_eq_some_iff_getElem.mp found
        have existing : (stack.node id).links.getD index default = (stack.node id).links[index] := by
          rw [List.getD_eq_getElem?_getD, List.getElem?_eq_getElem bound, Option.getD_some]
        rw [existing]
        split
        · split
          · refine founded.update rfl rfl (fun none => ?_) (fun other member => ?_) known
            · exact (List.set_eq_nil_iff _ _).mp none
            · rcases List.mem_or_eq_of_mem_set member with old | rfl
              · exact own other old
              · exact ⟨below, leads⟩
          · exact ⟨founded, .refl stack⟩
        · rename_i different
          -- The node that is like the one below takes over its links.
          simp only [Bool.not_eq_true] at different
          simp only [different, Bool.false_or, Bool.and_eq_true, beq_iff_eq] at agrees
          obtain ⟨-, ⟨state, place⟩, -⟩ := agrees
          have other : regular (stack.node id).links[index].below := founded.below known _ (List.getElem_mem bound)
          obtain ⟨merged, same⟩ := Founded.foldl_links
            (fun stack link founded below leads => ih founded other below leads)
            (stack.node link.below).links founded fun lower member =>
              ⟨founded.below below lower member, (founded.leads below lower member).congr rfl rfl state place⟩
          refine And.imp_right same.trans (merged.update rfl rfl (fun none => none) (fun lower member => ?_) known)
          exact ⟨merged.below known lower member, merged.leads known lower member⟩
      · split
        · refine founded.update rfl rfl (fun none => ?_) (fun other member => ?_) known
          · cases (List.append_eq_nil_iff.mp none).2
          · rcases List.mem_append.mp member with old | new
            · exact own other old
            · rw [List.mem_singleton.mp new]
              exact ⟨below, leads⟩
        · exact ⟨founded, .refl stack⟩

theorem Regular.merge (sound : stack.Regular language source) {first second : Nat} {merged : Stack σ}
    (done : stack.merge first second = some merged) : merged.Regular language source ∧
      (∀ version, merged.footing version = stack.footing (if version < second then version else version + 1)) ∧
      merged.heads.size = if second < stack.heads.size then stack.heads.size - 1 else stack.heads.size := by
  obtain ⟨regular, founded, heads⟩ := sound
  unfold Stack.merge at done
  split at done
  · rename_i fit
    simp only [canMerge, Bool.and_eq_true, beq_iff_eq] at fit
    obtain ⟨⟨⟨⟨⟨active, active'⟩, state⟩, place⟩, -⟩, -⟩ := fit
    have target := (founded.carries heads first).regular (Status.isHalted_of_isActive active)
    have other := (founded.carries heads second).regular (Status.isHalted_of_isActive active')
    have linked := Founded.foldl_links
      (fun stack link founded below leads => founded.addLink stack.nodes.size target below leads)
      (stack.top second).links founded fun link member =>
        ⟨founded.below other link member, (founded.leads other link member).congr rfl rfl state place⟩
    dsimp only at done linked
    generalize (stack.top second).links.foldl _ stack = folded at done linked
    obtain ⟨linked, same⟩ := linked
    have sound : folded.Regular language source := by
      refine ⟨regular, linked, fun head member => ?_⟩
      have carried := heads head (same.heads ▸ member)
      exact ⟨same.size ▸ carried.known, carried.regular, same.place head.node ▸ carried.waiting⟩
    have counted : ∃ counted : Stack σ, counted.Regular language source ∧
      (∀ version, counted.footing version = folded.footing version) ∧
        counted.heads.size = folded.heads.size ∧ counted.remove second = merged := by
      split at done
      · refine ⟨_, ?_, ?_, ?_, Option.some.inj done⟩
        · exact sound.modifyHead ⟨rfl, .inl rfl⟩
        · exact fun version => folded.footing_modifyHead first version (fun _ => rfl) rfl
        · exact folded.size_modifyHead first
      · exact ⟨folded, sound, fun _ => rfl, rfl, Option.some.inj done⟩
    obtain ⟨counted, sound, footings, size, rfl⟩ := counted
    refine ⟨sound.remove second, fun version => ?_, ?_⟩
    · rw [footing_remove, footings, same.footing]
    · rw [← same.heads, ← size]
      exact counted.size_remove second
  · cases done

end Merging

end Stack

end SourceAtlas.Syntax
