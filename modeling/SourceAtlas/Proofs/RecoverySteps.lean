import SourceAtlas.Proofs.ParserSteps
import SourceAtlas.Syntax.Recovery

/-! The invariant of a parse through the recovery from errors, and through whole runs: whatever the parser
finishes stands for a whole text, or costs something. -/
namespace SourceAtlas.Syntax.Parser
variable {σ : Type} {setting : Setting σ} {root final : Nat} {parser : Parser σ} {version : Nat}

section Looking

/-- Only what does not count for the invariant has changed. -/
structure Steady (setting : Setting σ) (root : Nat) (old parser : Parser σ) : Prop where
  valid : Valid setting root parser
  size : parser.stack.heads.size = old.stack.heads.size
  footing : ∀ version, parser.stack.footing version = old.stack.footing version

theorem Valid.steady (valid : Valid setting root parser) : Steady setting root parser parser :=
  ⟨valid, rfl, fun _ => rfl⟩

theorem Steady.trans {first second third : Parser σ} (lower : Steady setting root first second)
    (upper : Steady setting root second third) : Steady setting root first third :=
  ⟨upper.valid, upper.size.trans lower.size, fun version => (upper.footing version).trans (lower.footing version)⟩

theorem Steady.keeps {old : Parser σ} (steady : Steady setting root old parser) (version : Nat) :
    Keeps version old parser :=
  ⟨Nat.le_of_eq steady.size.symm, fun other _ _ => steady.footing other⟩

/-- Only readings from a number on have changed, or are new. -/
structure Above (setting : Setting σ) (root base : Nat) (old parser : Parser σ) : Prop where
  valid : Valid setting root parser
  count : old.stack.heads.size ≤ parser.stack.heads.size
  kept : ∀ version < base, parser.stack.footing version = old.stack.footing version

theorem Valid.above (valid : Valid setting root parser) (base : Nat) : Above setting root base parser parser :=
  ⟨valid, Nat.le_refl _, fun _ _ => rfl⟩

theorem Above.trans {base : Nat} {first second third : Parser σ} (lower : Above setting root base first second)
    (upper : Above setting root base second third) : Above setting root base first third :=
  ⟨upper.valid, Nat.le_trans lower.count upper.count,
    fun version bound => (upper.kept version bound).trans (lower.kept version bound)⟩

theorem Above.lower {base below : Nat} {old : Parser σ} (above : Above setting root base old parser) (le : below ≤ base) :
    Above setting root below old parser :=
  { above with kept := fun version bound => above.kept version (Nat.lt_of_lt_of_le bound le) }

theorem Steady.above {old : Parser σ} (steady : Steady setting root old parser) (base : Nat) :
    Above setting root base old parser :=
  ⟨steady.valid, Nat.le_of_eq steady.size.symm, fun version _ => steady.footing version⟩

theorem Valid.modifyHead (valid : Valid setting root parser) (version : Nat) (change : Head σ → Head σ)
    (node : ∀ head, (change head).node = head.node) (status : ∀ head, (change head).status = head.status) :
    Steady setting root parser { parser with stack := parser.stack.modifyHead version change } :=
  ⟨valid.of_stack (valid.stack.modifyHead ⟨node _, .inl (status _)⟩), parser.stack.size_modifyHead version,
    fun other => parser.stack.footing_modifyHead version other node (by rw [status])⟩

theorem Valid.halt (valid : Valid setting root parser) (version : Nat) :
    Valid setting root { parser with stack := parser.stack.halt version } :=
  valid.of_stack (valid.stack.modifyHead ⟨rfl, .inr (.inl rfl)⟩)

theorem Valid.halt_leaves (valid : Valid setting root parser) (version : Nat) :
    Leaves (modifyStack (·.halt version)) parser fun _ next => Valid setting root next ∧ Keeps version parser next :=
  ⟨valid.halt version, Nat.le_of_eq (parser.stack.size_modifyHead version).symm,
    fun other _ different => (parser.stack.footing_halt version other).2.2 different⟩

theorem Valid.nodesSinceError (valid : Valid setting root parser) (version : Nat) :
    Leaves (nodesSinceError version) parser fun _ next => Steady setting root parser next :=
  valid.modifyHead version _ (fun _ => rfl) fun _ => rfl

theorem Leaves.anyM {β : Type} (Holds : Parser σ → Prop) {items : List β} {step : β → ParseM σ Bool}
    (each : ∀ item parser, Holds parser → Leaves (step item) parser fun _ next => Holds next) (start : Holds parser) :
    Leaves (items.anyM step) parser fun _ next => Holds next := by
  induction items generalizing parser with
  | nil => exact start
  | cons item items ih =>
    rw [List.anyM]
    apply Leaves.bind
    refine (each item parser start).imp fun found next holds => ?_
    cases found with
    | true => exact holds
    | false => exact ih holds

theorem Valid.standing (valid : Valid setting root parser) (version : Nat) :
    Leaves (standing version) parser fun _ next => Steady setting root parser next :=
  Leaves.bind (valid.nodesSinceError version)

variable [BEq σ]

theorem Valid.isBeaten (valid : Valid setting root parser) (version cost : Nat) :
    Leaves (isBeaten version cost) parser fun _ next => Steady setting root parser next := by
  unfold Parser.isBeaten
  apply Leaves.bind
  apply Leaves.get
  split
  · exact valid.steady
  · apply Leaves.bind
    refine (valid.nodesSinceError version).imp fun nodeCount counted steady => ?_
    apply Leaves.bind
    apply Leaves.get
    refine Leaves.anyM (Steady setting root parser) (fun other next steady => ?_) steady
    apply Leaves.bind
    apply Leaves.get
    dsimp only
    split
    · exact steady
    · apply Leaves.bind
      refine (steady.valid.standing other).imp fun standing next further => ?_
      split <;> exact steady.trans further

end Looking

section Rules

/-- The readings that were there are unchanged, and those behind them go on from a place. -/
structure Grown (setting : Setting σ) (root place : Nat) (old parser : Parser σ) : Prop where
  valid : Valid setting root parser
  count : old.stack.heads.size ≤ parser.stack.heads.size
  kept : ∀ version < old.stack.heads.size, parser.stack.footing version = old.stack.footing version
  stands : ∀ version, old.stack.heads.size ≤ version → version < parser.stack.heads.size →
    (parser.stack.footing version).Stands place

theorem Valid.grown (valid : Valid setting root parser) (place : Nat) : Grown setting root place parser parser :=
  ⟨valid, Nat.le_refl _, fun _ _ => rfl, fun _ low high => by omega⟩

theorem Grown.trans {place : Nat} {first second third : Parser σ} (lower : Grown setting root place first second)
    (upper : Grown setting root place second third) : Grown setting root place first third where
  valid := upper.valid
  count := Nat.le_trans lower.count upper.count
  kept version bound := by rw [upper.kept version (Nat.lt_of_lt_of_le bound lower.count), lower.kept version bound]
  stands version low high := by
    by_cases old : version < second.stack.heads.size
    · rw [upper.kept version old]
      exact lower.stands version low old
    · exact upper.stands version (Nat.not_lt.mp old) high

theorem Reduced.grown {old : Parser σ} {place : Nat}
    (reduced : Reduced setting root old.stack.heads.size place old parser) :
    Grown setting root place old parser := by
  refine ⟨reduced.valid, reduced.count, reduced.kept, fun version low high => ?_⟩
  obtain ⟨live, here, -⟩ := reduced.added version low high
  exact ⟨live, here⟩

theorem reduce_mem_of_possible {language : Language σ} {state : Nat} {tokens : List Nat} {rule : Rule}
    (member : rule ∈ (possibleActions language state tokens).1) :
    ∃ token, .reduce rule ∈ language.actions state token := by
  let Listed : List Rule × Bool → Prop := fun found =>
    ∀ rule ∈ found.1, ∃ token, .reduce rule ∈ language.actions state token
  have all : Listed (possibleActions language state tokens) := by
    unfold possibleActions
    refine List.foldlRecOn tokens _ (fun _ none => by cases none) fun found listed token _ => ?_
    refine List.foldlRecOn (language.actions state token) _ listed fun found listed action known => ?_
    cases action with
    | reduce rule =>
      dsimp only
      split
      · exact listed
      · intro other member
        rcases List.mem_append.mp member with old | new
        · exact listed other old
        · rw [List.mem_singleton.mp new]
          exact ⟨token, known⟩
    | shift target repeating => exact listed
    | shiftExtra => exact listed
    | accept => exact listed
    | recover => exact listed
  exact all rule member

/-- While rules are tried, the readings below a floor stay as they are, but for the one it starts with, and all
others go on from the place of that one. -/
structure Tried (setting : Setting σ) (root floor starting place : Nat) (old parser : Parser σ) : Prop where
  valid : Valid setting root parser
  count : floor ≤ parser.stack.heads.size
  kept : ∀ version < floor, version ≠ starting → parser.stack.footing version = old.stack.footing version
  stands : ∀ version < parser.stack.heads.size, floor ≤ version ∨ version = starting →
    (parser.stack.footing version).Stands place

section Tried
variable {floor starting place : Nat} {old next : Parser σ} (tried : Tried setting root floor starting place old parser)
include tried

theorem Tried.grown (grown : Grown setting root place parser next) :
    Tried setting root floor starting place old next where
  valid := grown.valid
  count := Nat.le_trans tried.count grown.count
  kept version bound different := by
    rw [grown.kept version (Nat.lt_of_lt_of_le bound tried.count), tried.kept version bound different]
  stands version bound above := by
    by_cases known : version < parser.stack.heads.size
    · rw [grown.kept version known]
      exact tried.stands version known above
    · exact grown.stands version (Nat.not_lt.mp known) bound

theorem Tried.without (bound : version < parser.stack.heads.size) (above : floor ≤ version)
    (without : Without setting root version parser next) : Tried setting root floor starting place old next := by
  have size := without.size
  rw [if_pos bound] at size
  refine ⟨without.valid, by omega, fun other below different => ?_, fun other known above => ?_⟩
  · rw [without.footing, if_pos (by omega), tried.kept other below different]
  · rw [without.footing]
    apply tried.stands
    · split <;> omega
    · split
      · exact above
      · omega

theorem Tried.renumber {result : Nat} (after : version < result) (bound : result < parser.stack.heads.size)
    (high : floor ≤ result) (above : floor ≤ version ∨ version = starting) :
    Tried setting root floor starting place old { parser with stack := parser.stack.renumber result version } := by
  have size := parser.stack.size_renumber after bound
  refine ⟨tried.valid.of_stack (tried.valid.stack.renumber _ _), ?_, fun other below different => ?_,
    fun other known above => ?_⟩
  · dsimp only
    omega
  · dsimp only
    rw [parser.stack.footing_renumber other after bound, if_neg (by omega), if_pos (by omega),
      tried.kept other below different]
  · dsimp only at known ⊢
    rw [parser.stack.footing_renumber other after bound]
    apply tried.stands
    · split
      · exact bound
      · split <;> omega
    · split
      · exact .inl high
      · split
        · exact above
        · omega

end Tried

variable [BEq σ] (orderly : setting.language.Orderly root final)
include orderly

theorem Valid.reduceAll (valid : Valid setting root parser) (bound : version < parser.stack.heads.size)
    (live : (parser.stack.footing version).live = true) {rules : List Rule}
    (listed : ∀ rule ∈ rules, ∃ token,
      .reduce rule ∈ setting.language.actions (parser.stack.footing version).state token) :
    Leaves (rules.mapM (Parser.reduce setting version)) parser fun results next =>
      Grown setting root (parser.stack.footing version).place parser next ∧
      ∀ made, results.getLast?.join = some made → parser.stack.heads.size ≤ made ∧ made < next.stack.heads.size := by
  induction rules generalizing parser with
  | nil => exact ⟨valid.grown _, nofun⟩
  | cons rule rules ih =>
    obtain ⟨⟨token, here⟩, later⟩ := List.forall_mem_cons.mp listed
    have alive : (parser.stack.footing version).state ≠ 0 := fun error => orderly.idle (error ▸ here)
    rw [List.mapM_cons]
    apply Leaves.bind
    refine (valid.reduce orderly ⟨_, _, here⟩ live alive).imp ?_
    rintro first middle ⟨reduced, made⟩
    have same := reduced.kept version bound
    apply Leaves.bind
    refine (ih reduced.valid (Nat.lt_of_lt_of_le bound reduced.count) (same ▸ live) (same ▸ later)).imp ?_
    rintro others next ⟨grown, last⟩
    refine ⟨reduced.grown.trans (same ▸ grown), fun index known => ?_⟩
    change ((first :: others).getLast?).join = some index at known
    cases others with
    | nil =>
      obtain ⟨rfl, room⟩ := made index known
      exact ⟨Nat.le_refl _, Nat.lt_of_lt_of_le room grown.count⟩
    | cons second others =>
      rw [List.getLast?_cons_cons] at known
      obtain ⟨low, high⟩ := last index known
      exact ⟨Nat.le_trans reduced.count low, high⟩

theorem Tried.applyPossibleRules {floor starting place initial : Nat} {old : Parser σ} {tokens : List Nat} {exact : Bool}
    (tried : Tried setting root floor starting place old parser) (low : floor ≤ initial)
    (exactly : exact = true → floor ≤ starting)
    {fuel round : Nat} {shifts : Bool} (above : floor ≤ version ∨ version = starting) :
    Leaves (applyPossibleRules setting starting tokens exact initial fuel version round shifts) parser fun _ next =>
      Tried setting root floor starting place old next := by
  induction fuel generalizing parser version round shifts with
  | zero => exact tried
  | succ fuel ih =>
    unfold Parser.applyPossibleRules
    apply Leaves.bind
    apply Leaves.ofStack
    dsimp only
    split
    · exact tried
    · rename_i room
      have bound : version < parser.stack.heads.size := Nat.not_le.mp room
      -- The reading it starts with is below all candidates, so that it is merged into none.
      have merging : Leaves (mergeInto ((List.range version).filter (initial ≤ ·)) version) parser fun merged next =>
          if merged then floor ≤ version ∧ Without setting root version parser next else next = parser := by
        by_cases high : floor ≤ version
        · refine (tried.valid.mergeInto _ version).imp fun merged next result => ?_
          cases merged with
          | true => exact ⟨high, result⟩
          | false => exact result
        · have none : (List.range version).filter (initial ≤ ·) = [] := by
            simp only [List.filter_eq_nil_iff, List.mem_range, decide_eq_true_eq]
            omega
          rw [none]
          exact rfl
      apply Leaves.bind
      refine merging.imp fun merged next result => ?_
      cases merged with
      | true =>
        obtain ⟨high, without⟩ := result
        exact ih (tried.without bound high without) (.inl high)
      | false =>
        obtain rfl := result
        apply Leaves.bind
        apply Leaves.ofStack
        apply Leaves.bind
        have stands := tried.stands version bound above
        refine (tried.valid.reduceAll orderly bound stands.live fun rule => reduce_mem_of_possible).imp ?_
        rintro results grown ⟨growth, made⟩
        rw [stands.place] at growth
        have further := tried.grown growth
        have after : floor ≤ (if version == starting then next.stack.heads.size else version + 1) := by
          split
          · exact tried.count
          · rename_i different
            rw [beq_iff_eq] at different
            omega
        have dropped : exact = true → Tried setting root floor starting place old
            { grown with stack := grown.stack.remove version } := by
          intro drops
          have floors := exactly drops
          exact further.without (Nat.lt_of_lt_of_le bound growth.count) (by omega) (growth.valid.remove version)
        split
        · exact ih further (.inl after)
        · split
          · rename_i result known
            obtain ⟨low, high⟩ := made result known
            have floors := tried.count
            split
            · apply Leaves.bind
              apply Leaves.modifyStack
              exact ih (further.renumber (by omega) high (by omega) above) above
            · split
              · rename_i drops
                exact ih (dropped drops) (.inl after)
              · exact ih further (.inl after)
          · split
            · rename_i drops
              exact ih (dropped drops) (.inl after)
            · exact ih further (.inl after)

theorem Valid.applyRulesForAny (valid : Valid setting root parser) (live : (parser.stack.footing version).live = true) :
    Leaves (applyRulesForAny setting version) parser fun _ next =>
      Tried setting root parser.stack.heads.size version (parser.stack.footing version).place parser next := by
  unfold Parser.applyRulesForAny
  apply Leaves.bind
  apply Leaves.ofStack
  have start : Tried setting root parser.stack.heads.size version (parser.stack.footing version).place parser parser := by
    refine ⟨valid, Nat.le_refl _, fun _ _ _ => rfl, fun other bound above => ?_⟩
    obtain rfl : other = version := by omega
    exact ⟨live, rfl⟩
  exact start.applyPossibleRules orderly (Nat.le_refl _) (by intro wrong; cases wrong) (.inr rfl)

theorem Valid.applyRulesFor (valid : Valid setting root parser) (last : parser.stack.heads.size = version + 1)
    (live : (parser.stack.footing version).live = true) (token : Nat) :
    Leaves (applyRulesFor setting version token) parser fun _ next =>
      Tried setting root version version (parser.stack.footing version).place parser next := by
  unfold Parser.applyRulesFor
  apply Leaves.bind
  apply Leaves.ofStack
  split
  · refine (valid.applyRulesForAny orderly live).imp fun _ next tried => ?_
    have count := tried.count
    refine ⟨tried.valid, by omega, fun other below different => tried.kept other (by omega) different,
      fun other bound above => ?_⟩
    exact tried.stands other bound (by omega)
  · have start : Tried setting root version version (parser.stack.footing version).place parser parser := by
      refine ⟨valid, by omega, fun _ _ _ => rfl, fun other bound above => ?_⟩
      obtain rfl : other = version := by omega
      exact ⟨live, rfl⟩
    exact start.applyPossibleRules orderly (by omega) (fun _ => Nat.le_refl _) (.inr rfl)

end Rules

section Missing

theorem moves_of_shiftState {language : Language σ} {state token : Nat} (goes : language.shiftState state token ≠ 0)
    (leaves : language.shiftState state token ≠ state) :
    language.Moves state token (language.shiftState state token) := by
  unfold Language.shiftState at goes leaves ⊢
  cases last : (language.actions state token).getLast? with
  | none =>
    rw [last] at goes
    exact absurd rfl goes
  | some action =>
    rw [last] at goes leaves
    cases action with
    | shift target repeating => exact .shift (List.mem_of_getLast? last)
    | shiftExtra => exact absurd rfl leaves
    | reduce rule => exact absurd rfl goes
    | accept => exact absurd rfl goes
    | recover => exact absurd rfl goes

theorem step_missing {state place token next : Nat} (inside : place ≤ setting.source.size) (real : 0 < token)
    (known : token < setting.language.tokenCount) (moves : setting.language.Moves state token next) :
    Step setting.language setting.source state place (Tree.ofMissing setting.language token place) next place where
  sound := sound_missing inside known
  stop := rfl
  origin := rfl
  moves := by
    refine .inr (.inr ⟨?_, token, rfl, moves⟩)
    exact decide_eq_false fun last => Nat.ne_of_gt real (Label.symbol.inj last)
  heeds _ free := by cases free

/-- Readings may have met an error, but none of them was given up or has moved. -/
structure Alive (setting : Setting σ) (root : Nat) (old parser : Parser σ) : Prop where
  valid : Valid setting root parser
  count : old.stack.heads.size ≤ parser.stack.heads.size
  stands : ∀ version < old.stack.heads.size, ∀ {place : Nat}, (old.stack.footing version).Stands place →
    (parser.stack.footing version).Stands place

theorem Alive.trans {first second third : Parser σ} (lower : Alive setting root first second)
    (upper : Alive setting root second third) : Alive setting root first third :=
  ⟨upper.valid, Nat.le_trans lower.count upper.count, fun version bound _ stands =>
    upper.stands version (Nat.lt_of_lt_of_le bound lower.count) (lower.stands version bound stands)⟩

theorem Valid.push_mark (valid : Valid setting root parser) (live : (parser.stack.footing version).live = true) :
    Alive setting root parser { parser with stack := parser.stack.push version none 0 } := by
  refine ⟨valid.of_stack (valid.stack.push_mark live), Nat.le_of_eq (Stack.size_push ..).symm,
    fun other bound place stands => ?_⟩
  dsimp only
  by_cases same : other = version
  · subst same
    rw [parser.stack.footing_push_self none 0 bound]
    exact ⟨stands.live, stands.place⟩
  · rw [valid.stack.footing_push same]
    exact stands

variable [BEq σ] (orderly : setting.language.Orderly root final)
include orderly

/-- A missing token is put on a copy of the reading; the reading itself stays as it is. -/
theorem Valid.insertMissing (valid : Valid setting root parser) (bound : version < parser.stack.heads.size)
    {place : Nat} (stands : (parser.stack.footing version).Stands place) (lookahead : Tree σ) {tokens : List Nat}
    (known : ∀ token ∈ tokens, 0 < token ∧ token < setting.language.tokenCount) :
    Leaves (insertMissing setting version place lookahead tokens) parser fun _ next =>
      Above setting root parser.stack.heads.size parser next := by
  induction tokens generalizing parser with
  | nil => exact valid.above _
  | cons token tokens ih =>
    obtain ⟨⟨real, small⟩, later⟩ := List.forall_mem_cons.mp known
    unfold Parser.insertMissing
    apply Leaves.bind
    apply Leaves.ofStack
    dsimp only
    generalize lookahead.token? = found
    cases found with
    | none =>
      rw [if_pos (by simp)]
      exact ih valid bound stands later
    | some id =>
      dsimp only
      split
      · exact ih valid bound stands later
      · rename_i usable
        simp only [Bool.or_eq_true, beq_iff_eq, not_or] at usable
        obtain ⟨⟨goes, leaves⟩, -⟩ := usable
        have own : (parser.stack.copy version).footing parser.stack.heads.size = parser.stack.footing version := by
          rw [parser.stack.footing_copy, if_pos rfl]
        have step := step_missing (Nat.le_trans (Nat.le_of_eq stands.place.symm) (valid.stack.place_le version)) real
          small (moves_of_shiftState goes leaves)
        have copied := valid.stack.copy version
        have size : (parser.stack.copy version).heads.size = parser.stack.heads.size + 1 := Array.size_push ..
        generalize Tree.ofMissing setting.language token place = tree at step
        generalize setting.language.shiftState (parser.stack.state version) token = after at step
        have stop := step.stop
        have pushed : ((parser.stack.copy version).push parser.stack.heads.size (some tree) after).Regular
            setting.language setting.source :=
          copied.push_tree (own.symm ▸ stands.live) (by rw [own, stands.place, stop]; exact step)
        have pushedSize := (parser.stack.copy version).size_push parser.stack.heads.size (some tree) after
        have pushedOwn := (parser.stack.copy version).footing_push_self (some tree) after
          (show parser.stack.heads.size < _ by omega)
        have others : ∀ other < parser.stack.heads.size,
            ((parser.stack.copy version).push parser.stack.heads.size (some tree) after).footing other =
                parser.stack.footing other := by
          intro other below
          rw [copied.footing_push (Nat.ne_of_lt below), parser.stack.footing_copy, if_neg (Nat.ne_of_lt below)]
        apply Leaves.bind
        apply Leaves.ofStack
        apply Leaves.bind
        apply Leaves.modifyStack
        apply Leaves.bind
        apply Leaves.modifyStack
        apply Leaves.bind
        refine ((valid.of_stack pushed).applyRulesFor orderly (pushedSize.trans size) ?_ _).imp
          fun shifts next tried => ?_
        · rw [pushedOwn, own]
          exact stands.live
        · have above : Above setting root parser.stack.heads.size parser next := by
            refine ⟨tried.valid, tried.count, fun other below => ?_⟩
            rw [tried.kept other below (Nat.ne_of_lt below)]
            exact others other below
          split
          · exact above
          · refine (ih tried.valid (Nat.lt_of_lt_of_le bound tried.count) ((above.kept version bound).symm ▸ stands)
              later).imp ?_
            exact fun _ last further => above.trans (further.lower tried.count)

theorem Valid.markErrors (valid : Valid setting root parser) {place : Nat} (lookahead : Tree σ) {versions : List Nat}
    {inserted : Bool} (known : ∀ version ∈ versions,
      version < parser.stack.heads.size ∧ (parser.stack.footing version).Stands place) :
    Leaves (markErrors setting place lookahead versions inserted) parser fun _ next =>
      Alive setting root parser next := by
  induction versions generalizing parser inserted with
  | nil => exact ⟨valid, Nat.le_refl _, fun _ _ _ stands => stands⟩
  | cons version versions ih =>
    obtain ⟨⟨bound, stands⟩, later⟩ := List.forall_mem_cons.mp known
    have marked : ∀ {next : Parser σ} {inserted : Bool}, Alive setting root parser next → Leaves (do
        Parser.modifyStack (·.push version none 0)
        Parser.markErrors setting place lookahead versions inserted) next fun _ last =>
          Alive setting root parser last := by
      intro next inserted alive
      have mark := alive.trans (alive.valid.push_mark (alive.stands version bound stands).live)
      refine (ih mark.valid fun other member => ?_).imp fun _ last further => mark.trans further
      obtain ⟨bound, stands⟩ := later other member
      exact ⟨Nat.lt_of_lt_of_le bound mark.count, mark.stands other bound stands⟩
    have tokens : ∀ token ∈ (List.range setting.language.tokenCount).drop 1,
        0 < token ∧ token < setting.language.tokenCount := by
      intro token member
      obtain ⟨index, bound, rfl⟩ := List.mem_iff_getElem.mp member
      simp only [List.length_drop, List.length_range] at bound
      simp only [List.getElem_drop, List.getElem_range]
      omega
    unfold Parser.markErrors
    dsimp only
    split
    · exact marked ⟨valid, Nat.le_refl _, fun _ _ _ stands => stands⟩
    · apply Leaves.bind
      refine (valid.insertMissing orderly bound stands lookahead tokens).imp fun found next above => ?_
      exact marked ⟨above.valid, above.count, fun other below _ stands => (above.kept other below).symm ▸ stands⟩

end Missing

section Returning

/-- The extras at the end of what is skipped come from the last slice, if the trees before it end in no extra. -/
theorem splitExtras_append {before : List (Tree σ)} (ends : ∀ last, before.getLast? = some last → last.extra = false)
    (trees : List (Tree σ)) : ∃ middle extras, Tree.splitExtras (before ++ trees) = (before ++ middle, extras) ∧
      trees = middle ++ extras ∧ (∀ tree ∈ extras, tree.extra = true) ∧
      ∀ last, (before ++ middle).getLast? = some last → last.extra = false := by
  obtain ⟨parts, extras, split, whole, aside, plain⟩ := splitExtras_eq (before ++ trees)
  rcases List.append_eq_append_iff.mp whole with ⟨middle, rfl, rest⟩ | ⟨more, rfl, rest⟩
  · exact ⟨middle, extras, split, rest, aside, plain⟩
  · cases last : more.getLast? with
    | none =>
      obtain rfl := List.getLast?_eq_none_iff.mp last
      refine ⟨[], extras, by simpa using split, by simpa using rest.symm, aside, by simpa using plain⟩
    | some tree =>
      have extra := aside tree (rest ▸ List.mem_append_left _ (List.mem_of_getLast? last))
      rw [ends tree (by rw [List.getLast?_append, last]; rfl)] at extra
      cases extra

theorem Valid.pushError (valid : Valid setting root parser) (bound : version < parser.stack.heads.size)
    (live : (parser.stack.footing version).live = true) {skipped extras : List (Tree σ)} {reached stop : Nat}
    (chain : Chain (parser.stack.footing version).place skipped reached)
    (measured : ∀ tree ∈ skipped, Measured setting.source tree)
    (plain : ∀ last, skipped.getLast? = some last → last.extra = false)
    (aside : Aside setting.language setting.source reached extras stop) {next : Stack σ}
    (pushed : next = parser.stack.pushAll version
      ((if skipped.isEmpty then [] else [Tree.error true (parser.stack.place version) skipped]) ++ extras)
      (parser.stack.footing version).state) :
    Valid setting root { parser with stack := next } ∧ Keeps version parser { parser with stack := next } := by
  have inside := valid.stack.place_le version
  cases ends : skipped.getLast? with
  | none =>
    obtain rfl := List.getLast?_eq_none_iff.mp ends
    cases chain
    obtain ⟨regular, size, -, others⟩ := valid.stack.pushAll bound rfl live aside
    subst pushed
    exact ⟨valid.of_stack regular, Nat.le_of_eq size.symm, fun other _ => others other⟩
  | some last =>
    have nonempty : skipped.isEmpty = false := by
      cases skipped with
      | nil => cases ends
      | cons => rfl
    rw [nonempty] at pushed
    generalize made : Tree.error true (parser.stack.place version) skipped = error at pushed
    have known : Sound setting.language setting.source error :=
      made ▸ sound_error inside chain measured ends (plain last ends)
    have extra : error.extra = true := by
      rw [← made, Tree.error, Tree.extra_withExtra]
    have origin : error.facts.origin = (parser.stack.footing version).place := by
      rw [← made, Tree.error, Tree.origin_withExtra]
      exact Tree.origin_of_chain chain fun _ => rfl
    have stops : error.facts.stop = reached := by
      rw [← made, Tree.error, Tree.stop_withExtra]
      exact Tree.stop_of_chain chain fun _ => rfl
    have all : Aside setting.language setting.source (parser.stack.footing version).place (error :: extras) stop :=
      ⟨extra, known, origin, stops.symm ▸ aside⟩
    obtain ⟨regular, size, -, others⟩ := valid.stack.pushAll bound rfl live all
    subst pushed
    exact ⟨valid.of_stack regular, Nat.le_of_eq size.symm, fun other _ => others other⟩

theorem Valid.dropHalted (valid : Valid setting root parser) {first : Nat} (low : first ≤ parser.stack.heads.size) :
    Leaves (dropHalted first) parser fun _ next => Valid setting root next ∧ first ≤ next.stack.heads.size ∧
      ∀ version < first, next.stack.footing version = parser.stack.footing version := by
  let kept := (parser.stack.heads.toList.drop first).filter (·.status.isActive)
  have subset : ∀ head ∈ (parser.stack.heads.toList.take first ++ kept).toArray, head ∈ parser.stack.heads := by
    intro head member
    rw [List.mem_toArray] at member
    rcases List.mem_append.mp member with early | late
    · exact Array.mem_toList_iff.mp (List.mem_of_mem_take early)
    · exact Array.mem_toList_iff.mp (List.mem_of_mem_drop (List.mem_filter.mp late).1)
  have length : (parser.stack.heads.toList.take first).length = first := by
    rw [List.length_take, Array.length_toList]
    omega
  refine ⟨valid.of_stack (valid.stack.of_subset subset), ?_, fun version bound => ?_⟩
  · change first ≤ (parser.stack.heads.toList.take first ++ kept).toArray.size
    rw [List.size_toArray, List.length_append, length]
    omega
  · have same : (parser.stack.heads.toList.take first ++ kept).toArray.getD version default =
        parser.stack.head version := by
      rw [Stack.head, Array.getD_eq_getD_getElem?, Array.getD_eq_getD_getElem?, List.getElem?_toArray,
        List.getElem?_append_left (by omega), List.getElem?_take_of_lt bound, Array.getElem?_toList]
    apply Stack.footing_congr
    · rfl
    · exact congrArg Head.node same
    · exact congrArg (fun head => head.status.isActive) same

variable (orderly : setting.language.Orderly root final)
include orderly

/-- A slice is taken back to the state it came from: what it holds, and an error that was there before it, are skipped. -/
theorem Valid.returnSlice (valid : Valid setting root parser) {goal state place : Nat} (alive : goal ≠ 0)
    (bound : version < parser.stack.heads.size) (same : (parser.stack.footing version).state = goal)
    {trees : List (Tree σ)}
    (climb : Climb setting.language setting.source (parser.stack.footing version).state
      (parser.stack.footing version).place
      trees state place) {uncovered : Stack σ} {error : Option (Tree σ)}
    (below : parser.stack.Uncovered setting.language setting.source version uncovered error)
    {skipped extras : List (Tree σ)}
    (split : Tree.splitExtras ((error.map (·.children)).getD [] ++ trees) = (skipped, extras))
    {next : Stack σ} (pushed : next = uncovered.pushAll version
      ((if skipped.isEmpty then [] else [Tree.error true (uncovered.place version) skipped]) ++ extras)
      goal) :
    Valid setting root { parser with stack := next } ∧ Keeps version parser { parser with stack := next } := by
  generalize children : (error.map (·.children)).getD [] = before at split
  -- The error that was taken off ends where the slice begins, and in no extra.
  have earlier : (uncovered.footing version).state = goal ∧ (∀ tree ∈ before, Measured setting.source tree) ∧
      (∀ last, before.getLast? = some last → last.extra = false) ∧
      Chain (uncovered.footing version).place before (parser.stack.footing version).place := by
    cases error with
    | none =>
      subst children
      rw [below.unchanged rfl]
      exact ⟨same, by simp, by simp, .nil⟩
    | some tree =>
      subst children
      obtain ⟨label, under⟩ := below.climbs tree rfl
      have sound := under.sound tree (List.mem_singleton.mpr rfl)
      obtain ⟨-, last, ends, plain, -⟩ := sound.error label
      refine ⟨(under.of_error_tree orderly (same.symm ▸ alive) label).trans same, fun child => sound.measured.child, ?_, ?_⟩
      · intro other known
        obtain rfl := Option.some.inj (ends.symm.trans known)
        exact plain
      · have inner := sound.measured.chain fun none => by simp [none] at ends
        obtain ⟨origin, stop⟩ := under.chain.of_single
        exact origin ▸ stop ▸ inner
  obtain ⟨state_eq, measured, plain, chain⟩ := earlier
  obtain ⟨middle, others, parts, rfl, aside, plainAll⟩ := splitExtras_append plain trees
  obtain ⟨rfl, rfl⟩ := Prod.mk.inj (parts.symm.trans split)
  obtain ⟨_, reached, lower, upper⟩ := climb.split
  have valid' : Valid setting root { parser with stack := uncovered } := valid.of_stack below.regular
  have keeps : Keeps version parser { parser with stack := uncovered } := ⟨below.count, below.kept⟩
  have measuredAll : ∀ tree ∈ before ++ middle, Measured setting.source tree := by
    intro tree member
    rcases List.mem_append.mp member with old | new
    · exact measured tree old
    · exact (lower.sound tree new).measured
  obtain ⟨done, kept⟩ := valid'.pushError (Nat.lt_of_lt_of_le bound below.count) below.live (chain.append lower.chain)
    measuredAll plainAll (upper.aside aside) (state_eq.symm ▸ pushed)
  exact ⟨done, keeps.trans kept⟩

theorem returnTo_go_leaves (valid : Valid setting root parser) {base state place goal : Nat} (alive : goal ≠ 0)
    {slices : List (Slice σ)} {previous : Option Nat}
    (sorted : slices.Pairwise fun first second => first.head ≤ second.head)
    (range : ∀ slice ∈ slices, base ≤ slice.head ∧ slice.head < parser.stack.heads.size)
    (done : ∀ head, previous = some head → ∀ slice ∈ slices, head ≤ slice.head)
    (climbs : ∀ slice ∈ slices, previous ≠ some slice.head →
      Climb setting.language setting.source (parser.stack.footing slice.head).state
        (parser.stack.footing slice.head).place
        slice.trees state place ∧
      ((parser.stack.footing slice.head).state = goal → (parser.stack.footing slice.head).live = true)) :
    Leaves (returnTo.go goal slices previous) parser fun _ next => Above setting root base parser next := by
  induction slices generalizing parser previous with
  | nil => exact valid.above base
  | cons slice slices ih =>
    obtain ⟨first, sortedRest⟩ := List.pairwise_cons.mp sorted
    obtain ⟨⟨low, high⟩, rangeRest⟩ := List.forall_mem_cons.mp range
    obtain ⟨climb, climbsRest⟩ := List.forall_mem_cons.mp climbs
    unfold returnTo.go
    split
    · exact ih valid sortedRest rangeRest
        (fun head known other member => done head known other (List.mem_cons_of_mem _ member)) climbsRest
    · rename_i fresh
      obtain ⟨climb, live⟩ := climb (by simpa using fresh)
      apply Leaves.bind
      apply Leaves.ofStack
      split
      · rename_i different
        have other : (parser.stack.footing slice.head).state ≠ goal := bne_iff_ne.mp different
        have size : (parser.stack.halt slice.head).heads.size = parser.stack.heads.size :=
          parser.stack.size_modifyHead slice.head
        have footing := parser.stack.footing_halt slice.head
        apply Leaves.bind
        apply Leaves.modifyStack
        refine (ih (valid.halt slice.head) sortedRest (fun third member => ?_) (fun head known third member => ?_)
          fun third member unseen => ?_).imp fun _ next above => ?_
        · exact ⟨(rangeRest third member).1, size.symm ▸ (rangeRest third member).2⟩
        · exact done head known third (List.mem_cons_of_mem _ member)
        · obtain ⟨state, place, rest⟩ := footing third.head
          obtain ⟨climb, live⟩ := climbsRest third member unseen
          refine ⟨state.symm ▸ place.symm ▸ climb, fun goal => ?_⟩
          have apart : third.head ≠ slice.head := fun equal => other (equal ▸ state ▸ goal)
          rw [rest apart] at goal ⊢
          exact live goal
        · refine .trans ⟨valid.halt slice.head, Nat.le_of_eq size.symm, fun version below => ?_⟩ above
          exact (footing version).2.2 (by omega)
      · rename_i same
        have same : (parser.stack.footing slice.head).state = goal := by
          rw [Bool.not_eq_true, bne_eq_false_iff_eq] at same
          exact same
        have below := valid.stack.popError high (live same)
        apply Leaves.bind
        apply Leaves.ofStack
        generalize parser.stack.popError slice.head = result at below
        obtain ⟨uncovered, error⟩ := result
        apply Leaves.bind
        apply Leaves.modifyStack
        dsimp only
        generalize split : Tree.splitExtras _ = parts
        obtain ⟨skipped, extras⟩ := parts
        apply Leaves.bind
        apply Leaves.ofStack
        apply Leaves.bind
        apply Leaves.modifyStack
        obtain ⟨returned, keeps⟩ := valid.returnSlice orderly alive high same climb below split rfl
        refine (ih returned sortedRest (fun third member => ?_) (fun head known third member => ?_)
          fun third member unseen => ?_).imp fun _ next above => ?_
        · exact ⟨(rangeRest third member).1, Nat.lt_of_lt_of_le (rangeRest third member).2 keeps.count⟩
        · obtain rfl := Option.some.inj known
          exact first third member
        · have apart : third.head ≠ slice.head := fun equal => unseen (by rw [equal])
          have old : previous ≠ some third.head := by
            intro known
            have le := done third.head known slice List.mem_cons_self
            have ge := first third member
            omega
          have kept := keeps.others third.head (rangeRest third member).2 apart
          rw [kept]
          exact climbsRest third member old
        · exact .trans ⟨returned, keeps.count, fun version below => keeps.others version (by omega) (by omega)⟩ above

theorem Valid.returnTo (valid : Valid setting root parser) (live : (parser.stack.footing version).live = true)
    {goal : Nat}
    (alive : goal ≠ 0) (depth : Nat) :
    Leaves (returnTo version depth goal) parser fun _ next =>
      Above setting root parser.stack.heads.size parser next := by
  have pop := valid.stack.popCount live depth
  unfold Parser.returnTo
  apply Leaves.bind
  apply Leaves.ofStack
  generalize parser.stack.popCount version depth = result at pop
  obtain ⟨popped, slices⟩ := result
  apply Leaves.bind
  apply Leaves.modifyStack
  apply Leaves.bind
  refine (returnTo_go_leaves orderly (valid.of_stack pop.regular) alive pop.sorted pop.range
    (by intro head known; cases known) fun slice member _ => ⟨pop.climbs slice member, fun _ => ?_⟩).imp ?_
  · exact pop.live _ (pop.range slice member).1 (pop.range slice member).2
  · exact fun _ next above => .trans ⟨valid.of_stack pop.regular, pop.count, pop.kept⟩ above

variable [BEq σ]

theorem Valid.returnToLanding (valid : Valid setting root parser) (bound : version < parser.stack.heads.size)
    (live : (parser.stack.footing version).live = true) (lookahead : Tree σ) {heads sinceError cost : Nat}
    {landings : List Landing} :
    Leaves (returnToLanding setting version lookahead heads sinceError cost landings) parser fun _ next =>
      Above setting root parser.stack.heads.size parser next := by
  induction landings generalizing parser with
  | nil => exact valid.above _
  | cons landing landings ih =>
    unfold Parser.returnToLanding
    apply Leaves.bind
    apply Leaves.get
    dsimp only
    split
    · exact ih valid bound live
    · rename_i useful
      have alive : landing.state ≠ 0 := by
        simp only [Bool.or_eq_true, beq_iff_eq, not_or] at useful
        exact useful.1.1
      apply Leaves.bind
      refine (valid.isBeaten version _).imp fun beaten middle steady => ?_
      have going : ∀ {next : Parser σ}, Above setting root parser.stack.heads.size parser next →
          Leaves (Parser.returnToLanding setting version lookahead heads sinceError cost landings) next fun _ last =>
            Above setting root parser.stack.heads.size parser last := by
        intro next above
        refine (ih above.valid (Nat.lt_of_lt_of_le bound above.count) ((above.kept version bound).symm ▸ live)).imp ?_
        exact fun _ last further => above.trans (further.lower above.count)
      split
      · exact steady.above _
      · split
        · apply Leaves.bind
          refine (steady.valid.returnTo orderly ((steady.footing version).symm ▸ live) alive _).imp
            fun returned next above => ?_
          have above := (steady.above parser.stack.heads.size).trans (above.lower (Nat.le_of_eq steady.size.symm))
          split
          · exact above
          · exact going above
        · exact going (steady.above _)

end Returning

section Recovering
variable {lookahead : Tree σ}

theorem Valid.pushGathered (valid : Valid setting root parser) (live : (parser.stack.footing version).live = true)
    {place stop : Nat} (inside : place ≤ setting.source.size) {trees : List (Tree σ)} (some : trees ≠ [])
    (chain : Chain (parser.stack.footing version).place trees stop)
    (measured : ∀ tree ∈ trees, Measured setting.source tree) :
    Valid setting root { parser with stack := parser.stack.push version (.some (Tree.gathered place trees)) 0 } ∧
    Keeps version parser { parser with stack := parser.stack.push version (.some (Tree.gathered place trees)) 0 } := by
  have sound : Sound setting.language setting.source (Tree.gathered place trees) := sound_gathered inside chain measured
  have costs := (sound.gathered Tree.label_ofChildren).2
  have pushed : (parser.stack.push version (.some (Tree.gathered place trees)) 0).Regular
      setting.language setting.source :=
    valid.stack.push_tree live ⟨sound, rfl, Tree.origin_of_chain chain fun none => absurd none some, .inl rfl,
      fun _ free => absurd free (Nat.ne_of_gt costs)⟩
  exact ⟨valid.of_stack pushed, Nat.le_of_eq (Stack.size_push ..).symm,
    fun other _ different => valid.stack.footing_push different⟩

theorem Valid.skipToken (valid : Valid setting root parser) (bound : version < parser.stack.heads.size)
    (live : (parser.stack.footing version).live = true)
    (waits : Stack.Waits setting.source (parser.stack.footing version).place lookahead) (sinceError : Nat) :
    Leaves (skipToken setting version lookahead sinceError) parser fun _ next =>
      Valid setting root next ∧ Keeps version parser next := by
  have inside := valid.stack.place_le version
  unfold Parser.skipToken
  dsimp only
  generalize skipped : Tree.withExtra _ lookahead = token
  have measured : ∀ tree ∈ [token], Measured setting.source tree := by
    simpa [← skipped] using Tree.measured_withExtra _ waits.measured
  have alone : Chain (parser.stack.footing version).place [token] token.facts.stop :=
    .single (skipped ▸ (Tree.origin_withExtra ..).trans waits.origin)
  have finish : ∀ {next : Parser σ} {trees : List (Tree σ)} {stop : Nat}, Valid setting root next →
      Keeps version parser next → (next.stack.footing version).live = true → trees ≠ [] →
      Chain (next.stack.footing version).place trees stop → (∀ tree ∈ trees, Measured setting.source tree) → Leaves (do
        Parser.modifyStack (·.push version (some (Tree.gathered (parser.stack.place version) trees)) 0)
        if token.facts.memory.isSome then
          Parser.modifyStack (·.modifyHead version fun head => { head with memory := token.facts.memory }))
        next fun _ last => Valid setting root last ∧ Keeps version parser last := by
    intro next trees stop valid keeps live some chain measured
    obtain ⟨pushed, kept⟩ := valid.pushGathered live inside some chain measured
    apply Leaves.bind
    apply Leaves.modifyStack
    split
    · have steady := pushed.modifyHead version (fun head => { head with memory := token.facts.memory }) (fun _ => rfl)
        fun _ => rfl
      exact ⟨steady.valid, keeps.trans (kept.trans (steady.keeps version))⟩
    · exact ⟨pushed, keeps.trans kept⟩
  apply Leaves.bind
  apply Leaves.ofStack
  split
  · exact finish valid (.refl version parser) live (by simp) alone measured
  · apply Leaves.bind
    apply Leaves.ofStack
    have pop := valid.stack.popCount live 1
    generalize parser.stack.popCount version 1 = result at pop
    obtain ⟨popped, slices⟩ := result
    cases slices with
    | nil => exact finish valid (.refl version parser) live (by simp) alone measured
    | cons slice slices =>
      obtain ⟨low, high⟩ := pop.range slice List.mem_cons_self
      dsimp only
      apply Leaves.bind
      apply Leaves.modifyStack
      have cut := pop.regular.take (slice.head + 1)
      have size : ({ popped with heads := popped.heads.take (slice.head + 1) } : Stack σ).heads.size =
          slice.head + 1 := by
        dsimp only at high ⊢
        rw [Array.take_eq_extract, Array.size_extract]
        omega
      have footing : ∀ other < slice.head + 1,
          ({ popped with heads := popped.heads.take (slice.head + 1) } : Stack σ).footing other = popped.footing other :=
        fun other below => popped.footing_take other below
      generalize ({ popped with heads := popped.heads.take (slice.head + 1) } : Stack σ) = taken at cut size footing
      have own : (taken.renumber slice.head version).footing version = popped.footing slice.head := by
        rw [taken.footing_renumber version (by omega) (by omega), if_pos rfl, footing slice.head (by omega)]
      have climb := pop.climbs slice List.mem_cons_self
      have origin : (Tree.gathered (parser.stack.place version) [token]).facts.origin =
          (parser.stack.footing version).place := Tree.origin_of_chain alone fun _ => rfl
      refine finish (valid.of_stack (cut.renumber slice.head version)) ⟨?_, fun other below different => ?_⟩
        (own ▸ pop.live slice.head low high) (by simp) (own ▸ climb.chain.append (.single origin))
        fun tree member => ?_
      · dsimp only
        rw [taken.size_renumber (by omega) (by omega)]
        omega
      · dsimp only
        rw [taken.footing_renumber other (by omega) (by omega), if_neg different, if_pos (by omega),
          footing other (by omega)]
        exact pop.kept other below
      · rcases List.mem_append.mp member with old | new
        · exact (climb.sound tree old).measured
        · rw [List.mem_singleton.mp new]
          exact Tree.measured_ofChildren inside alone (fun plain => absurd plain (by decide)) measured

variable [BEq σ] (orderly : setting.language.Orderly root final)
include orderly

theorem Valid.recover (valid : Valid setting root parser) (bound : version < parser.stack.heads.size)
    (live : (parser.stack.footing version).live = true)
    (waits : Stack.Waits setting.source (parser.stack.footing version).place lookahead) :
    Leaves (recover setting version lookahead) parser fun _ next =>
      Valid setting root next ∧ Keeps version parser next := by
  unfold Parser.recover
  apply Leaves.bind
  apply Leaves.ofStack
  apply Leaves.bind
  refine (valid.nodesSinceError version).imp fun sinceError current steady => ?_
  have above := steady.above parser.stack.heads.size
  apply Leaves.bind
  apply Leaves.get
  dsimp only
  split
  on_goal 1 =>
    apply Leaves.bind
    apply Leaves.pure
  on_goal 2 =>
    apply Leaves.bind
    refine (above.valid.returnToLanding orderly (Nat.lt_of_lt_of_le bound above.count)
      ((above.kept version bound).symm ▸ live)
      lookahead).imp fun returned current further => ?_
    replace above := above.trans (further.lower above.count)
  -- Whether it has returned or not, the reading itself is where it was.
  all_goals
    apply Leaves.bind
    refine (above.valid.dropHalted above.count).imp ?_
    rintro - dropped ⟨valid, low, kept⟩
    have footing := (kept version bound).trans (above.kept version bound)
    have keeps : Keeps version parser dropped :=
      ⟨low, fun other below _ => (kept other below).trans (above.kept other below)⟩
    replace bound := Nat.lt_of_lt_of_le bound low
    rw [← footing] at live waits
    apply Leaves.bind
    apply Leaves.ofStack
    split
    · exact (valid.halt_leaves version).imp fun _ next ⟨done, further⟩ => ⟨done, keeps.trans further⟩
    · split
      · rename_i last
        apply Leaves.bind
        apply Leaves.ofStack
        apply Leaves.bind
        apply Leaves.modifyStack
        refine (valid.acceptError bound live waits (waits.ends (of_decide_eq_true last))).imp ?_
        exact fun _ next ⟨done, further⟩ => ⟨done, keeps.trans further⟩
      · apply Leaves.bind
        refine (valid.isBeaten version _).imp fun beaten compared steady => ?_
        split
        · refine (steady.valid.halt_leaves version).imp fun _ next ⟨done, further⟩ => ?_
          exact ⟨done, keeps.trans ((steady.keeps version).trans further)⟩
        · refine (steady.valid.skipToken (steady.size.symm ▸ bound) ((steady.footing version).symm ▸ live)
            ((steady.footing version).symm ▸ waits) _).imp ?_
          exact fun _ next ⟨done, further⟩ => ⟨done, keeps.trans ((steady.keeps version).trans further)⟩

theorem Valid.handleError (valid : Valid setting root parser) (bound : version < parser.stack.heads.size)
    (live : (parser.stack.footing version).live = true)
    (waits : Stack.Waits setting.source (parser.stack.footing version).place lookahead) :
    Leaves (handleError setting version lookahead) parser fun _ next => Valid setting root next := by
  unfold Parser.handleError
  apply Leaves.bind
  apply Leaves.ofStack
  apply Leaves.bind
  refine (valid.applyRulesForAny orderly live).imp fun _ tried trying => ?_
  apply Leaves.bind
  apply Leaves.ofStack
  apply Leaves.bind
  apply Leaves.ofStack
  have room := trying.count
  have within := Nat.lt_of_lt_of_le bound room
  apply Leaves.bind
  have own := trying.stands version within (.inr rfl)
  have here : tried.stack.place version = (parser.stack.footing version).place := own.place
  rw [here]
  refine (trying.valid.markErrors orderly lookahead fun other member => ?_).imp fun _ marked alive => ?_
  · have listed : other < tried.stack.heads.size ∧ (parser.stack.heads.size ≤ other ∨ other = version) := by
      rcases List.mem_cons.mp member with rfl | added
      · exact ⟨within, .inr rfl⟩
      · obtain ⟨index, bound, rfl⟩ := List.mem_iff_getElem.mp added
        simp only [List.length_drop, List.length_range] at bound
        simp only [List.getElem_drop, List.getElem_range]
        omega
    exact ⟨listed.1, trying.stands other listed.1 listed.2⟩
  · apply Leaves.bind
    refine (Leaves.forIn (fun next => Valid setting root next ∧ version < next.stack.heads.size ∧
      (next.stack.footing version).Stands (parser.stack.footing version).place) ?_ ?_).imp ?_
    · rintro - - current ⟨valid, room, stands⟩
      apply Leaves.bind
      refine (valid.tryMerge version parser.stack.heads.size).imp fun done next result => ?_
      cases done with
      | true =>
        have gone : Without setting root parser.stack.heads.size current next := result
        have left : version < next.stack.heads.size := by
          rw [gone.size]
          split <;> omega
        have same : next.stack.footing version = current.stack.footing version := by rw [gone.footing, if_pos bound]
        exact ⟨rfl, gone.valid, left, same.symm ▸ stands⟩
      | false =>
        obtain rfl := result
        exact ⟨rfl, valid, room, stands⟩
    · exact ⟨alive.valid, Nat.lt_of_lt_of_le within alive.count, alive.stands version within own⟩
    · rintro - merged ⟨valid, bound, stands⟩
      apply Leaves.bind
      apply Leaves.modifyStack
      have steady := valid.modifyHead version (fun head => { head with landings := some (merged.stack.landings version) })
        (fun _ => rfl) fun _ => rfl
      have footing := steady.footing version
      refine (steady.valid.recover orderly (steady.size.symm ▸ bound) (footing.symm ▸ stands.live)
        (footing.symm ▸ stands.place.symm ▸ waits)).imp ?_
      exact fun _ last done => done.1

end Recovering

end SourceAtlas.Syntax.Parser
