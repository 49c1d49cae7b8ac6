import SourceAtlas.Proofs.RecoverySteps

/-! Whole runs of the parser. Readings are thinned out and woken up, each is moved over its tokens, and what
comes of it in the end stands for a whole text, or costs something. -/
namespace SourceAtlas.Syntax.Parser
variable {σ : Type} {setting : Setting σ} {root final : Nat} {parser : Parser σ} {version : Nat}

section Condensing
variable [BEq σ]

theorem Valid.against (valid : Valid setting root parser) (own : Standing) (fuel version other : Nat) :
    Leaves (condenseFrom.against own fuel version other) parser fun _ next => Valid setting root next := by
  induction fuel generalizing parser version other with
  | zero => exact valid
  | succ fuel ih =>
    unfold condenseFrom.against
    split
    · exact valid
    · apply Leaves.bind
      refine (valid.standing other).imp fun standing compared steady => ?_
      have merging : Leaves (Parser.tryMerge other version) compared fun _ next => Valid setting root next := by
        refine (steady.valid.tryMerge other version).imp fun merged next result => ?_
        cases merged with
        | true => exact Without.valid result
        | false =>
          obtain rfl : next = compared := result
          exact steady.valid
      split
      · apply Leaves.bind
        exact (steady.valid.remove version).imp fun _ next without => without.valid
      · apply Leaves.bind
        refine merging.imp fun merged next valid => ?_
        split
        · exact valid
        · exact ih valid _ _
      · apply Leaves.bind
        refine merging.imp fun merged next valid => ?_
        split
        · exact valid
        · exact ih valid _ _
      · apply Leaves.bind
        refine merging.imp fun merged next valid => ?_
        split
        · exact valid
        · apply Leaves.bind
          apply Leaves.modifyStack
          exact ih (valid.of_stack (valid.stack.swap ..)) _ _
      · apply Leaves.bind
        exact (steady.valid.remove other).imp fun _ next without => ih without.valid _ _

theorem Valid.condenseFrom (valid : Valid setting root parser) (fuel version : Nat) (least : Option Nat) :
    Leaves (condenseFrom fuel version least) parser fun _ next => Valid setting root next := by
  induction fuel generalizing parser version least with
  | zero => exact valid
  | succ fuel ih =>
    unfold Parser.condenseFrom
    apply Leaves.bind
    apply Leaves.get
    dsimp only
    split
    · exact valid
    · split
      · apply Leaves.bind
        exact (valid.remove version).imp fun _ next without => ih without.valid _ _
      · apply Leaves.bind
        refine (valid.standing version).imp fun own counted steady => ?_
        apply Leaves.bind
        exact (steady.valid.against own _ version 0).imp fun _ next valid => ih valid _ _

variable (orderly : setting.language.Orderly root final)
include orderly

theorem Valid.resumeFrom (valid : Valid setting root parser) (fuel : Nat) {version count : Nat} {going : Bool}
    {least : Option Nat} (counted : going = false → count = parser.stack.heads.size) :
    Leaves (resumeFrom setting fuel version count going least) parser fun _ next => Valid setting root next := by
  induction fuel generalizing parser version count going least with
  | zero => exact valid
  | succ fuel ih =>
    unfold Parser.resumeFrom
    split
    · exact valid
    · rename_i more
      apply Leaves.bind
      apply Leaves.get
      dsimp only
      split
      · rename_i lookahead paused
        split
        · rename_i first
          simp only [Bool.and_eq_true, Bool.not_eq_true'] at first
          have bound : version < parser.stack.heads.size := counted first.1 ▸ Nat.not_le.mp more
          have awake : (parser.stack.head version).status.isHalted = false := by
            rw [paused]
            rfl
          apply Leaves.bind
          apply Leaves.modifyStack
          have woken : (parser.stack.modifyHead version fun head => { head with status := .active }).Regular
              setting.language setting.source :=
            valid.stack.modifyHead ⟨rfl, .inr (.inr ⟨awake, by simp⟩)⟩
          have changed : (parser.stack.modifyHead version fun head => { head with status := .active }).head version =
              { parser.stack.head version with status := .active } := by
            rw [Stack.modifyHead, Stack.head_setHead, if_pos ⟨rfl, bound⟩]
          have place : (parser.stack.modifyHead version fun head => { head with status := .active }).place version =
              parser.stack.place version := by
            rw [Stack.place, Stack.top, changed]
            rfl
          have waits := valid.stack.waiting paused
          rw [← place] at waits
          apply Leaves.bind
          refine ((valid.of_stack woken).handleError orderly ?_
            (congrArg (fun head : Head σ => head.status.isActive) changed) waits).imp fun _ next valid => ?_
          · exact (parser.stack.size_modifyHead version).symm ▸ bound
          · exact ih valid (by simp)
        · apply Leaves.bind
          refine (valid.remove version).imp fun _ next without => ih without.valid fun waiting => ?_
          rw [without.size, ← counted waiting, if_pos (Nat.not_le.mp more)]
      · exact ih valid (by simp)

theorem Valid.condense (valid : Valid setting root parser) :
    Leaves (condense setting) parser fun _ next => Valid setting root next := by
  unfold Parser.condense
  apply Leaves.bind
  refine (valid.condenseFrom _ _ _).imp fun least thinned valid => ?_
  apply Leaves.bind
  apply Leaves.modifyStack
  apply Leaves.bind
  apply Leaves.ofStack
  exact (valid.of_stack (valid.stack.take _)).resumeFrom orderly _ fun _ => rfl

end Condensing

section Running
def MayTake (setting : Setting σ) (state : Nat) (token : Tree σ) (actions : List Action) : Prop :=
  ∀ action ∈ actions, ∃ symbol, token.label = .symbol symbol ∧ action ∈ setting.language.actions state symbol

theorem mayTake_actionsFor (state : Nat) (token : Tree σ) :
    MayTake setting state token (actionsFor setting.language state token) := by
  intro action member
  unfold actionsFor at member
  split at member
  · rename_i symbol known
    exact ⟨symbol, Tree.token?_eq_some.mp known, member⟩
  · cases member

theorem Reduced.further {base place : Nat} {old middle : Parser σ} (lower : Reduced setting root base place old middle)
    (upper : Reduced setting root middle.stack.heads.size place middle parser) :
    Reduced setting root base place old parser where
  valid := upper.valid
  count := Nat.le_trans lower.count upper.count
  kept version bound := (upper.kept version (Nat.lt_of_lt_of_le bound lower.count)).trans (lower.kept version bound)
  added version low high := by
    by_cases old : version < middle.stack.heads.size
    · rw [upper.kept version old]
      exact lower.added version low old
    · exact upper.added version (Nat.not_lt.mp old) high

theorem isToken_word (readers : setting.language.ReadsWithin setting.source) {facts : Facts σ}
    {children : List (Tree σ)} {place : Nat} (visible : Bool)
    (known : IsToken setting.language setting.source place (.mk facts children)) (spelled : facts.keyword = true) :
    IsToken setting.language setting.source place
      (.mk { facts with label := .symbol setting.language.word, visible } children) where
  leaf := known.leaf
  free := known.free
  aliases := known.aliases
  origin := known.origin
  measured := by
    obtain rfl : children = [] := known.leaf
    obtain ⟨origin, start, stop, padding, size⟩ := known.measured.measures
    exact .leaf ⟨origin, start, stop, padding, size⟩
  ends label := absurd (Label.symbol.inj label) readers.word_ne
  lexed symbol label := by
    obtain rfl := Label.symbol.inj label
    exact known.keyword spelled
  keyword _ := known.keyword spelled
  spelled _ := .inl rfl
  word _ plain := absurd spelled (plain ▸ Bool.false_ne_true)

theorem heeds_word {facts : Facts σ} {children : List (Tree σ)} {place state : Nat} (visible : Bool)
    (known : IsToken setting.language setting.source place (.mk facts children)) (spelled : facts.keyword = true)
    (other : facts.label ≠ .symbol setting.language.word)
    (idle : ∀ target, .shift target false ∉ actionsFor setting.language state (.mk facts children)) :
    Heeds setting.language setting.source state
      (.mk { facts with label := .symbol setting.language.word, visible } children) := by
  intro _ keyword same
  rcases known.spelled spelled with word | ⟨symbol, label, named⟩
  · exact absurd word other
  · obtain rfl := Option.some.inj (named.symm.trans same)
    refine .inr fun target listed => idle target ?_
    rwa [actionsFor, Tree.token?_eq_some.mpr label]

theorem valid_start : Valid setting root start := by
  refine ⟨⟨(· = 0), ⟨rfl, ?_, ?_, ?_, ?_, ?_⟩, ?_⟩, nofun, nofun⟩
  · rintro id rfl
    exact Nat.one_pos
  · rintro id rfl -
    exact ⟨rfl, rfl⟩
  · rintro id rfl link member
    cases member
  · rintro id rfl link member
    cases member
  · intro id
    cases id with
    | zero => exact Nat.zero_le _
    | succ id => exact Nat.zero_le _
  · intro head member
    obtain rfl := List.mem_singleton.mp (Array.mem_toList_iff.mpr member)
    exact ⟨Nat.one_pos, fun _ => rfl, nofun⟩

/-- What comes of trying some actions: one of them took the token, or there are only the results of reductions. A plain
shift always takes it. -/
structure Attempted (setting : Setting σ) (root base version : Nat) (old : Parser σ) (actions : List Action)
    (outcome : Option (Option Nat)) (next : Parser σ) : Prop where
  taken : outcome = none → Valid setting root next ∧ Keeps version old next
  left : ∀ last, outcome = some last → Reduced setting root base (old.stack.footing version).place old next ∧
    (∀ result, last = some result → base ≤ result ∧ result < next.stack.heads.size) ∧
    ∀ target, .shift target false ∉ actions

theorem Attempted.cons {base : Nat} {old next : Parser σ} {action : Action} {actions : List Action}
    {outcome : Option (Option Nat)} (tried : Attempted setting root base version old actions outcome next)
    (other : ∀ target, action ≠ .shift target false) :
    Attempted setting root base version old (action :: actions) outcome next := by
  refine ⟨tried.taken, fun last same => ?_⟩
  obtain ⟨reduced, made, none⟩ := tried.left last same
  refine ⟨reduced, made, fun target member => ?_⟩
  exact (List.mem_cons.mp member).elim (fun same => other target same.symm) (none target)

variable [BEq σ] (orderly : setting.language.Orderly root final)
include orderly

/-- A reading takes its token, or it is reduced, and the results of that are behind all other readings. -/
theorem Reduced.tryActions {base : Nat} {old : Parser σ} {token : Tree σ} {actions : List Action} {last : Option Nat}
    (reduced : Reduced setting root base (old.stack.footing version).place old parser) (bound : version < base)
    (live : (old.stack.footing version).live = true) (size : base = old.stack.heads.size)
    (known : IsToken setting.language setting.source (old.stack.footing version).place token)
    (heeds : Heeds setting.language setting.source (old.stack.footing version).state token)
    (may : MayTake setting (old.stack.footing version).state token actions)
    (made : ∀ result, last = some result → base ≤ result ∧ result < parser.stack.heads.size) :
    Leaves (tryActions setting version (old.stack.footing version).state token actions last) parser
      (Attempted setting root base version old actions) := by
  have ended : ∀ next, Valid setting root next ∧ Keeps version parser next →
      Valid setting root next ∧ Keeps version old next := by
    rintro next ⟨valid, keeps⟩
    refine ⟨valid, .trans ⟨size ▸ reduced.count, fun other low _ => reduced.kept other (size ▸ low)⟩ keeps⟩
  induction actions generalizing parser last with
  | nil => exact ⟨nofun, fun _ same => Option.some.inj same ▸ ⟨reduced, made, fun _ => List.not_mem_nil⟩⟩
  | cons action actions ih =>
    have footing := reduced.kept version bound
    have within := Nat.lt_of_lt_of_le bound reduced.count
    obtain ⟨⟨symbol, label, listed⟩, rest⟩ := List.forall_mem_cons.mp may
    unfold Parser.tryActions
    split
    · exact (ih reduced rest made ended).imp fun _ _ tried => tried.cons fun _ same => by cases same
    · rename_i target
      apply Leaves.bind
      have step := known.step_shift label (orderly.shifts listed) (.shift listed) heeds
      rw [← footing] at step
      exact (reduced.valid.shift (footing ▸ live) step).imp fun _ next done => ⟨fun _ => ended next done, nofun⟩
    · apply Leaves.bind
      have step : Step setting.language setting.source (old.stack.footing version).state _ _
          (old.stack.footing version).state _ :=
        known.step_extra label (orderly.skips ⟨_, listed⟩) ⟨_, listed⟩
      rw [← footing] at step ⊢
      exact (reduced.valid.shift (footing ▸ live) step).imp fun _ next done => ⟨fun _ => ended next done, nofun⟩
    · apply Leaves.bind
      obtain ⟨accepts, rfl⟩ := orderly.accepting listed
      refine (reduced.valid.accept orderly within (footing ▸ live) (footing ▸ accepts) (footing ▸ known) label).imp
        fun _ next done => ?_
      exact ⟨fun _ => ended next done, nofun⟩
    · apply Leaves.bind
      refine (reduced.valid.recover orderly within (footing ▸ live) (footing ▸ .of_isToken known)).imp fun _ next done => ?_
      exact ⟨fun _ => ended next done, nofun⟩
    · rename_i rule
      apply Leaves.bind
      have alive : (parser.stack.footing version).state ≠ 0 := by
        intro error
        rw [footing] at error
        exact orderly.idle (error ▸ listed)
      refine (reduced.valid.reduce orderly ⟨_, _, listed⟩ (footing ▸ live) alive).imp fun result next ⟨further, new⟩ => ?_
      have more := reduced.further (congrArg Footing.place footing ▸ further)
      refine (ih more rest (fun outcome same => ?_) fun last done => ended last ⟨done.1, ?_⟩).imp
        fun _ _ tried => tried.cons fun _ same => by cases same
      · cases result with
        | none =>
          obtain ⟨low, high⟩ := made outcome same
          exact ⟨low, Nat.lt_of_lt_of_le high further.count⟩
        | some first =>
          obtain ⟨rfl, room⟩ := new first rfl
          obtain rfl := Option.some.inj same
          exact ⟨reduced.count, room⟩
      · exact .trans ⟨further.count, fun other low _ => further.kept other low⟩ done.2

variable (readers : setting.language.ReadsWithin setting.source)
include readers

theorem Valid.useToken (valid : Valid setting root parser) (bound : version < parser.stack.heads.size)
    (live : (parser.stack.footing version).live = true) (fuel : Nat) {token : Tree σ}
    (known : IsToken setting.language setting.source (parser.stack.footing version).place token)
    (heeds : Heeds setting.language setting.source (parser.stack.footing version).state token) :
    Leaves (useToken setting version fuel token
      (actionsFor setting.language (parser.stack.footing version).state token)) parser fun _ next =>
      Valid setting root next ∧ Keeps version parser next := by
  induction fuel generalizing parser token with
  | zero => exact valid.halt_leaves version
  | succ fuel ih =>
    unfold Parser.useToken
    apply Leaves.bind
    apply Leaves.ofStack
    apply Leaves.bind
    have start : Reduced setting root parser.stack.heads.size (parser.stack.footing version).place parser parser :=
      ⟨valid, Nat.le_refl _, fun _ _ => rfl, fun _ low high => absurd high (Nat.not_lt.mpr low)⟩
    refine (start.tryActions orderly bound live rfl known heeds (mayTake_actionsFor _ _) (fun _ made => by cases made)).imp ?_
    rintro outcome tried ⟨taken, left⟩
    split
    · exact taken rfl
    · rename_i result
      obtain ⟨reduced, made, -⟩ := left _ rfl
      obtain ⟨low, high⟩ := made result rfl
      have before : version < result := Nat.lt_of_lt_of_le bound low
      have size := tried.stack.size_renumber before high
      have own : (tried.stack.renumber result version).footing version = tried.stack.footing result := by
        rw [tried.stack.footing_renumber version before high, if_pos rfl]
      have keeps : Keeps version parser { tried with stack := tried.stack.renumber result version } := by
        refine ⟨by dsimp only; omega, fun other old different => ?_⟩
        dsimp only
        rw [tried.stack.footing_renumber other before high, if_neg different, if_pos (by omega)]
        exact reduced.kept other old
      obtain ⟨live, place, lands⟩ := reduced.added result low high
      apply Leaves.bind
      apply Leaves.modifyStack
      apply Leaves.bind
      apply Leaves.ofStack
      refine (ih (reduced.valid.of_stack (reduced.valid.stack.renumber ..)) (Nat.lt_of_lt_of_le bound keeps.count) ?_ ?_
        ?_).imp fun _ next ⟨done, further⟩ => ⟨done, keeps.trans further⟩
      · exact own ▸ live
      · exact own ▸ place ▸ known
      · exact fun _ _ _ => .inl (own ▸ lands)
    · obtain ⟨reduced, -, idle⟩ := left _ rfl
      have footing := reduced.kept version bound
      have keeps : Keeps version parser tried := ⟨reduced.count, fun other old _ => reduced.kept other old⟩
      replace bound := Nat.lt_of_lt_of_le bound reduced.count
      rw [← footing] at live known
      dsimp only
      split
      · rename_i word
        simp only [Bool.and_eq_true] at word
        have other : token.label ≠ .symbol setting.language.word := bne_iff_ne.mp word.1.2
        cases token with
        | mk facts children =>
          rw [← footing] at idle
          have taken := ih reduced.valid bound live
            (isToken_word readers (setting.language.appearance setting.language.word).visible known word.1.1)
            (heeds_word _ known word.1.1 other idle)
          rw [footing] at taken
          exact taken.imp fun _ next ⟨done, further⟩ => ⟨done, keeps.trans further⟩
      · split
        · refine (reduced.valid.recover orderly bound live (.of_isToken known)).imp ?_
          exact fun _ next ⟨done, further⟩ => ⟨done, keeps.trans further⟩
        · apply Leaves.modifyStack
          refine ⟨reduced.valid.of_stack (reduced.valid.stack.modifyHead ⟨rfl, .inr (.inr ⟨?_, ?_⟩)⟩),
            keeps.trans ⟨?_, ?_⟩⟩
          · exact Status.isHalted_of_isActive live
          · rintro _ ⟨⟩
            exact .of_isToken known
          · exact Nat.le_of_eq (Stack.size_modifyHead ..).symm
          · exact fun other _ different => Stack.footing_setHead _ _ _ different

theorem Valid.advance (valid : Valid setting root parser) (bound : version < parser.stack.heads.size)
    (live : (parser.stack.footing version).live = true) (fuel : Nat) :
    Leaves (advance setting version fuel) parser fun _ next => Valid setting root next ∧ Keeps version parser next := by
  unfold Parser.advance
  apply Leaves.bind
  apply Leaves.ofStack
  apply Leaves.bind
  refine (valid.nextToken readers).imp fun token next ⟨read, same, known, heeds⟩ => ?_
  have footing : next.stack.footing version = parser.stack.footing version := by rw [same]
  have known : IsToken setting.language setting.source (next.stack.footing version).place token := footing ▸ known
  have heeds : Heeds setting.language setting.source (next.stack.footing version).state token := footing ▸ heeds
  have taken := read.useToken orderly readers (same ▸ bound) (footing ▸ live) fuel known heeds
  rw [footing] at taken
  refine taken.imp ?_
  rintro _ last ⟨done, keeps⟩
  refine ⟨done, same ▸ keeps.count, fun other old different => ?_⟩
  rw [keeps.others other (same ▸ old) different, same]

theorem Valid.advanceReading (valid : Valid setting root parser) (bound : version < parser.stack.heads.size)
    (fuel steps last : Nat) :
    Leaves (advanceReading setting fuel steps version last) parser fun _ next => Valid setting root next := by
  induction steps generalizing parser with
  | zero => exact valid
  | succ steps ih =>
    unfold Parser.advanceReading
    apply Leaves.bind
    apply Leaves.ofStack
    split
    · rename_i active
      apply Leaves.bind
      refine (valid.advance orderly readers bound active fuel).imp fun _ next ⟨valid, keeps⟩ => ?_
      apply Leaves.bind
      apply Leaves.ofStack
      split
      · exact valid
      · exact ih valid (Nat.lt_of_lt_of_le bound keeps.count)
    · exact valid

theorem Valid.advanceAll (valid : Valid setting root parser) (fuel steps version last : Nat) :
    Leaves (advanceAll setting fuel steps version last) parser fun _ next => Valid setting root next := by
  induction steps generalizing parser version last with
  | zero => exact valid
  | succ steps ih =>
    unfold Parser.advanceAll
    apply Leaves.bind
    apply Leaves.ofStack
    split
    · rename_i bound
      apply Leaves.bind
      exact (valid.advanceReading orderly readers bound fuel fuel last).imp fun _ next valid => ih valid _ _
    · exact valid

theorem Valid.rounds (valid : Valid setting root parser) (fuel steps last : Nat) :
    Leaves (rounds setting fuel steps last) parser fun _ next => Valid setting root next := by
  induction steps generalizing parser last with
  | zero => exact valid
  | succ steps ih =>
    unfold Parser.rounds
    apply Leaves.bind
    refine (valid.advanceAll orderly readers fuel fuel 0 last).imp fun last moved valid => ?_
    apply Leaves.bind
    apply Leaves.ofStack
    apply Leaves.bind
    refine (valid.condense orderly).imp fun least thinned valid => ?_
    apply Leaves.bind
    apply Leaves.get
    apply Leaves.ite
    · exact valid
    · exact ih valid _

end Running

theorem parse_whole [BEq σ] {language : Language σ} {source : Source} (orderly : language.Orderly root final)
    (readers : language.ReadsWithin source) : Whole language source root (parse language source) := by
  unfold Parser.parse
  dsimp only
  generalize fuelFor source = fuel
  have start : Valid ⟨language, source⟩ root Parser.start := valid_start
  have valid : Valid ⟨language, source⟩ root ((rounds ⟨language, source⟩ fuel fuel 0).run Parser.start).2 :=
    start.rounds orderly readers fuel fuel 0
  cases finished : ((rounds ⟨language, source⟩ fuel fuel 0).run Parser.start).2.finished with
  | some tree => exact valid.finished tree finished
  | none =>
    have chain : Chain 0 ([] : List (Tree σ)) 0 := .nil
    refine ⟨Tree.measured_ofChildren (Nat.zero_le _) chain (by simp) (by simp), rfl, .inr rfl, fun free => ?_⟩
    exact absurd free (Nat.ne_of_gt (Tree.cost_ofChildren_pos rfl))

end SourceAtlas.Syntax.Parser
