import SourceAtlas.Proofs.Climbing
import SourceAtlas.Python.Automaton
import Mathlib.Algebra.Group.Nat.Defs

/-! What holds of the automaton of Python. Its rows are gone through in their written form, each group of
actions and of states after rules once; what is read off them then holds of every state. -/
namespace SourceAtlas.Python
open SourceAtlas.Syntax

namespace Symbol

def import_ : Nat := 3
def period : Nat := 4
def from_ : Nat := 5
def future : Nat := 6
def openParenthesis : Nat := 7
def comma : Nat := 9
def as_ : Nat := 10
def star : Nat := 11
def def_ : Nat := 37
def module_ : Nat := 108
def importStatement : Nat := 111
def importPrefix : Nat := 112
def relativeImport : Nat := 113
def futureImport : Nat := 114
def importFrom : Nat := 115
def importList : Nat := 116
def aliasedImport : Nat := 117
def wildcardImport : Nat := 118
def functionDefinition : Nat := 146
def classDefinition : Nat := 155
def dottedName : Nat := 163
def morePeriods : Nat := 240
def moreTargets : Nat := 241
def moreNames : Nat := 255

end Symbol

namespace Automaton

section Written

def finalState : Nat := 2634

/-- The states behind the word `def`, where a name has to follow. -/
def namingStates : List Nat := [2630, 2640, 2824, 2825]

/-- The state behind the word `from` of an import. -/
def importingState : Nat := 1862

/-- The states behind the word `from`, which also stands in other statements. -/
def fromStates : List Nat := [importingState, 487, 490, 497, 519, 581, 586]

/-- The sets of tokens that are shifted, as a bit mask over their numbers. -/
def shiftedSets : Nat :=
  0x900840005000000010000000000600e81000780000000000000000000000003fc40000084702040028400010049c1dc80007ffffffff8

def once (value : Nat) (use : Nat → Bool) : Bool :=
  match value with
  | 0 => use 0
  | value + 1 => use value.succ

/-- Whether a state may have an action for a set of tokens. Set 1 has the extras, set 2 the end of the text, set 3
the words, set 5 `from` and set 23 `def`. -/
def tidyCode (id set code : Nat) : Bool :=
  if code.beq 0 then true
  else if set.beq 1 then code.beq 3
  else if id.beq 0 then code.beq 2
  else if code.ble 511 then (Nat.ble 4 code && code.ble 324) || (code.beq 1 && set.beq 2 && id.beq finalState)
  else once ((code.sub 512).shiftRight 1) fun next =>
    !next.beq 1 && !next.beq finalState && shiftedSets.testBit set && (!set.beq 23 || namingStates.any next.beq) &&
      (set.beq 3 || !namingStates.any id.beq) && (!set.beq 5 || fromStates.any next.beq)

/-- Whether a state may go to another one over the symbols of a set. Set 39 has the whole text. -/
def tidyGoto (id set next : Nat) : Bool :=
  !next.beq 1 && (!next.beq finalState || id.beq 1 && set.beq 39) && !id.beq 0 && !namingStates.any id.beq &&
    !next.beq importingState

def tidyGotos (id : Nat) : Nat → Nat → Bool
  | 0, rest => rest.beq 0
  | count + 1, rest => rest.beq 0 ||
    (once (rest.land 1023) fun set => once ((rest.shiftRight 10).land 16383) (tidyGoto id set)) &&
      once (rest.shiftRight 24) (tidyGotos id count)

def tidyGroups (id : Nat) : Nat → Nat → Bool
  | 0, rest => tidyGotos id 16 rest
  | count + 1, rest =>
    (once (rest.land 1023) fun set =>
      once ((rest.shiftRight 10).land 16383) fun code => (codes code).all (tidyCode id set)) &&
      once (rest.shiftRight 24) (tidyGroups id count)

def tidyRow (id row : Nat) : Bool :=
  once ((row.shiftRight 9).land 127) fun count => once (row.shiftRight 16) (tidyGroups id count)

def tidyRows : Nat → List Nat → Bool
  | _, [] => true
  | 0, row :: rows => tidyRow 0 row && tidyRows 1 rows
  | id + 1, row :: rows => tidyRow (id + 1) row && tidyRows (id + 2) rows

/-- The rows by the arrays that they are written in, each with 200 of them. -/
def chunks : List (List Nat) :=
  [rows0, rows200, rows400, rows600, rows800, rows1000, rows1200, rows1400, rows1600, rows1800, rows2000, rows2200,
    rows2400, rows2600, rows2800].map Array.toList

def rows : List Nat :=
  chunks.flatten

set_option maxRecDepth 100000 in
theorem tidyRows_rows : tidyRows 0 rows = true := by
  decide +kernel

theorem getElem?_flatten {α : Type} {lists : List (List α)} {size : Nat} (pos : 0 < size)
    (all : ∀ list ∈ lists.dropLast, list.length = size) (last : ∀ list ∈ lists.getLast?, list.length ≤ size) (index : Nat) :
    lists.flatten[index]? = (lists[index / size]?).bind (·[index % size]?) := by
  induction lists generalizing index with
  | nil => simp
  | cons list lists ih =>
    have short : list.length ≤ size := by
      cases lists with
      | nil => exact last list rfl
      | cons => exact Nat.le_of_eq (all list List.mem_cons_self)
    rw [List.flatten_cons]
    by_cases inside : index < size
    · rw [Nat.div_eq_of_lt inside, Nat.mod_eq_of_lt inside, List.getElem?_cons_zero, Option.bind_some]
      cases lists with
      | nil => simp
      | cons => exact List.getElem?_append_left (all list List.mem_cons_self ▸ inside)
    · have beyond := Nat.not_lt.mp inside
      rw [List.getElem?_append_right (Nat.le_trans short beyond), Nat.div_eq_sub_div pos beyond, Nat.mod_eq_sub_mod beyond,
        List.getElem?_cons_succ]
      cases lists with
      | nil => simp
      | cons second lists =>
        rw [all list List.mem_cons_self]
        exact ih (fun other member => all other (List.mem_cons_of_mem _ member)) last _

def stateAt (id : Nat) : State :=
  (((chunks[id / 200]?).bind (·[id % 200]?)).map state).getD default

set_option maxRecDepth 20000 in
theorem stateAt_eq (id : Nat) : stateAt id = (rows[id]?.map state).getD default := by
  have sizes : (∀ chunk ∈ chunks.dropLast, chunk.length = 200) ∧ ∀ chunk ∈ chunks.getLast?, chunk.length ≤ 200 := by
    decide +kernel
  rw [stateAt, rows, getElem?_flatten (by decide) sizes.1 sizes.2]

theorem states_getD (id : Nat) : states.getD id default = stateAt id := by
  simp only [stateAt_eq, states, rows, chunks, Array.getD_eq_getD_getElem?, ← Array.getElem?_toList, Array.toList_map,
    Array.toList_append, List.getElem?_map, List.map_cons, List.map_nil, List.flatten_cons, List.flatten_nil,
    List.append_nil, List.append_assoc]

end Written

def listed : Syntax.Language Memory :=
  { language with
    actions := fun state token => (lookup token (stateAt state).actions).getD []
    goto := fun state symbol => (lookup symbol (stateAt state).gotos).getD 0
    mode := fun state => (stateAt state).mode
    expected := fun state => (stateAt state).expected }

theorem language_eq_listed : language = listed := by
  simp only [listed, language, states_getD]

section Decoded

@[simp] theorem once_eq (value : Nat) (use : Nat → Bool) : once value use = use value := by
  cases value <;> rfl

def allRules : List Rule :=
  rules.toList.map rule

/-- What an action of a state is like, given the tokens that it is for. -/
inductive Permitted (id tokens : Nat) : Action → Prop
  | recover : Permitted id tokens .recover
  | skip (extras : tokens = symbolSet 1) : Permitted id tokens .shiftExtra
  | accept (final : id = finalState) (ending : tokens = symbolSet 2) : Permitted id tokens .accept
  | reduce {rule : Rule} (alive : id ≠ 0) (listed : rule ∈ allRules) : Permitted id tokens (.reduce rule)
  | shift {next : Nat} {repeating : Bool} (alive : id ≠ 0) (fresh : next ≠ 1) (unfinished : next ≠ finalState)
      (small : tokens < 2 ^ tokenCount) (naming : tokens.testBit Symbol.def_ = true → next ∈ namingStates)
      (named : id ∈ namingStates → tokens = symbolSet 3)
      (origin : tokens.testBit Symbol.from_ = true → next ∈ fromStates) : Permitted id tokens (.shift next repeating)

/-- What a state after the symbols of a set is like. -/
structure Reached (id symbols next : Nat) : Prop where
  fresh : next ≠ 1
  finished : next = finalState → id = 1 ∧ symbols = symbolSet 39
  alive : id ≠ 0
  plain : id ∉ namingStates
  behind : next ≠ importingState

structure Tidy (id : Nat) (state : State) : Prop where
  actions : ∀ group ∈ state.actions, ∀ action ∈ group.2, Permitted id group.1 action
  gotos : ∀ group ∈ state.gotos, Reached id group.1 group.2

theorem rule_mem {index : Nat} (bound : index ≤ 320) : ruleAt index ∈ allRules := by
  have size : rules.size = 321 := by decide +kernel
  rw [ruleAt, Array.getElem?_eq_getElem (by omega), Option.map_some, Option.getD_some]
  exact List.mem_map_of_mem (Array.getElem_mem_toList _)

set_option maxRecDepth 20000 in
theorem shifted_tokens {set : Nat} (shifted : shiftedSets.testBit set = true) :
    symbolSet set < 2 ^ tokenCount ∧ ((symbolSet set).testBit Symbol.def_ = true → set = 23) ∧
      ((symbolSet set).testBit Symbol.from_ = true → set = 5) := by
  have listed : ∀ set < 539, shiftedSets.testBit set = true →
      symbolSet set < 2 ^ tokenCount ∧ ((symbolSet set).testBit Symbol.def_ = true → set = 23) ∧
        ((symbolSet set).testBit Symbol.from_ = true → set = 5) := by
    decide +kernel
  by_cases bound : set < 539
  · exact listed set bound shifted
  · have none : symbolSet set = 0 := by
      have size : symbolSets.size = 539 := by decide +kernel
      rw [symbolSet, Array.getD, dif_neg (by omega)]
    rw [none]
    exact ⟨by decide, by simp, by simp⟩

theorem any_beq {id : Nat} {states : List Nat} : states.any id.beq = true ↔ id ∈ states := by
  simp [List.any_eq_true, Nat.beq_eq]

theorem permitted_of_tidy {id set code : Nat} (tidy : tidyCode id set code = true) {act : Action}
    (coded : action code = some act) : Permitted id (symbolSet set) act := by
  unfold tidyCode at tidy
  simp only [Nat.beq_eq, Nat.ble_eq] at tidy
  unfold action at coded
  by_cases none : code = 0
  · simp [none] at coded
  rw [if_neg none] at coded tidy
  by_cases extras : set = 1
  · simp only [if_pos extras, Nat.beq_eq] at tidy
    subst tidy extras
    obtain rfl := Option.some.inj coded
    exact .skip rfl
  rw [if_neg extras] at tidy
  by_cases error : id = 0
  · simp only [if_pos error, Nat.beq_eq] at tidy
    subst tidy
    obtain rfl := Option.some.inj coded
    exact .recover
  rw [if_neg error] at tidy
  by_cases reduces : code ≤ 511
  · simp only [if_pos reduces, Bool.or_eq_true, Bool.and_eq_true, Nat.beq_eq, Nat.ble_eq] at tidy
    rcases tidy with ⟨low, high⟩ | ⟨⟨rfl, rfl⟩, rfl⟩
    · simp only [show code ≠ 1 by omega, show code ≠ 2 by omega, show code ≠ 3 by omega, show code < 512 by omega,
        if_true,
        if_false] at coded
      obtain rfl := Option.some.inj coded
      exact .reduce error (rule_mem (by omega))
    · obtain rfl := Option.some.inj coded
      exact .accept rfl rfl
  · rw [if_neg reduces] at tidy
    have next : (code.sub 512).shiftRight 1 = (code - 512) / 2 := Nat.shiftRight_eq_div_pow (code - 512) 1
    simp only [once_eq, next, Bool.and_eq_true, Bool.or_eq_true, Bool.not_eq_true', any_beq, Nat.beq_eq] at tidy
    obtain ⟨⟨⟨⟨⟨fresh, unfinished⟩, shifted⟩, naming⟩, named⟩, origin⟩ := tidy
    simp only [show code ≠ 1 by omega, show code ≠ 2 by omega, show code ≠ 3 by omega, show ¬ code < 512 by omega,
      if_false] at coded
    obtain rfl := Option.some.inj coded
    obtain ⟨small, only, other⟩ := shifted_tokens shifted
    refine .shift error (Nat.ne_of_beq_eq_false fresh) (Nat.ne_of_beq_eq_false unfinished) small (fun has => ?_)
      (fun here => ?_) fun has => ?_
    · exact naming.resolve_left fun other => Nat.ne_of_beq_eq_false other (only has)
    · rcases named with rfl | other
      · rfl
      · rw [any_beq.mpr here] at other
        cases other
    · exact origin.resolve_left fun different => Nat.ne_of_beq_eq_false different (other has)

theorem reached_of_tidy {id set next : Nat} (tidy : tidyGoto id set next = true) : Reached id (symbolSet set) next := by
  simp only [tidyGoto, Bool.and_eq_true, Bool.or_eq_true, Bool.not_eq_true', Nat.beq_eq] at tidy
  obtain ⟨⟨⟨⟨fresh, finished⟩, alive⟩, plain⟩, behind⟩ := tidy
  refine ⟨Nat.ne_of_beq_eq_false fresh, fun final => ?_, Nat.ne_of_beq_eq_false alive, fun here => ?_,
    Nat.ne_of_beq_eq_false behind⟩
  · obtain ⟨rfl, rfl⟩ := finished.resolve_left fun other => Nat.ne_of_beq_eq_false other final
    exact ⟨rfl, rfl⟩
  · rw [any_beq.mpr here] at plain
    cases plain

section Fields
variable (value : Nat)

theorem set_field : value.land 1023 = value % 1024 := Nat.and_two_pow_sub_one_eq_mod value 10

theorem code_field : (value.shiftRight 10).land 16383 = value / 1024 % 16384 :=
  (Nat.and_two_pow_sub_one_eq_mod _ 14).trans (congrArg (· % 16384) (Nat.shiftRight_eq_div_pow value 10))

end Fields

theorem tidyGotos_reached {id count rest : Nat} (tidy : tidyGotos id count rest = true) :
    ∀ group ∈ gotoGroups rest, Reached id group.1 group.2 := by
  induction count generalizing rest with
  | zero =>
    rw [Nat.eq_of_beq_eq_true tidy, gotoGroups]
    simp
  | succ count ih =>
    simp only [tidyGotos, once_eq, set_field, code_field, Bool.or_eq_true, Bool.and_eq_true, Nat.beq_eq] at tidy
    rw [gotoGroups]
    split
    · simp
    · next more =>
      obtain ⟨first, later⟩ := tidy.resolve_left more
      refine List.forall_mem_cons.mpr ⟨?_, ih ((Nat.shiftRight_eq_div_pow rest 24) ▸ later)⟩
      dsimp only
      exact reached_of_tidy first

theorem tidyGroups_tidy {id count rest : Nat} (tidy : tidyGroups id count rest = true) :
    (∀ group ∈ (actionGroups count rest).1, ∀ action ∈ group.2, Permitted id group.1 action) ∧
      ∀ group ∈ gotoGroups (actionGroups count rest).2, Reached id group.1 group.2 := by
  induction count generalizing rest with
  | zero => exact ⟨by simp [actionGroups], tidyGotos_reached tidy⟩
  | succ count ih =>
    simp only [tidyGroups, once_eq, set_field, code_field, Bool.and_eq_true] at tidy
    have further : rest.shiftRight 24 = rest / 2 ^ 24 := Nat.shiftRight_eq_div_pow rest 24
    obtain ⟨actions, gotos⟩ := ih (further ▸ tidy.2)
    refine ⟨List.forall_mem_cons.mpr ⟨fun act coded => ?_, actions⟩, gotos⟩
    dsimp only at coded ⊢
    obtain ⟨code, listed, known⟩ := List.mem_filterMap.mp coded
    exact permitted_of_tidy (List.all_eq_true.mp tidy.1 code listed) known

theorem tidy_of_row {id row : Nat} (tidy : tidyRow id row = true) : Tidy id (state row) := by
  have count : (row.shiftRight 9).land 127 = row / 512 % 128 :=
    (Nat.and_two_pow_sub_one_eq_mod _ 7).trans (congrArg (· % 128) (Nat.shiftRight_eq_div_pow row 9))
  simp only [tidyRow, once_eq, count] at tidy
  have groups : row.shiftRight 16 = row / 2 ^ 16 := Nat.shiftRight_eq_div_pow row 16
  obtain ⟨actions, gotos⟩ := tidyGroups_tidy (groups ▸ tidy)
  exact ⟨actions, gotos⟩

theorem tidyRows_index {start index row : Nat} {rows : List Nat} (tidy : tidyRows start rows = true)
    (known : rows[index]? = some row) : tidyRow (start + index) row = true := by
  induction rows generalizing start index with
  | nil => cases known
  | cons first rows ih =>
    have both : tidyRow start first = true ∧ tidyRows (start + 1) rows = true := by
      cases start <;> exact Bool.and_eq_true_iff.mp tidy
    cases index with
    | zero =>
      obtain rfl := Option.some.inj known
      exact both.1
    | succ index =>
      rw [← Nat.add_assoc, Nat.add_right_comm]
      exact ih both.2 known

theorem tidy_state (id : Nat) : Tidy id (states.getD id default) := by
  rw [states_getD, stateAt_eq]
  cases known : rows[id]? with
  | none => exact ⟨nofun, nofun⟩
  | some row =>
    have row := tidyRows_index tidyRows_rows known
    rw [Nat.zero_add] at row
    exact tidy_of_row row

theorem mem_of_lookup {α : Type} {symbol : Nat} {groups : List (Nat × α)} {value : α}
    (found : lookup symbol groups = some value) : ∃ group ∈ groups, group.1.testBit symbol = true ∧ group.2 = value := by
  induction groups with
  | nil => cases found
  | cons group groups ih =>
    unfold lookup at found
    split at found
    · rename_i here
      exact ⟨group, List.mem_cons_self, here, Option.some.inj found⟩
    · obtain ⟨other, member, holds⟩ := ih found
      exact ⟨other, List.mem_cons_of_mem _ member, holds⟩

end Decoded

section Results
variable {state symbol token next : Nat} {act : Action} {rule : Rule}

theorem permitted (listed : act ∈ language.actions state token) :
    ∃ tokens, tokens.testBit token = true ∧ Permitted state tokens act := by
  change act ∈ (lookup token (states.getD state default).actions).getD [] at listed
  cases found : lookup token (states.getD state default).actions with
  | none =>
    rw [found] at listed
    cases listed
  | some actions =>
    rw [found] at listed
    obtain ⟨group, member, has, rfl⟩ := mem_of_lookup found
    exact ⟨group.1, has, (tidy_state state).actions group member act listed⟩

theorem reached (leads : language.goto state symbol ≠ 0) :
    ∃ symbols, symbols.testBit symbol = true ∧ Reached state symbols (language.goto state symbol) := by
  change (lookup symbol (states.getD state default).gotos).getD 0 ≠ 0 at leads
  change ∃ symbols, symbols.testBit symbol = true ∧ Reached state symbols
    ((lookup symbol (states.getD state default).gotos).getD 0)
  cases found : lookup symbol (states.getD state default).gotos with
  | none =>
    rw [found] at leads
    exact absurd rfl leads
  | some next =>
    obtain ⟨group, member, has, rfl⟩ := mem_of_lookup found
    exact ⟨group.1, has, (tidy_state state).gotos group member⟩

theorem lt_of_testBit {set bound : Nat} (small : set < 2 ^ bound) (has : set.testBit symbol = true) : symbol < bound := by
  by_contra beyond
  have less := Nat.lt_of_lt_of_le small (Nat.pow_le_pow_right (by decide) (Nat.not_lt.mp beyond))
  rw [Nat.testBit_lt_two_pow less] at has
  cases has

theorem eq_of_testBit {set bit : Nat} (only : set = 2 ^ bit) (has : set.testBit symbol = true) : symbol = bit := by
  rw [only, Nat.testBit_two_pow] at has
  exact (of_decide_eq_true has).symm

theorem hasRule_mem (has : language.HasRule rule) : rule ∈ allRules := by
  obtain ⟨state, token, listed⟩ := has
  obtain ⟨tokens, -, permitted⟩ := permitted listed
  cases permitted with
  | reduce _ member => exact member

theorem exists_written (member : rule ∈ allRules) : ∃ written ∈ rules.toList, rule = Automaton.rule written := by
  obtain ⟨written, listed, rfl⟩ := List.mem_map.mp member
  exact ⟨written, listed, rfl⟩

theorem skipsToken_iff (skips : language.SkipsToken token) :
    token = Symbol.comment ∨ token = Symbol.lineContinuation := by
  obtain ⟨state, listed⟩ := skips
  obtain ⟨tokens, has, permitted⟩ := permitted listed
  cases permitted with
  | skip extras =>
    have two : symbolSet 1 = 2 ^ Symbol.comment + 2 ^ Symbol.lineContinuation := by decide +kernel
    have all : ∀ token < 101, (symbolSet 1).testBit token = true →
        token = Symbol.comment ∨ token = Symbol.lineContinuation := by
      rw [two]
      decide +kernel
    rw [extras] at has
    exact all token (lt_of_testBit (by rw [two]; decide) has) has

theorem moves_cases (moves : language.Moves state symbol next) : state ≠ 0 ∧ next ≠ 1 ∧
    (next = finalState → state = 1 ∧ symbol = Symbol.module_) ∧ (symbol = Symbol.def_ → next ∈ namingStates) ∧
    (state ∈ namingStates → symbol = Symbol.identifier) ∧ (symbol = Symbol.from_ → next ∈ fromStates) := by
  cases moves with
  | shift listed =>
    obtain ⟨tokens, has, permitted⟩ := permitted listed
    cases permitted with
    | shift alive fresh unfinished small naming named origin =>
      refine ⟨alive, fresh, fun final => absurd final unfinished, fun word => naming (word ▸ has), fun here => ?_,
        fun word => origin (word ▸ has)⟩
      exact eq_of_testBit (named here ▸ (by decide +kernel : symbolSet 3 = 2 ^ 1)) has
  | goto rule leads =>
    obtain ⟨symbols, has, reached⟩ := reached leads
    refine ⟨reached.alive, reached.fresh, fun final => ?_, fun word => ?_, fun here => absurd here reached.plain,
      fun word => ?_⟩
    · obtain ⟨start, only⟩ := reached.finished final
      exact ⟨start, eq_of_testBit (only ▸ (by decide +kernel : symbolSet 39 = 2 ^ 108)) has⟩
    · rw [word] at rule
      exact absurd rule (by decide)
    · rw [word] at rule
      exact absurd rule (by decide)

theorem naming {after : Nat} (word : language.Moves state Symbol.def_ next) (moves : language.Moves next symbol after) :
    symbol = Symbol.identifier :=
  (moves_cases moves).2.2.2.2.1 ((moves_cases word).2.2.2.1 rfl)

set_option maxRecDepth 20000 in
theorem tokenCount_le (member : rule ∈ allRules) : tokenCount ≤ rule.symbol := by
  have all : ∀ written ∈ rules.toList, tokenCount ≤ written.1 := by decide +kernel
  obtain ⟨written, listed, rfl⟩ := exists_written member
  exact all written listed

theorem orderly : language.Orderly Symbol.module_ finalState where
  ends := by decide
  word := by decide
  shifts listed := by
    obtain ⟨tokens, has, permitted⟩ := permitted listed
    cases permitted with
    | shift alive fresh unfinished small naming named _ => exact lt_of_testBit small has
  skips skipped := by
    rcases skipsToken_iff skipped with rfl | rfl <;> decide
  rule_symbol has := tokenCount_le (hasRule_mem has)
  stuck moves := (moves_cases moves).1 rfl
  idle listed := by
    obtain ⟨tokens, has, permitted⟩ := permitted listed
    cases permitted with
    | reduce alive _ => exact alive rfl
  fresh moves := (moves_cases moves).2.1 rfl
  finishing moves := (moves_cases moves).2.2.1 rfl
  accepting listed := by
    obtain ⟨tokens, has, permitted⟩ := permitted listed
    cases permitted with
    | accept final ending => exact ⟨final, eq_of_testBit (ending ▸ (by decide +kernel : symbolSet 2 = 2 ^ 0)) has⟩
  final_ne := by decide
  final_ne_start := by decide
  root_rule := by decide

/-- A module behind the word `from` is that of an import, and there no rule has been applied. -/
theorem importing {after : Nat} (word : language.Moves state Symbol.from_ next)
    (moves : language.Moves next Symbol.dottedName after) : next = importingState ∧ ¬ language.Lands next := by
  have only : ∀ state ∈ fromStates, listed.goto state Symbol.dottedName ≠ 0 → state = importingState := by
    decide +kernel
  rw [← language_eq_listed] at only
  have leads : language.goto next Symbol.dottedName ≠ 0 := by
    cases moves with
    | shift listed => exact absurd (orderly.shifts listed) (by decide)
    | goto rule leads => exact leads
  obtain rfl := only next ((moves_cases word).2.2.2.2.2 rfl) leads
  refine ⟨rfl, ?_⟩
  rintro ⟨below, symbol, same⟩
  have some : language.goto below symbol ≠ 0 := same ▸ (by decide)
  obtain ⟨symbols, has, reached⟩ := reached some
  exact reached.behind same

end Results

end Automaton

end SourceAtlas.Python
