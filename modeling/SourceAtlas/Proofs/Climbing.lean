import SourceAtlas.Proofs.Derivation
import SourceAtlas.Syntax.Parser

/-! Trees on the way up the stack. Where nothing has been skipped, the automaton has moved over each of
them, so that what lies below an accepting state is the whole text. -/
namespace SourceAtlas.Syntax
variable {σ : Type}

/-- What holds of the tables of a language: rules make no tokens, nothing goes on in the state of errors,
nothing leads back to the first state, and only the symbol of a whole text leads from there to the state
that accepts at the end of the text. -/
structure Language.Orderly (language : Language σ) (root final : Nat) : Prop where
  ends : 0 < language.tokenCount
  word : language.word < language.tokenCount
  shifts : ∀ {state token next : Nat} {repeating : Bool}, .shift next repeating ∈ language.actions state token →
    token < language.tokenCount
  skips : ∀ {token : Nat}, language.SkipsToken token → token < language.tokenCount
  rule_symbol : ∀ {rule : Rule}, language.HasRule rule → language.tokenCount ≤ rule.symbol
  stuck : ∀ {symbol next : Nat}, ¬ language.Moves 0 symbol next
  idle : ∀ {token : Nat} {rule : Rule}, .reduce rule ∉ language.actions 0 token
  fresh : ∀ {state symbol : Nat}, ¬ language.Moves state symbol 1
  finishing : ∀ {state symbol : Nat}, language.Moves state symbol final → state = 1 ∧ symbol = root
  accepting : ∀ {state token : Nat}, .accept ∈ language.actions state token → state = final ∧ token = 0
  final_ne : final ≠ 0
  final_ne_start : final ≠ 1
  root_rule : language.tokenCount ≤ root

theorem Opens.eq_self {leaf tree : Tree σ} (opens : Opens leaf tree) (empty : tree.children = []) : leaf = tree := by
  cases opens with
  | self => rfl
  | first => exact absurd empty (by simp [Tree.children])

theorem Track.heeds_first {language : Language σ} {source : Source} {state place next stop : Nat}
    {before after : List (Tree σ)} {child : Tree σ}
    (track : Track language source state place (before ++ child :: after) next stop)
    (early : ∀ tree ∈ before, tree.extra = true) (plain : child.extra = false) :
    ∀ leaf, Opens leaf child → Heeds language source state leaf := by
  induction before generalizing place with
  | nil =>
    cases track with
    | extra aside => exact absurd aside (by simp [plain])
    | part _ _ _ _ heeds => exact heeds
  | cons tree before ih =>
    obtain ⟨here, later⟩ := List.forall_mem_cons.mp early
    cases track with
    | extra _ _ rest => exact ih rest later
    | part inner => exact absurd here (by simp [inner])

section Climbing
variable (language : Language σ) (source : Source)

/-- A tree on the stack leads from the state and the place below it to those above it. -/
structure Step (state place : Nat) (tree : Tree σ) (next stop : Nat) : Prop where
  sound : Sound language source tree
  stop : tree.facts.stop = stop
  origin : tree.facts.origin = place
  moves : next = 0 ∨ tree.extra = true ∧ next = state ∨
    tree.extra = false ∧ ∃ symbol, tree.label = .symbol symbol ∧ language.Moves state symbol next
  heeds : tree.extra = false → tree.cost = 0 → ∀ leaf, Opens leaf tree → Heeds language source state leaf

/-- Trees one above the other. Between them errors may have been marked. -/
inductive Climb : (state place : Nat) → List (Tree σ) → (next stop : Nat) → Prop
  | nil {state place : Nat} : Climb state place [] state place
  | tree {state place middle reached next stop : Nat} {tree : Tree σ} {trees : List (Tree σ)}
      (step : Step language source state place tree middle reached) (rest : Climb middle reached trees next stop) :
      Climb state place (tree :: trees) next stop
  | mark {state place next stop : Nat} {trees : List (Tree σ)} (rest : Climb 0 place trees next stop) :
      Climb state place trees next stop

end Climbing

namespace Climb
variable {language : Language σ} {source : Source} {state place next stop : Nat} {trees : List (Tree σ)}

theorem split {more : List (Tree σ)} (climb : Climb language source state place (trees ++ more) next stop) :
    ∃ middle reached, Climb language source state place trees middle reached ∧
      Climb language source middle reached more next stop := by
  generalize whole : trees ++ more = all at climb
  induction climb generalizing trees with
  | nil =>
    obtain ⟨rfl, rfl⟩ := List.append_eq_nil_iff.mp whole
    exact ⟨_, _, .nil, .nil⟩
  | @tree state place middle reached next stop tree rest step climb ih =>
    cases trees with
    | nil =>
      rw [List.nil_append] at whole
      exact ⟨_, _, .nil, whole ▸ .tree step climb⟩
    | cons first trees =>
      obtain ⟨rfl, rest⟩ := List.cons.inj whole
      obtain ⟨_, _, lower, upper⟩ := ih rest
      exact ⟨_, _, .tree step lower, upper⟩
  | mark climb ih =>
    obtain ⟨_, _, lower, upper⟩ := ih whole
    exact ⟨_, _, .mark lower, upper⟩

theorem sound (climb : Climb language source state place trees next stop) :
    ∀ tree ∈ trees, Sound language source tree := by
  induction climb with
  | nil => simp
  | tree step rest ih => exact List.forall_mem_cons.mpr ⟨step.sound, ih⟩
  | mark rest ih => exact ih

theorem chain (climb : Climb language source state place trees next stop) : Chain place trees stop := by
  induction climb with
  | nil => exact .nil
  | tree step rest ih => exact .cons step.origin (step.stop ▸ ih)
  | mark rest ih => exact ih

section Orderly
variable {root final : Nat} (orderly : language.Orderly root final)
include orderly

theorem of_error (climb : Climb language source state place trees next stop) (error : state = 0) : next = 0 := by
  induction climb with
  | nil => exact error
  | tree step rest ih =>
    apply ih
    rcases step.moves with error | ⟨-, same⟩ | ⟨-, symbol, -, moves⟩
    · exact error
    · exact same.trans error
    · exact absurd (error ▸ moves) orderly.stuck
  | mark rest ih => exact ih rfl

theorem track (climb : Climb language source state place trees next stop) (alive : next ≠ 0)
    (free : ∀ tree ∈ trees, tree.cost = 0) : Track language source state place trees next stop := by
  induction climb with
  | nil => exact .nil
  | tree step rest ih =>
    obtain ⟨here, later⟩ := List.forall_mem_cons.mp free
    have upper := ih alive later
    rw [← step.stop] at upper
    rcases step.moves with error | ⟨extra, rfl⟩ | ⟨plain, symbol, label, moves⟩
    · exact absurd (rest.of_error orderly error) alive
    · exact .extra extra step.origin upper
    · exact .part plain label step.origin moves (step.heeds plain here) upper
  | mark rest ih => exact absurd (rest.of_error orderly rfl) alive

theorem to_final (climb : Climb language source state place trees next stop) (accepts : next = final) :
    state = final ∧ (∀ tree ∈ trees, tree.extra = true) ∨
    state = 1 ∧ ∃ before tree after, trees = before ++ tree :: after ∧ (∀ tree ∈ before, tree.extra = true) ∧
      tree.extra = false ∧ tree.label = .symbol root ∧ ∀ tree ∈ after, tree.extra = true := by
  induction climb with
  | nil => exact .inl ⟨accepts, by simp⟩
  | @tree state place middle reached next stop tree trees step rest ih =>
    rcases ih accepts with ⟨rfl, later⟩ | ⟨rfl, before, whole, after, rfl, early, plain, label, late⟩
    · rcases step.moves with error | ⟨extra, rfl⟩ | ⟨plain, symbol, label, moves⟩
      · exact absurd error orderly.final_ne
      · exact .inl ⟨rfl, List.forall_mem_cons.mpr ⟨extra, later⟩⟩
      · obtain ⟨rfl, rfl⟩ := orderly.finishing moves
        exact .inr ⟨rfl, [], tree, trees, rfl, by simp, plain, label, later⟩
    · rcases step.moves with error | ⟨extra, rfl⟩ | ⟨-, symbol, -, moves⟩
      · cases error
      · exact .inr ⟨rfl, tree :: before, whole, after, rfl, List.forall_mem_cons.mpr ⟨extra, early⟩, plain, label, late⟩
      · exact absurd moves orderly.fresh
  | mark rest ih => exact absurd ((rest.of_error orderly rfl).symm.trans accepts) orderly.final_ne.symm

theorem of_error_tree {tree : Tree σ} (climb : Climb language source state place [tree] next stop) (alive : next ≠ 0)
    (label : tree.label = .error) : state = next := by
  generalize only : [tree] = trees at climb
  induction climb with
  | nil => cases only
  | @tree state place middle reached next stop tree trees step rest ih =>
    obtain ⟨rfl, rfl⟩ := List.cons.inj only
    rcases step.moves with error | ⟨-, rfl⟩ | ⟨-, symbol, other, -⟩
    · exact absurd (rest.of_error orderly error) alive
    · cases rest with
      | nil => rfl
      | mark rest => exact absurd (rest.of_error orderly rfl) alive
    · rw [label] at other
      cases other
  | mark rest ih => exact absurd (rest.of_error orderly rfl) alive

end Orderly

end Climb

section Aside
variable (language : Language σ) (source : Source)

def Aside (place : Nat) : List (Tree σ) → (stop : Nat) → Prop
  | [], stop => stop = place
  | tree :: trees, stop => tree.extra = true ∧ Sound language source tree ∧
      tree.facts.origin = place ∧ Aside tree.facts.stop trees stop

variable {language source}

theorem Climb.aside {state place next stop : Nat} {trees : List (Tree σ)}
    (climb : Climb language source state place trees next stop) (extra : ∀ tree ∈ trees, tree.extra = true) :
    Aside language source place trees stop := by
  induction climb with
  | nil => rfl
  | tree step rest ih =>
    obtain ⟨here, later⟩ := List.forall_mem_cons.mp extra
    have after := ih later
    rw [← step.stop] at after
    exact ⟨here, step.sound, step.origin, after⟩
  | mark rest ih => exact ih extra

end Aside

section Tokens
variable (language : Language σ) (source : Source)

/-- A token as it is handed to a reading that has come to a place. -/
structure IsToken (place : Nat) (token : Tree σ) : Prop where
  leaf : token.children = []
  free : token.cost = 0
  aliases : token.facts.aliases = []
  origin : token.facts.origin = place
  measured : Measured source token
  ends : token.label = .symbol 0 → token.extra = true
  lexed : ∀ symbol, token.label = .symbol symbol → Lexed language source symbol token.facts.start token.facts.stop
  keyword : token.facts.keyword = true → Lexed language source language.word token.facts.start token.facts.stop
  spelled : token.facts.keyword = true → token.label = .symbol language.word ∨
    ∃ keyword, token.label = .symbol keyword ∧ language.keyword source token.facts.start token.facts.stop = some keyword
  word : token.label = .symbol language.word → token.facts.keyword = false →
    language.keyword source token.facts.start token.facts.stop = none

end Tokens

namespace IsToken
variable {language : Language σ} {source : Source} {place symbol : Nat} {token : Tree σ}

theorem derives (known : IsToken language source place token) (label : token.label = .symbol symbol)
    (small : symbol < language.tokenCount) (extra : Bool) : Derives language source (token.withExtra extra) := by
  have measures := known.measured.measures
  have lexed := known.lexed symbol label
  cases token with
  | mk facts children =>
    obtain rfl : children = [] := known.leaf
    exact .token label small lexed measures.origin measures.start known.aliases

theorem derives_self (known : IsToken language source place token) (label : token.label = .symbol symbol)
    (small : symbol < language.tokenCount) : Derives language source token := by
  have derives := known.derives label small token.extra
  cases token with
  | mk facts children => exact derives

theorem sound (known : IsToken language source place token) (label : token.label = .symbol symbol)
    (small : symbol < language.tokenCount) {extra : Bool} (skips : extra = true → language.SkipsToken symbol) :
    Sound language source (token.withExtra extra) where
  measured := Tree.measured_withExtra extra known.measured
  gathered other := by
    rw [Tree.label_withExtra, label] at other
    cases other
  error other := by
    rw [Tree.label_withExtra, label] at other
    cases other
  derives _ := known.derives label small extra
  extra aside _ := ⟨symbol, (Tree.label_withExtra _ _).trans label, skips ((Tree.extra_withExtra _ _).symm.trans aside)⟩
  rule other large above := by
    obtain rfl : symbol = other := Label.symbol.inj (label.symm.trans ((Tree.label_withExtra _ _).symm.trans large))
    omega

theorem step_shift (known : IsToken language source place token) (label : token.label = .symbol symbol)
    (small : symbol < language.tokenCount) {state target : Nat} (moves : language.Moves state symbol target)
    (heeds : Heeds language source state token) :
    Step language source state place (token.withExtra false) target token.facts.stop where
  sound := known.sound label small (by simp)
  stop := Tree.stop_withExtra ..
  origin := (Tree.origin_withExtra ..).trans known.origin
  moves := .inr (.inr ⟨Tree.extra_withExtra .., symbol, (Tree.label_withExtra ..).trans label, moves⟩)
  heeds _ _ leaf opens := by
    obtain ⟨facts, children⟩ := token
    obtain rfl : children = [] := known.leaf
    cases opens.eq_self rfl
    exact heeds

theorem step_extra (known : IsToken language source place token) (label : token.label = .symbol symbol)
    (small : symbol < language.tokenCount) {state : Nat} (skips : language.SkipsToken symbol) :
    Step language source state place (token.withExtra true) state token.facts.stop where
  sound := known.sound label small fun _ => skips
  stop := Tree.stop_withExtra ..
  origin := (Tree.origin_withExtra ..).trans known.origin
  moves := .inr (.inl ⟨Tree.extra_withExtra .., rfl⟩)
  heeds plain := by
    rw [Tree.extra_withExtra] at plain
    cases plain

end IsToken

section Rules
variable {language : Language σ} {source : Source} {rule : Rule} {children : List (Tree σ)}

theorem Tree.token?_eq_some {tree : Tree σ} {symbol : Nat} : tree.token? = some symbol ↔ tree.label = .symbol symbol := by
  unfold Tree.token?
  split
  · rename_i id label
    rw [label, Option.some.injEq, Label.symbol.injEq]
  · rename_i other
    exact ⟨nofun, fun label => absurd label (other symbol)⟩

theorem Tree.fits_cons_extra {parts : List Nat} {child : Tree σ} (aside : child.extra = true) :
    Tree.fits parts (child :: children) = Tree.fits parts children := by
  conv => lhs; unfold Tree.fits
  exact if_pos aside

theorem Tree.fits_cons_part {parts : List Nat} {child : Tree σ} (plain : child.extra = false) :
    Tree.fits parts (child :: children) = true ↔ ∃ part rest symbol, parts = part :: rest ∧ child.label = .symbol symbol ∧
      part.testBit symbol = true ∧ Tree.fits rest children = true := by
  conv => lhs; unfold Tree.fits
  rw [if_neg (by simp [plain])]
  split
  · rename_i part rest symbol known
    rw [Bool.and_eq_true]
    constructor
    · rintro ⟨allowed, fits⟩
      exact ⟨part, rest, symbol, rfl, Tree.token?_eq_some.mp known, allowed, fits⟩
    · rintro ⟨_, _, other, same, label, allowed, fits⟩
      obtain ⟨rfl, rfl⟩ := List.cons.inj same
      obtain rfl := Option.some.inj (known.symm.trans (Tree.token?_eq_some.mpr label))
      exact ⟨allowed, fits⟩
  · rename_i none
    refine ⟨nofun, ?_⟩
    rintro ⟨part, rest, symbol, rfl, label, -⟩
    exact absurd (Tree.token?_eq_some.mpr label) (none part rest symbol rfl)

theorem Tree.label_of_fits {parts : List Nat} (fits : Tree.fits parts children = true) :
    ∀ child ∈ children, child.extra = false → ∃ symbol, child.label = .symbol symbol := by
  induction children generalizing parts with
  | nil => simp
  | cons child children ih =>
    intro other member plain
    cases aside : child.extra with
    | true =>
      rw [fits_cons_extra aside] at fits
      rcases List.mem_cons.mp member with rfl | member
      · rw [aside] at plain
        cases plain
      · exact ih fits other member plain
    | false =>
      obtain ⟨part, rest, symbol, -, label, -, fits⟩ := (fits_cons_part aside).mp fits
      rcases List.mem_cons.mp member with rfl | member
      · exact ⟨symbol, label⟩
      · exact ih fits other member plain

theorem Tree.fits_between_extras {parts : List Nat} {before after : List (Tree σ)}
    (early : ∀ tree ∈ before, tree.extra = true)
    (late : ∀ tree ∈ after, tree.extra = true) (fits : Tree.fits parts children = true) :
    Tree.fits parts (before ++ children ++ after) = true := by
  rw [List.append_assoc]
  induction before with
  | cons tree before ih =>
    obtain ⟨here, later⟩ := List.forall_mem_cons.mp early
    rw [List.cons_append, fits_cons_extra here]
    exact ih later
  | nil =>
    rw [List.nil_append]
    induction children generalizing parts with
    | nil =>
      rw [List.nil_append]
      induction after with
      | nil => exact fits
      | cons tree after ih =>
        obtain ⟨here, later⟩ := List.forall_mem_cons.mp late
        rw [fits_cons_extra here]
        exact ih later
    | cons child children ih =>
      rw [List.cons_append]
      cases aside : child.extra with
      | true =>
        rw [fits_cons_extra aside] at fits ⊢
        exact ih fits
      | false =>
        obtain ⟨part, rest, symbol, rfl, label, allowed, fits⟩ := (fits_cons_part aside).mp fits
        exact (fits_cons_part aside).mpr ⟨part, rest, symbol, rfl, label, allowed, ih fits⟩

variable {state place next stop : Nat} {facts : Facts σ}

theorem Derives.of_precedence (derives : Derives language source (.mk facts children)) (precedence : Int) :
    Derives language source (.mk { facts with precedence } children) := by
  cases derives with
  | token label small lexed origin stop aliases => exact .token label small lexed origin stop aliases
  | rule fills spans track each => exact .rule { fills with } { spans with } track each

theorem Sound.of_precedence (sound : Sound language source (.mk facts children)) (precedence : Int) :
    Sound language source (.mk { facts with precedence } children) :=
  { sound with
    measured := sound.measured.of_facts rfl rfl
    derives := fun free => (sound.derives free).of_precedence precedence }

theorem Step.of_precedence (step : Step language source state place (.mk facts children) next stop) (precedence : Int) :
    Step language source state place (.mk { facts with precedence } children) next stop :=
  { step with
    sound := step.sound.of_precedence precedence
    heeds := fun plain free leaf opens => by
      have same := step.heeds plain free
      cases opens with
      | self empty => exact same (.mk facts children) (.self empty)
      | first early inner opens => exact same leaf (.first early inner opens) }

/-- The children of a rule are no gathered errors, since these are no extras and have no symbol. -/
theorem Climb.ungathered (climb : Climb language source state place children next stop) {parts : List Nat}
    (fits : Tree.fits parts children = true) : ∀ child ∈ children, child.label ≠ .gathered := by
  intro child member gathered
  have plain := ((climb.sound child member).gathered gathered).1
  obtain ⟨symbol, label⟩ := Tree.label_of_fits fits child member plain
  rw [gathered] at label
  cases label

section Reduced
variable {root final : Nat} (orderly : language.Orderly root final) (visible : Bool)
  (climb : Climb language source state place children next stop) (alive : next ≠ 0)
  (inside : place ≤ source.size) (listed : language.HasRule rule) (fits : Tree.fits rule.parts children = true)
include orderly climb alive listed fits

theorem Climb.derives_rule
    (free : (Tree.ofChildren (.symbol rule.symbol) visible rule.aliases place children).cost = 0) :
    Derives language source (Tree.ofChildren (.symbol rule.symbol) visible rule.aliases place children) := by
  have frees : ∀ child ∈ children, child.cost = 0 := fun child member =>
    Tree.cost_of_ofChildren free child member (climb.ungathered fits child member)
  have fills : Fills language rule
    (Tree.ofChildren (.symbol rule.symbol) visible rule.aliases place children).facts
      children := {
    listed
    label := Tree.label_ofChildren
    aliases := Tree.aliases_ofChildren
    fits
    extras := fun child member extra => by
      obtain ⟨token, label, skips⟩ := (climb.sound child member).extra extra (frees child member)
      exact ⟨token, label, .inl skips⟩ }
  exact .rule fills Tree.spans_ofChildren (climb.track orderly alive frees)
    fun child member => (climb.sound child member).derives (frees child member)

include inside

theorem Climb.sound_rule :
    Sound language source (Tree.ofChildren (.symbol rule.symbol) visible rule.aliases place children) where
  measured := Tree.measured_ofChildren inside climb.chain
    (fun _ child member => (climb.sound child member).overt (climb.ungathered fits child member))
    fun child member => (climb.sound child member).measured
  gathered other := by
    rw [Tree.label_ofChildren] at other
    cases other
  error other := by
    rw [Tree.label_ofChildren] at other
    cases other
  derives := climb.derives_rule orderly visible alive listed fits
  extra aside := by
    rw [Tree.extra_ofChildren] at aside
    cases aside
  rule _ _ _ := ⟨climb.ungathered fits, Tree.cost_ofChildren_eq_zero rfl, by
    rw [Tree.origin_of_chain climb.chain (fun _ => rfl), Tree.stop_of_chain climb.chain (fun _ => rfl)]
    exact climb.chain⟩

theorem Climb.step_rule : Step language source state place
    (Tree.ofChildren (.symbol rule.symbol) visible rule.aliases place children)
    (language.next state rule.symbol) stop where
  sound := climb.sound_rule orderly visible alive inside listed fits
  stop := Tree.stop_of_chain climb.chain fun _ => rfl
  origin := Tree.origin_of_chain climb.chain fun _ => rfl
  moves := by
    have large : ¬ rule.symbol < language.tokenCount := Nat.not_lt.mpr (orderly.rule_symbol listed)
    rw [Language.next, if_neg large]
    by_cases leads : language.goto state rule.symbol = 0
    · exact .inl leads
    · exact .inr (.inr ⟨Tree.extra_ofChildren, rule.symbol, Tree.label_ofChildren,
        .goto (orderly.rule_symbol listed) leads⟩)
  heeds _ free leaf opens := by
    have frees : ∀ child ∈ children, child.cost = 0 := fun child member =>
      Tree.cost_of_ofChildren free child member (climb.ungathered fits child member)
    have track := climb.track orderly alive frees
    generalize whole : Tree.ofChildren (.symbol rule.symbol) visible rule.aliases place children = tree at opens
    have parts : tree.children = children := whole ▸ Tree.children_ofChildren
    cases opens with
    | self empty =>
      intro word
      rw [← whole, Tree.label_ofChildren] at word
      exact absurd orderly.word (Label.symbol.inj word ▸ Nat.not_lt.mpr (orderly.rule_symbol listed))
    | first early plain opens =>
      obtain rfl : _ = children := parts
      exact track.heeds_first early plain leaf opens

end Reduced

end Rules

end SourceAtlas.Syntax
