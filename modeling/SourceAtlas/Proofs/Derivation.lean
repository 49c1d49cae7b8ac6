import SourceAtlas.Proofs.Lengths
import SourceAtlas.Syntax.Stack
import Mathlib.Data.List.Basic

/-! What a tree without errors is: a token that was read off the text, or the parts of a rule side by
side, along a walk through the automaton. Of a tree with errors it is only known that its parts cover the text without
gaps, and that its measures are those of the text that it covers. -/
namespace SourceAtlas.Syntax
variable {σ : Type}

namespace Language

/-- The automaton goes from a state to another one over a token or over the symbol of a rule. -/
inductive Moves (language : Language σ) : (state symbol next : Nat) → Prop
  | shift {state token next : Nat} {repeating : Bool}
      (listed : .shift next repeating ∈ language.actions state token) : Moves language state token next
  | goto {state symbol : Nat} (rule : language.tokenCount ≤ symbol) (leads : language.goto state symbol ≠ 0) :
      Moves language state symbol (language.goto state symbol)

def HasRule (language : Language σ) (rule : Rule) : Prop :=
  ∃ state token, .reduce rule ∈ language.actions state token

def SkipsToken (language : Language σ) (token : Nat) : Prop :=
  ∃ state, .shiftExtra ∈ language.actions state token

def Lands (language : Language σ) (state : Nat) : Prop :=
  ∃ below symbol, language.goto below symbol = state

end Language

inductive Opens (leaf : Tree σ) : Tree σ → Prop
  | self (empty : leaf.children = []) : Opens leaf leaf
  | first {facts : Facts σ} {before after : List (Tree σ)} {child : Tree σ} (early : ∀ tree ∈ before, tree.extra = true)
      (plain : child.extra = false) (opens : Opens leaf child) : Opens leaf (.mk facts (before ++ child :: after))

section Derivations
variable (language : Language σ) (source : Source)

/-- A token that one of the two readers finds in the text, or the keyword that a word spells. -/
inductive Lexed : (symbol start stop : Nat) → Prop
  | scanned {expected place : Nat} {memory : Option σ} {scan : Scan σ}
      (found : language.scan expected source place memory = some scan) :
      Lexed scan.lexeme.symbol scan.lexeme.start scan.lexeme.stop
  | read {mode place : Nat} {lexeme : Lexeme} (found : language.read mode source place = .found lexeme) :
      Lexed lexeme.symbol lexeme.start lexeme.stop
  | keyword {mode place symbol : Nat} {lexeme : Lexeme} (found : language.read mode source place = .found lexeme)
      (word : lexeme.symbol = language.word)
      (spelled : language.keyword source lexeme.start lexeme.stop = some symbol) :
      Lexed symbol lexeme.start lexeme.stop

/-- A word that spells a keyword is not taken for a word where the keyword could be taken. A state behind a rule may
have another use for a word that was read before. -/
def Heeds (state : Nat) (leaf : Tree σ) : Prop :=
  leaf.label = .symbol language.word → ∀ keyword ∈ language.keyword source leaf.facts.start leaf.facts.stop,
    language.Lands state ∨ ∀ target, .shift target false ∉ language.actions state keyword

/-- Trees side by side from one place to another, over which the automaton goes from one state to another. -/
inductive Track : (state place : Nat) → List (Tree σ) → (next stop : Nat) → Prop
  | nil {state place : Nat} : Track state place [] state place
  | extra {state place next stop : Nat} {tree : Tree σ} {trees : List (Tree σ)} (extra : tree.extra = true)
      (origin : tree.facts.origin = place) (rest : Track state tree.facts.stop trees next stop) :
      Track state place (tree :: trees) next stop
  | part {state middle place next stop symbol : Nat} {tree : Tree σ} {trees : List (Tree σ)}
      (plain : tree.extra = false) (label : tree.label = .symbol symbol) (origin : tree.facts.origin = place)
      (moves : language.Moves state symbol middle) (heeds : ∀ leaf, Opens leaf tree → Heeds language source state leaf)
      (rest : Track middle tree.facts.stop trees next stop) :
      Track state place (tree :: trees) next stop

structure Spans (facts : Facts σ) (children : List (Tree σ)) : Prop where
  origin : ∀ first ∈ children.head?, facts.origin = first.facts.origin
  start : ∀ first ∈ children.head?, facts.start = first.facts.start
  stop : ∀ last ∈ children.getLast?, facts.stop = last.facts.stop
  empty : children = [] → facts.start = facts.origin ∧ facts.stop = facts.origin

structure Fills (rule : Rule) (facts : Facts σ) (children : List (Tree σ)) : Prop where
  listed : language.HasRule rule
  label : facts.label = .symbol rule.symbol
  aliases : facts.aliases = rule.aliases
  fits : Tree.fits rule.parts children = true
  extras : ∀ child ∈ children, child.extra = true → ∃ token, child.label = .symbol token ∧
    (language.SkipsToken token ∨ token = 0)

inductive Derives : Tree σ → Prop
  | token {facts : Facts σ} {symbol : Nat} (label : facts.label = .symbol symbol) (small : symbol < language.tokenCount)
      (lexed : Lexed language source symbol facts.start facts.stop) (origin : facts.origin ≤ facts.start)
      (stop : facts.start ≤ facts.stop) (aliases : facts.aliases = []) : Derives (.mk facts [])
  | rule {facts : Facts σ} {children : List (Tree σ)} {rule : Rule} {state place next stop : Nat}
      (fills : Fills language rule facts children) (spans : Spans facts children)
      (track : Track language source state place children next stop) (each : ∀ child ∈ children, Derives child) :
      Derives (.mk facts children)

/-- Trees side by side from one place to another. -/
inductive Chain : (place : Nat) → List (Tree σ) → (stop : Nat) → Prop
  | nil {place : Nat} : Chain place [] place
  | cons {place stop : Nat} {tree : Tree σ} {trees : List (Tree σ)} (origin : tree.facts.origin = place)
      (rest : Chain tree.facts.stop trees stop) : Chain place (tree :: trees) stop

/-- The measures of a tree are those of the text between its places. -/
structure Measures (facts : Facts σ) : Prop where
  origin : facts.origin ≤ facts.start
  start : facts.start ≤ facts.stop
  stop : facts.stop ≤ source.size
  padding : facts.padding = source.between facts.origin facts.start
  size : facts.size = source.between facts.start facts.stop

/-- A tree that shows its errors. -/
structure Overt (tree : Tree σ) : Prop where
  seen : tree.label ≠ .gathered
  error : tree.label = .error → tree.extra = true ∧ 0 < tree.cost

/-- Every part of a tree has the measures of its text, and the parts of a part cover it. Errors outside of other errors
are shown, and where a part has a cost, so has the whole. -/
inductive Measured : Tree σ → Prop
  | mk {facts : Facts σ} {children : List (Tree σ)} (measures : Measures source facts)
      (first : ∀ first ∈ children.head?, facts.start = first.facts.start)
      (chain : children ≠ [] → Chain facts.origin children facts.stop)
      (overt : facts.label.isError = false → ∀ child ∈ children,
        Overt child ∧ (0 < child.cost → 0 < (Tree.mk facts children).cost))
      (each : ∀ child ∈ children, Measured child) : Measured (.mk facts children)

/-- A tree as it may lie on the stack. If nothing in it costs, there is no error in it; errors always
cost, those that are still being gathered also where they are parts of something else. -/
structure Sound (tree : Tree σ) : Prop where
  measured : Measured source tree
  gathered : tree.label = .gathered → tree.extra = false ∧ 0 < tree.cost
  error : tree.label = .error → (tree.extra = true ∧ 0 < tree.cost) ∧
    ∃ last, tree.children.getLast? = some last ∧ last.extra = false ∧ last.facts.stop = tree.facts.stop
  derives : tree.cost = 0 → Derives language source tree
  extra : tree.extra = true → tree.cost = 0 → ∃ token, tree.label = .symbol token ∧ language.SkipsToken token
  rule : ∀ symbol, tree.label = .symbol symbol → language.tokenCount ≤ symbol →
    (∀ child ∈ tree.children, child.label ≠ .gathered) ∧ ((∀ child ∈ tree.children, child.cost = 0) → tree.cost = 0) ∧
      Chain tree.facts.origin tree.children tree.facts.stop

end Derivations

namespace Chain
variable {place middle stop : Nat} {trees others : List (Tree σ)}

theorem append (first : Chain place trees middle) (second : Chain middle others stop) :
    Chain place (trees ++ others) stop := by
  induction first with
  | nil => exact second
  | cons origin _ ih => exact .cons origin (ih second)

theorem single {tree : Tree σ} (origin : tree.facts.origin = place) : Chain place [tree] tree.facts.stop :=
  .cons origin .nil

theorem of_single {tree : Tree σ} (chain : Chain place [tree] stop) :
    tree.facts.origin = place ∧ tree.facts.stop = stop := by
  cases chain with
  | cons origin rest =>
    cases rest
    exact ⟨origin, rfl⟩

theorem stop_eq (chain : Chain place trees stop) : stop = (trees.getLast?.map (·.facts.stop)).getD place := by
  induction chain with
  | nil => rfl
  | @cons place stop tree trees origin rest ih =>
    rw [ih]
    cases trees with
    | nil => rfl
    | cons second trees =>
      obtain ⟨last, known⟩ := Option.isSome_iff_exists.mp (List.getLast?_isSome.mpr (List.cons_ne_nil second trees))
      simp [known]

theorem head (chain : Chain place trees stop) {tree : Tree σ} (first : tree ∈ trees.head?) :
    tree.facts.origin = place := by
  cases chain with
  | nil => cases first
  | cons origin => exact Option.some.inj first ▸ origin

theorem of_append (chain : Chain place (trees ++ others) stop) :
    ∃ middle, Chain place trees middle ∧ Chain middle others stop := by
  induction trees generalizing place with
  | nil => exact ⟨place, .nil, chain⟩
  | cons tree trees ih =>
    cases chain with
    | cons origin rest =>
      obtain ⟨middle, first, second⟩ := ih rest
      exact ⟨middle, .cons origin first, second⟩

end Chain

theorem Measures.le {source : Source} {facts : Facts σ} (measures : Measures source facts) :
    facts.origin ≤ facts.stop :=
  Nat.le_trans measures.origin measures.start

namespace Measured
variable {source : Source} {tree : Tree σ}

theorem measures (measured : Measured source tree) : Measures source tree.facts := by
  cases measured with
  | mk measures => exact measures

theorem leaf {facts : Facts σ} (measures : Measures source facts) : Measured source (.mk facts []) :=
  .mk measures (by simp) (fun parts => absurd rfl parts) (by simp) (by simp)

theorem intro (measures : Measures source tree.facts)
    (first : ∀ first ∈ tree.children.head?, tree.facts.start = first.facts.start)
    (chain : tree.children ≠ [] → Chain tree.facts.origin tree.children tree.facts.stop)
    (overt : tree.label.isError = false → ∀ child ∈ tree.children, Overt child ∧ (0 < child.cost → 0 < tree.cost))
    (each : ∀ child ∈ tree.children, Measured source child) : Measured source tree := by
  cases tree with
  | mk facts children => exact .mk measures first chain overt each

theorem stop (measured : Measured source tree) : tree.facts.stop ≤ source.size :=
  measured.measures.stop

theorem chain (measured : Measured source tree) (parts : tree.children ≠ []) :
    Chain tree.facts.origin tree.children tree.facts.stop := by
  cases measured with
  | mk _ _ chain => exact chain parts

theorem child (measured : Measured source tree) {child : Tree σ} (member : child ∈ tree.children) :
    Measured source child := by
  cases measured with
  | mk _ _ _ _ each => exact each child member

theorem overt (measured : Measured source tree) (plain : tree.label.isError = false) {child : Tree σ}
    (member : child ∈ tree.children) : Overt child := by
  cases measured with
  | mk _ _ _ overt => exact (overt plain child member).1

theorem of_facts {facts changed : Facts σ} {children : List (Tree σ)} (measured : Measured source (.mk facts children))
    (same : (changed.origin, changed.start, changed.stop, changed.padding, changed.size) =
      (facts.origin, facts.start, facts.stop, facts.padding, facts.size))
    (alike : (changed.label, changed.missing, changed.cost) = (facts.label, facts.missing, facts.cost)) :
    Measured source (.mk changed children) := by
  simp only [Prod.mk.injEq] at same alike
  obtain ⟨origin, start, stop, padding, size⟩ := same
  obtain ⟨label, missing, cost⟩ := alike
  cases measured with
  | mk measures first chain overt each =>
    refine .mk ⟨?_, ?_, ?_, ?_, ?_⟩ ?_ ?_ ?_ each
    all_goals simp only [origin, start, stop, padding, size, label, Tree.cost, Tree.facts, missing, cost]
    exacts [measures.origin, measures.start, measures.stop, measures.padding, measures.size, first, chain, overt]

end Measured

theorem Chain.le {source : Source} {place stop : Nat} {trees : List (Tree σ)} (chain : Chain place trees stop)
    (each : ∀ tree ∈ trees, Measured source tree) : place ≤ stop := by
  induction chain with
  | nil => exact Nat.le_refl _
  | cons origin rest ih =>
    obtain ⟨measured, later⟩ := List.forall_mem_cons.mp each
    exact Nat.le_trans (origin ▸ measured.measures.le) (ih later)

section Building
variable {source : Source} {label : Label} {visible : Bool} {aliases : List (Option Appearance)} {place : Nat}
  {children : List (Tree σ)}

namespace Tree

private def addChildren (facts : Facts σ) (aliases : List (Option Appearance)) (children : List (Tree σ)) : Facts σ :=
  (children.foldl (fun acc child => addChild acc.1 acc.2 child) (facts, aliases)).1

private theorem addChildren_cons (facts : Facts σ) (aliases : List (Option Appearance)) (child : Tree σ)
    (children : List (Tree σ)) : addChildren facts aliases (child :: children) =
      addChildren (addChild facts aliases child).1 (addChild facts aliases child).2 children := rfl

private theorem addChildren_view {α : Type} {view : Facts σ → α}
    (same : ∀ facts aliases child, view (addChild facts aliases child).1 = view facts) (facts : Facts σ)
    (aliases : List (Option Appearance)) (children : List (Tree σ)) :
    view (addChildren facts aliases children) = view facts := by
  induction children generalizing facts aliases with
  | nil => rfl
  | cons child children ih => rw [addChildren_cons, ih, same]

private theorem addChildren_stop (facts : Facts σ) (aliases : List (Option Appearance)) (children : List (Tree σ)) :
    (addChildren facts aliases children).stop = (children.getLast?.map (·.facts.stop)).getD facts.stop := by
  induction children generalizing facts aliases with
  | nil => rfl
  | cons child children ih =>
    rw [addChildren_cons, ih]
    cases children with
    | nil => rfl
    | cons second children =>
      obtain ⟨last, known⟩ := Option.isSome_iff_exists.mp (List.getLast?_isSome.mpr (List.cons_ne_nil second children))
      simp [known]

private theorem countChild_eq (facts : Facts σ) (renamed : Bool) (child : Tree σ) : ∃ descendants inside,
    countChild facts renamed child =
      { facts with visibleDescendants := descendants, visibleChildren := inside } := by
  unfold countChild
  by_cases seen : (renamed || child.facts.visible) = true
  · exact ⟨_, _, if_pos seen⟩
  · exact ⟨_, _, if_neg seen⟩

private theorem addChild_cost (facts : Facts σ) (aliases : List (Option Appearance)) (child : Tree σ) :
    (addChild facts aliases child).1.cost = facts.cost + (if child.label = .gathered then 0 else child.cost) +
      if facts.label.isError then skippedCost child else 0 := by
  obtain ⟨_, _, counted⟩ := countChild_eq facts (!child.extra && (aliases.head?.join).isSome) child
  simp only [addChild, counted]

private theorem addChild_kept (facts : Facts σ) (aliases : List (Option Appearance)) (child : Tree σ) :
    (addChild facts aliases child).1.label = facts.label ∧ (addChild facts aliases child).1.origin = facts.origin ∧
    (addChild facts aliases child).1.start = facts.start ∧ (addChild facts aliases child).1.extra = facts.extra ∧
    (addChild facts aliases child).1.missing = facts.missing ∧
    (addChild facts aliases child).1.aliases = facts.aliases ∧
    (addChild facts aliases child).1.padding = facts.padding ∧ (addChild facts aliases child).1.size = facts.size := by
  obtain ⟨_, _, counted⟩ := countChild_eq facts (!child.extra && (aliases.head?.join).isSome) child
  simp only [addChild, counted, and_self]

private theorem cost_le_addChildren (facts : Facts σ) (aliases : List (Option Appearance)) (children : List (Tree σ)) :
    facts.cost ≤ (addChildren facts aliases children).cost ∧
      ∀ child ∈ children, child.label ≠ .gathered → child.cost ≤ (addChildren facts aliases children).cost := by
  induction children generalizing facts aliases with
  | nil => exact ⟨Nat.le_refl _, by simp⟩
  | cons child children ih =>
    obtain ⟨start, later⟩ := ih (addChild facts aliases child).1 (addChild facts aliases child).2
    have cost := addChild_cost facts aliases child
    rw [addChildren_cons]
    refine ⟨by omega, fun other member plain => ?_⟩
    rcases List.mem_cons.mp member with rfl | member
    · rw [if_neg plain] at cost
      omega
    · exact later other member plain

private theorem addChildren_cost_eq_zero {facts : Facts σ} (free : facts.cost = 0) (rule : facts.label.isError = false)
    (aliases : List (Option Appearance)) {children : List (Tree σ)} (each : ∀ child ∈ children, child.cost = 0) :
    (addChildren facts aliases children).cost = 0 := by
  induction children generalizing facts aliases with
  | nil => exact free
  | cons child children ih =>
    rw [addChildren_cons]
    have cost := addChild_cost facts aliases child
    apply ih
    · rw [cost, free, rule, each child List.mem_cons_self]
      simp
    · rw [(addChild_kept facts aliases child).1, rule]
    · exact fun other member => each other (List.mem_cons_of_mem _ member)

private def bareFacts (label : Label) (visible : Bool) (aliases : List (Option Appearance)) (place : Nat)
    (children : List (Tree σ)) : Facts σ :=
  { label, visible, aliases
    origin := (children.head?.map (·.facts.origin)).getD place
    start := (children.head?.map (·.facts.start)).getD place
    stop := (children.head?.map (·.facts.start)).getD place
    padding := (children.head?.map (·.facts.padding)).getD 0
    size := sizeOfAll children
    extra := false, cost := 0, precedence := 0, visibleChildren := 0, visibleDescendants := 0, missing := false
    keyword := false, state := 0, memory := none, renewed := false }

variable (label visible aliases place children) in
private theorem facts_ofChildren : ∃ ownCost, (label.isError = true → 0 < ownCost) ∧
    (label.isError = false → ownCost = 0) ∧ ofChildren label visible aliases place children =
      let facts := addChildren (bareFacts label visible aliases place children) aliases children
      .mk { facts with cost := facts.cost + ownCost } children := by
  refine ⟨_, ?_, ?_, rfl⟩
  · intro error
    rw [if_pos error, Nat.add_assoc]
    exact Nat.add_pos_left (by decide) _
  · intro rule
    rw [if_neg (by simp [rule])]

theorem children_ofChildren : (ofChildren label visible aliases place children).children = children := rfl

theorem label_ofChildren : (ofChildren label visible aliases place children).label = label :=
  addChildren_view (fun facts aliases child => (addChild_kept facts aliases child).1) _ _ _

theorem extra_ofChildren : (ofChildren label visible aliases place children).extra = false :=
  addChildren_view (fun facts aliases child => (addChild_kept facts aliases child).2.2.2.1) _ _ _

theorem aliases_ofChildren : (ofChildren label visible aliases place children).facts.aliases = aliases :=
  addChildren_view (fun facts aliases child => (addChild_kept facts aliases child).2.2.2.2.2.1) _ _ _

theorem origin_ofChildren : (ofChildren label visible aliases place children).facts.origin =
    (children.head?.map (·.facts.origin)).getD place :=
  addChildren_view (fun facts aliases child => (addChild_kept facts aliases child).2.1) _ _ _

theorem start_ofChildren : (ofChildren label visible aliases place children).facts.start =
    (children.head?.map (·.facts.start)).getD place :=
  addChildren_view (fun facts aliases child => (addChild_kept facts aliases child).2.2.1) _ _ _

theorem stop_ofChildren : (ofChildren label visible aliases place children).facts.stop =
    (children.getLast?.map (·.facts.stop)).getD place := by
  refine (addChildren_stop _ _ _).trans ?_
  cases children with
  | nil => rfl
  | cons child children =>
    obtain ⟨last, known⟩ := Option.isSome_iff_exists.mp (List.getLast?_isSome.mpr (List.cons_ne_nil child children))
    rw [known]
    rfl

variable (label visible aliases place children) in
private theorem cost_ofChildren_eq : ∃ ownCost, (label.isError = true → 0 < ownCost) ∧
    (label.isError = false → ownCost = 0) ∧ (ofChildren label visible aliases place children).cost =
      (addChildren (bareFacts label visible aliases place children) aliases children).cost + ownCost := by
  obtain ⟨ownCost, positive, free, same⟩ := facts_ofChildren label visible aliases place children
  have present : (addChildren (bareFacts label visible aliases place children) aliases children).missing = false :=
    addChildren_view (fun facts aliases child => (addChild_kept facts aliases child).2.2.2.2.1) _ _ _
  refine ⟨ownCost, positive, free, ?_⟩
  rw [same]
  simp only [cost, facts, present]
  rfl

theorem cost_ofChildren_pos (error : label.isError = true) :
    0 < (ofChildren label visible aliases place children).cost := by
  obtain ⟨ownCost, positive, -, same⟩ := cost_ofChildren_eq label visible aliases place children
  have own := positive error
  omega

theorem cost_of_ofChildren (free : (ofChildren label visible aliases place children).cost = 0) :
    ∀ child ∈ children, child.label ≠ .gathered → child.cost = 0 := by
  intro child member plain
  obtain ⟨ownCost, -, -, same⟩ := cost_ofChildren_eq label visible aliases place children
  have le := (cost_le_addChildren (bareFacts label visible aliases place children) aliases children).2 child member plain
  omega

theorem cost_ofChildren_eq_zero (rule : label.isError = false) (each : ∀ child ∈ children, child.cost = 0) :
    (ofChildren label visible aliases place children).cost = 0 := by
  obtain ⟨ownCost, -, free, same⟩ := cost_ofChildren_eq label visible aliases place children
  have own := free rule
  have sum := addChildren_cost_eq_zero (show (bareFacts label visible aliases place children).cost = 0 from rfl) rule
    aliases each
  omega

theorem padding_ofChildren : (ofChildren label visible aliases place children).facts.padding =
    (children.head?.map (·.facts.padding)).getD 0 :=
  addChildren_view (fun facts aliases child => (addChild_kept facts aliases child).2.2.2.2.2.2.1) _ _ _

theorem size_ofChildren : (ofChildren label visible aliases place children).facts.size = sizeOfAll children :=
  addChildren_view (fun facts aliases child => (addChild_kept facts aliases child).2.2.2.2.2.2.2) _ _ _

section Chain
variable {origin stop : Nat} (chain : Chain origin children stop) (empty : children = [] → place = origin)
include chain empty

theorem origin_of_chain : (ofChildren label visible aliases place children).facts.origin = origin := by
  rw [origin_ofChildren]
  cases chain with
  | nil => exact empty rfl
  | cons first => exact first

theorem stop_of_chain : (ofChildren label visible aliases place children).facts.stop = stop := by
  rw [stop_ofChildren, chain.stop_eq]
  cases known : children.getLast? with
  | none => exact empty (List.getLast?_eq_none_iff.mp known)
  | some last => rfl

end Chain

private theorem foldl_total {start middle stop : Nat} {trees : List (Tree σ)} (chain : Chain middle trees stop)
    (each : ∀ tree ∈ trees, Measured source tree) (le : start ≤ middle) :
    trees.foldl (fun size tree => size + tree.total) (source.between start middle) = source.between start stop := by
  induction chain with
  | nil => rfl
  | @cons middle stop tree trees origin rest ih =>
    obtain ⟨measured, later⟩ := List.forall_mem_cons.mp each
    have behind : middle ≤ tree.facts.stop := origin ▸ measured.measures.le
    have total : tree.total = source.between middle tree.facts.stop := by
      rw [Tree.total, measured.measures.padding, measured.measures.size,
        source.between_add measured.measures.origin measured.measures.start, origin]
    rw [List.foldl_cons, total, source.between_add le behind, ih later (Nat.le_trans le behind)]

/-- A tree over trees side by side has the measures of the text that they cover. -/
theorem measured_ofChildren {origin stop : Nat} (inside : place ≤ source.size) (chain : Chain origin children stop)
    (overt : label.isError = false → ∀ child ∈ children, Overt child)
    (each : ∀ child ∈ children, Measured source child) :
    Measured source (ofChildren label visible aliases place children) := by
  have shown : (ofChildren label visible aliases place children).label.isError = false →
      ∀ child ∈ (ofChildren label visible aliases place children).children,
      Overt child ∧ (0 < child.cost → 0 < (ofChildren label visible aliases place children).cost) := by
    rw [label_ofChildren, children_ofChildren]
    refine fun plain child member => ⟨overt plain child member, fun costs => Nat.pos_of_ne_zero fun free => ?_⟩
    exact Nat.ne_of_gt costs (cost_of_ofChildren free child member (overt plain child member).seen)
  cases chain with
  | nil =>
    refine .intro ⟨?_, ?_, ?_, ?_, ?_⟩ (by simp [children_ofChildren]) (fun parts => absurd rfl parts) shown each
    all_goals simp [origin_ofChildren, start_ofChildren, stop_ofChildren, padding_ofChildren, size_ofChildren, sizeOfAll,
      inside]
  | @cons _ _ tree trees origin rest =>
    have measures := (each tree List.mem_cons_self).measures
    have behind := (List.forall_mem_cons.mp each).2
    have later := rest.le behind
    obtain ⟨last, ends⟩ := Option.isSome_iff_exists.mp (List.getLast?_isSome.mpr (List.cons_ne_nil tree trees))
    have covered : stop = (ofChildren label visible aliases place (tree :: trees)).facts.stop := by
      simp [stop_ofChildren, ends, (Chain.cons origin rest).stop_eq]
    refine .intro ⟨?_, ?_, ?_, ?_, ?_⟩ (fun first known => ?_) (fun _ => ?_) shown each
    · simpa [origin_ofChildren, start_ofChildren] using measures.origin
    · rw [← covered, start_ofChildren]
      exact Nat.le_trans measures.start later
    · simpa [stop_ofChildren, ends] using (each last (List.mem_of_getLast? ends)).stop
    · simpa [padding_ofChildren, origin_ofChildren, start_ofChildren] using measures.padding
    · rw [← covered, start_ofChildren, size_ofChildren, sizeOfAll, measures.size]
      exact foldl_total rest behind measures.start
    · obtain rfl : tree = first := by simpa [children_ofChildren] using known
      exact start_ofChildren
    · rw [← covered, origin_ofChildren, children_ofChildren]
      exact .cons rfl rest

theorem spans_ofChildren : Spans (ofChildren label visible aliases place children).facts children where
  origin first known := by simp [origin_ofChildren, Option.mem_def.mp known]
  start first known := by simp [start_ofChildren, Option.mem_def.mp known]
  stop last known := by simp [stop_ofChildren, Option.mem_def.mp known]
  empty none := by simp [origin_ofChildren, start_ofChildren, stop_ofChildren, none]

section Extra
variable (tree : Tree σ) (extra : Bool)

@[simp] theorem extra_withExtra : (tree.withExtra extra).extra = extra := by cases tree; rfl

@[simp] theorem label_withExtra : (tree.withExtra extra).label = tree.label := by cases tree; rfl

@[simp] theorem children_withExtra : (tree.withExtra extra).children = tree.children := by cases tree; rfl

@[simp] theorem cost_withExtra : (tree.withExtra extra).cost = tree.cost := by cases tree; rfl

@[simp] theorem origin_withExtra : (tree.withExtra extra).facts.origin = tree.facts.origin := by cases tree; rfl

@[simp] theorem stop_withExtra : (tree.withExtra extra).facts.stop = tree.facts.stop := by cases tree; rfl

variable {tree} in
theorem measured_withExtra {source : Source} (measured : Measured source tree) :
    Measured source (tree.withExtra extra) := by
  cases tree with
  | mk facts children => exact measured.of_facts rfl rfl

end Extra

end Tree

end Building

section Sound
variable {language : Language σ} {source : Source} {place : Nat} {children : List (Tree σ)}

open SourceAtlas.Syntax.Tree

theorem Sound.overt {tree : Tree σ} (sound : Sound language source tree) (seen : tree.label ≠ .gathered) : Overt tree :=
  ⟨seen, fun label => (sound.error label).1⟩

theorem sound_gathered {origin stop : Nat} (inside : place ≤ source.size) (chain : Chain origin children stop)
    (each : ∀ child ∈ children, Measured source child) :
    Sound language source (Tree.gathered place children) := by
  have label : (Tree.gathered place children).label = .gathered := label_ofChildren
  have costs : 0 < (Tree.gathered place children).cost := cost_ofChildren_pos rfl
  exact {
    measured := measured_ofChildren inside chain (fun plain => absurd plain (by decide)) each
    gathered := fun _ => ⟨extra_ofChildren, costs⟩
    error := fun other => by rw [label] at other; cases other
    derives := fun free => by omega
    extra := fun _ free => by omega
    rule := fun symbol other => by rw [label] at other; cases other }

theorem sound_error {origin stop : Nat} {last : Tree σ} (inside : place ≤ source.size) (chain : Chain origin children stop)
    (each : ∀ child ∈ children, Measured source child) (ends : children.getLast? = some last)
    (plain : last.extra = false) : Sound language source (Tree.error true place children) := by
  have label : (Tree.error true place children).label = .error := by
    rw [Tree.error, label_withExtra, label_ofChildren]
  have costs : 0 < (Tree.error true place children).cost := by
    rw [Tree.error, cost_withExtra]
    exact cost_ofChildren_pos rfl
  have stop : last.facts.stop = (Tree.error true place children).facts.stop := by
    rw [Tree.error, stop_withExtra, stop_ofChildren, ends]
    rfl
  have parts : (Tree.error true place children).children = children := by
    rw [Tree.error, children_withExtra, children_ofChildren]
  exact {
    measured := measured_withExtra true (measured_ofChildren inside chain (fun plain => absurd plain (by decide)) each)
    gathered := fun other => by rw [label] at other; cases other
    error := fun _ => ⟨⟨extra_withExtra .., costs⟩, last, by rw [parts, ends], plain, stop⟩
    derives := fun free => by omega
    extra := fun _ free => by omega
    rule := fun symbol other => by rw [label] at other; cases other }

theorem sound_missing {symbol : Nat} (inside : place ≤ source.size) (token : symbol < language.tokenCount) :
    Sound language source (Tree.ofMissing language symbol place) := by
  have costs : 0 < (Tree.ofMissing language symbol place).cost := Nat.succ_pos _
  exact {
    measured := .leaf ⟨Nat.le_refl _, Nat.le_refl _, inside, (source.between_self _).symm, (source.between_self _).symm⟩
    gathered := fun other => by cases other
    error := fun other => by cases other
    derives := fun free => by omega
    extra := fun _ free => by omega
    rule := fun other known above => by
      obtain rfl : symbol = other := Label.symbol.inj known
      omega }

end Sound

end SourceAtlas.Syntax
