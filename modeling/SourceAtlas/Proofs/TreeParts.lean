import SourceAtlas.Proofs.Climbing
import Mathlib.Data.List.Forall2

/-! The children of a tree without errors: which of them are parts of its rule, where they stand, and how the
automaton moves over them. -/
namespace SourceAtlas.Syntax
variable {σ : Type} {language : Language σ} {source : Source}

namespace Tree

def constituents (children : List (Tree σ)) : List (Tree σ) :=
  children.filter fun child => !child.extra

theorem constituents_extra {tree : Tree σ} {trees : List (Tree σ)} (aside : tree.extra = true) :
    constituents (tree :: trees) = constituents trees := by
  simp [constituents, aside]

theorem constituents_part {tree : Tree σ} {trees : List (Tree σ)} (plain : tree.extra = false) :
    constituents (tree :: trees) = tree :: constituents trees := by
  simp [constituents, plain]

theorem forall₂_of_fits {parts : List Nat} {children : List (Tree σ)} (fits : Tree.fits parts children = true) :
    List.Forall₂ (fun part child => ∃ symbol, child.label = .symbol symbol ∧ part.testBit symbol = true) parts
      (constituents children) := by
  induction children generalizing parts with
  | nil =>
    unfold Tree.fits at fits
    rw [List.isEmpty_iff.mp fits]
    exact .nil
  | cons child children ih =>
    cases aside : child.extra with
    | true =>
      rw [constituents_extra aside]
      rw [fits_cons_extra aside] at fits
      exact ih fits
    | false =>
      rw [constituents_part aside]
      obtain ⟨part, rest, symbol, rfl, label, allowed, fits⟩ := (fits_cons_part aside).mp fits
      exact .cons ⟨symbol, label, allowed⟩ (ih fits)

theorem part_of_fits {parts : List Nat} {children : List (Tree σ)} (fits : Tree.fits parts children = true) {index : Nat}
    {child : Tree σ} (nth : (constituents children)[index]? = some child) :
    ∃ part symbol, parts[index]? = some part ∧ child.label = .symbol symbol ∧ part.testBit symbol = true := by
  have all := forall₂_of_fits fits
  clear fits
  generalize constituents children = list at all nth
  induction all generalizing index with
  | nil => cases nth
  | @cons part _ _ _ here _ ih =>
    cases index with
    | zero =>
      obtain rfl := Option.some.inj nth
      obtain ⟨symbol, label, allowed⟩ := here
      exact ⟨part, symbol, rfl, label, allowed⟩
    | succ index => exact ih nth

end Tree

section Order
open SourceAtlas.Syntax.Tree
variable {state place next stop : Nat} {children : List (Tree σ)}

theorem Track.inside (track : Track language source state place children next stop)
    (ordered : ∀ child ∈ children, child.facts.origin ≤ child.facts.start ∧ child.facts.start ≤ child.facts.stop) :
    place ≤ stop ∧ ∀ child ∈ children, place ≤ child.facts.start ∧ child.facts.stop ≤ stop := by
  have step {tree : Tree σ} {trees : List (Tree σ)} {place stop : Nat} (origin : tree.facts.origin = place)
      (here : tree.facts.origin ≤ tree.facts.start ∧ tree.facts.start ≤ tree.facts.stop)
      (rest : tree.facts.stop ≤ stop ∧ ∀ child ∈ trees, tree.facts.stop ≤ child.facts.start ∧ child.facts.stop ≤ stop) :
      place ≤ stop ∧ ∀ child ∈ tree :: trees, place ≤ child.facts.start ∧ child.facts.stop ≤ stop := by
    refine ⟨by omega, List.forall_mem_cons.mpr ⟨by omega, fun child member => ?_⟩⟩
    have := rest.2 child member
    omega
  induction track with
  | nil => exact ⟨Nat.le_refl _, by simp⟩
  | extra _ origin rest ih | part _ _ origin _ _ rest ih =>
    obtain ⟨here, later⟩ := List.forall_mem_cons.mp ordered
    exact step origin here (ih later)

theorem Track.stop_eq (track : Track language source state place children next stop) :
    stop = (children.getLast?.map (·.facts.stop)).getD place := by
  have step {tree : Tree σ} {trees : List (Tree σ)} {place stop : Nat}
      (rest : stop = (trees.getLast?.map (·.facts.stop)).getD tree.facts.stop) :
      stop = ((tree :: trees).getLast?.map (·.facts.stop)).getD place := by
    rw [rest]
    cases trees with
    | nil => rfl
    | cons second trees =>
      obtain ⟨last, known⟩ := Option.isSome_iff_exists.mp (List.getLast?_isSome.mpr (List.cons_ne_nil second trees))
      simp [known]
  induction track with
  | nil => rfl
  | extra _ _ _ ih | part _ _ _ _ _ _ ih => exact step ih

theorem Track.after_head {first : Tree σ} {rest : List (Tree σ)}
    (track : Track language source state place (first :: rest) next stop)
    (ordered : ∀ child ∈ rest, child.facts.origin ≤ child.facts.start ∧ child.facts.start ≤ child.facts.stop) :
    first.facts.stop ≤ stop ∧ ∀ child ∈ rest, first.facts.stop ≤ child.facts.start ∧ child.facts.stop ≤ stop := by
  cases track with
  | extra _ _ track | part _ _ _ _ _ track => exact track.inside ordered

theorem Spans.around {facts : Facts σ} (spans : Spans facts children)
    (track : Track language source state place children next stop)
    (ordered : ∀ child ∈ children, child.facts.origin ≤ child.facts.start ∧ child.facts.start ≤ child.facts.stop) :
    facts.origin ≤ facts.start ∧ facts.start ≤ facts.stop ∧
      ∀ child ∈ children, facts.start ≤ child.facts.start ∧ child.facts.stop ≤ facts.stop := by
  cases children with
  | nil =>
    obtain ⟨start, stop⟩ := spans.empty rfl
    exact ⟨Nat.le_of_eq start.symm, by omega, by simp⟩
  | cons first rest =>
    obtain ⟨low, high⟩ := ordered first List.mem_cons_self
    have start := spans.start first rfl
    have stop : facts.stop = stop := by
      obtain ⟨last, known⟩ := Option.isSome_iff_exists.mp (List.getLast?_isSome.mpr (List.cons_ne_nil first rest))
      rw [track.stop_eq, spans.stop last known, known]
      rfl
    obtain ⟨middle, after⟩ := track.after_head (fun child member => ordered child (List.mem_cons_of_mem _ member))
    refine ⟨by rw [spans.origin first rfl, start]; exact low, by omega, List.forall_mem_cons.mpr ⟨by omega, ?_⟩⟩
    intro child member
    have := after child member
    omega

theorem Derives.ordered {tree : Tree σ} (derives : Derives language source tree) :
    tree.facts.origin ≤ tree.facts.start ∧ tree.facts.start ≤ tree.facts.stop := by
  induction derives with
  | token _ _ _ origin stop _ => exact ⟨origin, stop⟩
  | rule fills spans track each ih =>
    obtain ⟨origin, stop, -⟩ := spans.around track ih
    exact ⟨origin, stop⟩

theorem Derives.around {tree child : Tree σ} (derives : Derives language source tree) (member : child ∈ tree.children) :
    tree.facts.start ≤ child.facts.start ∧ child.facts.stop ≤ tree.facts.stop := by
  cases derives with
  | token => cases member
  | rule fills spans track each =>
    exact (spans.around track fun child member => (each child member).ordered).2.2 child member

theorem Derives.child {tree child : Tree σ} (derives : Derives language source tree) (member : child ∈ tree.children) :
    Derives language source child := by
  cases derives with
  | token => cases member
  | rule _ _ _ each => exact each child member

theorem Derives.of_children {motive : Tree σ → Prop} (step : ∀ tree, Derives language source tree →
      (∀ child ∈ tree.children, motive child) → motive tree) {tree : Tree σ} (derives : Derives language source tree) :
    motive tree := by
  induction derives with
  | token label small lexed origin stop aliases =>
    exact step _ (.token label small lexed origin stop aliases) fun _ member => absurd member List.not_mem_nil
  | rule fills spans track each ih => exact step _ (.rule fills spans track each) ih

theorem Track.head_moves (track : Track language source state place children next stop) {first : Tree σ} {after : List (Tree σ)}
    (parts : constituents children = first :: after) :
    ∃ symbol middle, first.label = .symbol symbol ∧ language.Moves state symbol middle ∧
      ∀ leaf, Opens leaf first → Heeds language source state leaf := by
  induction track with
  | nil => cases parts
  | extra aside _ _ ih => exact ih (constituents_extra aside ▸ parts)
  | part plain label _ moves heeds _ ih =>
    rw [constituents_part plain] at parts
    obtain ⟨rfl, -⟩ := List.cons.inj parts
    exact ⟨_, _, label, moves, heeds⟩

theorem Track.consecutive (track : Track language source state place children next stop) {before after : List (Tree σ)}
    {first second : Tree σ} (parts : constituents children = before ++ first :: second :: after) :
    ∃ symbol other state middle last, first.label = .symbol symbol ∧ second.label = .symbol other ∧
      language.Moves state symbol middle ∧ language.Moves middle other last ∧
      ∀ leaf, Opens leaf second → Heeds language source middle leaf := by
  induction track generalizing before with
  | nil => exact absurd parts.symm (by simp [constituents])
  | extra aside _ _ ih => exact ih (constituents_extra aside ▸ parts)
  | part plain label _ moves _ rest ih =>
    rw [constituents_part plain] at parts
    cases before with
    | nil =>
      obtain ⟨rfl, later⟩ := List.cons.inj parts
      obtain ⟨other, last, known, next, heeds⟩ := rest.head_moves later
      exact ⟨_, other, _, _, last, label, known, moves, next, heeds⟩
    | cons _ before => exact ih (List.cons.inj parts).2

theorem Derives.consecutive {tree : Tree σ} (derives : Derives language source tree) {before after : List (Tree σ)}
    {first second : Tree σ} (parts : constituents tree.children = before ++ first :: second :: after) :
    ∃ symbol other state middle last, first.label = .symbol symbol ∧ second.label = .symbol other ∧
      language.Moves state symbol middle ∧ language.Moves middle other last ∧
      ∀ leaf, Opens leaf second → Heeds language source middle leaf := by
  cases derives with
  | token => exact absurd (show constituents [] = _ from parts).symm (by simp [constituents])
  | rule _ _ track _ => exact track.consecutive parts

theorem opens_of_constituents {tree leaf : Tree σ} {after : List (Tree σ)}
    (parts : constituents tree.children = leaf :: after) (empty : leaf.children = []) : Opens leaf tree := by
  obtain ⟨facts, children⟩ := tree
  obtain ⟨before, behind, rfl, early, plain, -⟩ := List.filter_eq_cons_iff.mp parts
  exact .first (fun child member => by simpa using early child member) (by simpa using plain) (.self empty)

end Order

end SourceAtlas.Syntax
