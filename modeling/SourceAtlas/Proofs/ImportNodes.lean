import SourceAtlas.Proofs.PythonRules

/-! The import nodes of a tree without errors: nothing is missing in them, and all their names are identifiers. -/
namespace SourceAtlas.Python
open SourceAtlas.Syntax
open Lexis (IsIdentifier)

section Spelling

/-- All names of a target are identifiers, and it has one. -/
structure Target.Spelled (target : Target) : Prop where
  nonempty : target.name ≠ []
  name : ∀ part ∈ target.name, IsIdentifier part
  localName : ∀ part ∈ target.localName, IsIdentifier part

/-- There are targets, and the names of all are identifiers. -/
structure AllSpelled (targets : List Target) : Prop where
  nonempty : targets ≠ []
  each : ∀ target ∈ targets, target.Spelled

def Selection.Spelled : Selection → Prop
  | .everything => True
  | .targets chosen => AllSpelled chosen

/-- All names of an import are identifiers, and it lacks nothing: it has targets or takes everything, and a module has
a name or leading dots. -/
def Import.Spelled : Import → Prop
  | .modules targets => AllSpelled targets
  | .names dots module selection =>
    (∀ part ∈ module, IsIdentifier part) ∧ (module = [] → 0 < dots) ∧ selection.Spelled

theorem isIdentifier_future : IsIdentifier "__future__" :=
  ⟨'_', "_future__".toList, by decide, by decide +kernel, List.all_eq_true.mp (by decide +kernel)⟩

end Spelling

section Trees
open Automaton SourceAtlas.Syntax.Tree
variable {source : Source} {tree : Syntax.Tree Memory} {symbol : Nat}

structure Gathers (symbols : List Nat) (symbol : Nat) : Prop where
  hidden : (language.appearance symbol).visible = false
  shaped : symbol ∈ shapes.map Prod.fst
  parts : ∀ entry ∈ shapes, entry.1 = symbol → ∀ part ∈ entry.2, part ⊆ symbols

theorem told_gathered {symbols : List Nat} {holds : Node → Prop} (closed : ∀ symbol ∈ symbols, Gathers symbols symbol ∨
      ∀ tree, Derives language source tree → tree.label = .symbol symbol → ∀ node ∈ told source tree, holds node)
    (derives : Derives language source tree) :
    ∀ symbol ∈ symbols, tree.label = .symbol symbol → ∀ node ∈ told source tree, holds node := by
  apply Derives.of_children (motive := fun tree => ∀ symbol ∈ symbols, tree.label = .symbol symbol →
    ∀ node ∈ told source tree, holds node) ?_ derives
  intro tree derives ih symbol listed label
  rcases closed symbol listed with gathers | shown
  · obtain ⟨shape, parts, known, made⟩ := exists_made derives label gathers.shaped
    rw [made.told_eq label gathers.hidden]
    intro node member
    obtain ⟨part, inside, told⟩ := List.mem_flatMap.mp member
    obtain ⟨other, listed, label⟩ := made.label_mem (gathers.parts _ known rfl) part inside
    exact ih part (made.inside inside) other listed label node told
  · exact shown tree derives label

section Names

structure IsWord (source : Source) (node : Node) : Prop where
  kind : node.kind = "identifier"
  text : IsIdentifier (node.text source)

theorem text_nodeOf : (nodeOf source tree).text source = source.slice tree.facts.start tree.facts.stop := by
  rw [Node.text, nodeOf, start_shownAs, stop_shownAs]

theorem isWord_nodeOf (derives : Derives language source tree) (label : tree.label = .symbol Symbol.identifier) :
    IsWord source (nodeOf source tree) where
  kind := kind_nodeOf label (by decide)
  text := by
    rw [text_nodeOf]
    exact isIdentifier_of_lexed (lexed_of_derives derives label (by decide)).1 (.inl rfl)

theorem gathers_moreNames : Gathers [Symbol.identifier, Symbol.period, Symbol.moreNames] Symbol.moreNames where
  hidden := symbols_shown.2.1 _ (by decide)
  shaped := by decide
  parts := by decide

theorem told_names (derives : Derives language source tree) :
    ∀ symbol ∈ [Symbol.identifier, Symbol.period, Symbol.moreNames], tree.label = .symbol symbol →
      ∀ node ∈ told source tree, IsWord source node := by
  refine told_gathered (fun symbol listed => ?_) derives
  simp only [List.mem_cons, List.not_mem_nil, or_false] at listed
  rcases listed with rfl | rfl | rfl
  · refine .inr fun tree derives label node member => ?_
    rw [told_known label (by decide : (_, "identifier") ∈ kinds) (by decide), List.mem_singleton] at member
    exact member ▸ isWord_nodeOf derives label
  · refine .inr fun tree derives label node member => ?_
    rw [told_filler label (by decide : (_, ".") ∈ kinds) (by decide)] at member
    cases member
  · exact .inl gathers_moreNames

theorem isName_nodeOf (derives : Derives language source tree) (label : tree.label = .symbol Symbol.dottedName) :
    ∃ names, IsName source (nodeOf source tree) names ∧ names ≠ [] ∧ ∀ name ∈ names, IsIdentifier name := by
  obtain ⟨shape, parts, known, made⟩ := exists_made derives label (by decide)
  have all : ∀ entry ∈ shapes, entry.1 = Symbol.dottedName → entry.2.head? = some [Symbol.identifier] ∧
      ∀ part ∈ entry.2, part ⊆ [Symbol.identifier, Symbol.period, Symbol.moreNames] := by decide
  obtain ⟨first, listed⟩ := all _ known rfl
  have words : ∀ node ∈ partsOf (nodeOf source tree), IsWord source node := by
    rw [made.partsOf_nodeOf]
    intro node member
    obtain ⟨part, inside, told⟩ := List.mem_flatMap.mp member
    obtain ⟨symbol, listed, label⟩ := made.label_mem listed part inside
    exact told_names (derives.child (made.inside inside)) symbol listed label node told
  refine ⟨_, ⟨kind_nodeOf label (by decide), fun part member => (words part member).kind, rfl⟩, ?_, ?_⟩
  · obtain ⟨part, inside, symbol, only, word⟩ := made.exists_head first
    rw [List.mem_singleton.mp only] at word
    have shown : nodeOf source part ∈ partsOf (nodeOf source tree) := by
      rw [made.partsOf_nodeOf]
      exact List.mem_flatMap.mpr ⟨part, inside, by
        simp [told_known word (by decide : (_, "identifier") ∈ kinds) (by decide)]⟩
    simpa using List.ne_nil_of_mem shown
  · intro name member
    obtain ⟨part, inside, rfl⟩ := List.mem_map.mp member
    exact (words part inside).text

end Names

section Targets

def Targeted (source : Source) (node : Node) : Prop :=
  ∃ target, IsTarget source node target ∧ target.Spelled

theorem targeted_dottedName (derives : Derives language source tree) (label : tree.label = .symbol Symbol.dottedName) :
    Targeted source (nodeOf source tree) := by
  obtain ⟨names, named, nonempty, spelled⟩ := isName_nodeOf derives label
  exact ⟨⟨names, none⟩, .plain named, nonempty, spelled, nofun⟩

theorem targeted_aliasedImport (derives : Derives language source tree)
    (label : tree.label = .symbol Symbol.aliasedImport) : Targeted source (nodeOf source tree) := by
  obtain ⟨shape, parts, known, made⟩ := exists_made derives label (by decide)
  have only : ∀ entry ∈ shapes, entry.1 = Symbol.aliasedImport →
      entry.2 = [[Symbol.dottedName], [Symbol.as_], [Symbol.identifier]] := by decide
  obtain rfl := only _ known rfl
  have labels := made.labels
  simp only [List.forall₂_cons_left_iff, List.forall₂_nil_left_iff, List.mem_singleton, exists_eq_left] at labels
  obtain ⟨name, _, dotted, ⟨word, _, as, ⟨called, _, identifier, rfl, rfl⟩, rfl⟩, rfl⟩ := labels
  have each {part : Syntax.Tree Memory} (member : part ∈ [name, word, called]) := derives.child (made.inside member)
  obtain ⟨names, named, nonempty, spelled⟩ := isName_nodeOf (each (by simp)) dotted
  have renamed := isWord_nodeOf (each (by simp)) identifier
  have said : partsOf (nodeOf source tree) = [nodeOf source name, nodeOf source word, nodeOf source called] := by
    rw [made.partsOf_nodeOf]
    simp [told_known dotted (by decide : (_, "dotted_name") ∈ kinds) (by decide),
      told_known as (by decide : (_, "as") ∈ kinds) (by decide),
      told_known identifier (by decide : (_, "identifier") ∈ kinds) (by decide)]
  refine ⟨_, .renamed (kind_nodeOf label (by decide)) said named (kind_nodeOf as (by decide)) renamed.kind, nonempty,
    spelled, ?_⟩
  rintro _ ⟨⟩
  exact renamed.text

def targetSymbols : List Nat :=
  [Symbol.dottedName, Symbol.aliasedImport, Symbol.comma, Symbol.moreTargets, Symbol.importList]

theorem gathers_targets : ∀ symbol ∈ [Symbol.moreTargets, Symbol.importList], Gathers targetSymbols symbol := by
  have parts : ∀ symbol ∈ [Symbol.moreTargets, Symbol.importList], symbol ∈ shapes.map Prod.fst ∧
      ∀ entry ∈ shapes, entry.1 = symbol → ∀ part ∈ entry.2, part ⊆ targetSymbols := by decide
  have listed : [Symbol.moreTargets, Symbol.importList] ⊆
      [Symbol.importList, Symbol.moreNames, Symbol.moreTargets, Symbol.morePeriods] := by decide
  exact fun symbol member => ⟨symbols_shown.2.1 symbol (listed member), (parts symbol member).1, (parts symbol member).2⟩

theorem told_targets (derives : Derives language source tree) : ∀ symbol ∈ targetSymbols,
    tree.label = .symbol symbol → ∀ node ∈ told source tree, Targeted source node := by
  refine told_gathered (fun symbol listed => ?_) derives
  simp only [targetSymbols, List.mem_cons, List.not_mem_nil, or_false] at listed
  rcases listed with rfl | rfl | rfl | rfl | rfl
  · refine .inr fun tree derives label node member => ?_
    rw [told_known label (by decide : (_, "dotted_name") ∈ kinds) (by decide), List.mem_singleton] at member
    exact member ▸ targeted_dottedName derives label
  · refine .inr fun tree derives label node member => ?_
    rw [told_known label (by decide : (_, "aliased_import") ∈ kinds) (by decide), List.mem_singleton] at member
    exact member ▸ targeted_aliasedImport derives label
  · refine .inr fun tree derives label node member => ?_
    rw [told_filler label (by decide : (_, ",") ∈ kinds) (by decide)] at member
    cases member
  · exact .inl (gathers_targets _ (by decide))
  · exact .inl (gathers_targets _ (by decide))

theorem exists_targets {nodes : List Node} (each : ∀ node ∈ nodes, Targeted source node) :
    ∃ targets, nodes.Forall₂ (IsTarget source) targets ∧ ∀ target ∈ targets, target.Spelled := by
  induction nodes with
  | nil => exact ⟨[], .nil, nofun⟩
  | cons node nodes ih =>
    obtain ⟨⟨target, is, spelled⟩, rest⟩ := List.forall_mem_cons.mp each
    obtain ⟨targets, all, others⟩ := ih rest
    exact ⟨target :: targets, .cons is all, List.forall_mem_cons.mpr ⟨spelled, others⟩⟩

theorem targets_importList (derives : Derives language source tree) (label : tree.label = .symbol Symbol.importList) :
    ∃ targets, (told source tree).Forall₂ (IsTarget source) targets ∧ AllSpelled targets := by
  obtain ⟨targets, all, spelled⟩ := exists_targets (told_targets derives _ (by decide) label)
  obtain ⟨shape, parts, known, made⟩ := exists_made derives label (by decide)
  have first : ∀ entry ∈ shapes, entry.1 = Symbol.importList →
      entry.2.head? = some [Symbol.aliasedImport, Symbol.dottedName] := by decide
  obtain ⟨part, inside, symbol, either, target⟩ := made.exists_head (first _ known rfl)
  have shown : nodeOf source part ∈ told source part := by
    simp only [List.mem_cons, List.not_mem_nil, or_false] at either
    rcases either with rfl | rfl
    · simp [told_known target (by decide : (_, "aliased_import") ∈ kinds) (by decide)]
    · simp [told_known target (by decide : (_, "dotted_name") ∈ kinds) (by decide)]
  have some : told source tree ≠ [] := by
    rw [made.told_eq label (symbols_shown.2.1 _ (by decide))]
    exact List.ne_nil_of_mem (List.mem_flatMap.mpr ⟨part, inside, shown⟩)
  refine ⟨targets, all, ?_, spelled⟩
  rintro rfl
  exact some (List.forall₂_nil_right_iff.mp all)

end Targets

section Modules

theorem mem_slice_of_inside {start stop first last : Nat} {c : Char} (low : start ≤ first) (high : last ≤ stop)
    (member : c ∈ (source.slice first last).toList) : c ∈ (source.slice start stop).toList := by
  rw [toList_slice] at member ⊢
  obtain ⟨index, bound, rfl⟩ := List.mem_iff_getElem.mp member
  simp only [List.length_take, List.length_drop] at bound
  refine List.mem_iff_getElem.mpr ⟨first - start + index, by simp only [List.length_take, List.length_drop]; omega, ?_⟩
  simp only [List.getElem_take, List.getElem_drop]
  congr 1
  omega

theorem dot_mem (derives : Derives language source tree) :
    ∀ symbol ∈ [Symbol.period, Symbol.morePeriods, Symbol.importPrefix], tree.label = .symbol symbol →
      '.' ∈ (source.slice tree.facts.start tree.facts.stop).toList := by
  apply Derives.of_children (motive := fun tree => ∀ symbol ∈ [Symbol.period, Symbol.morePeriods, Symbol.importPrefix],
    tree.label = .symbol symbol → '.' ∈ (source.slice tree.facts.start tree.facts.stop).toList) ?_ derives
  intro tree derives ih symbol listed label
  have all : ∀ symbol ∈ [Symbol.period, Symbol.morePeriods, Symbol.importPrefix],
      symbol = Symbol.period ∨ symbol ∈ shapes.map Prod.fst ∧
        ∀ entry ∈ shapes, entry.1 = symbol → entry.2.head? = some [Symbol.period, Symbol.morePeriods] := by decide
  rcases all symbol listed with rfl | ⟨shaped, first⟩
  · rw [period_of_lexed (lexed_of_derives derives label (by decide)).1 rfl]
    decide
  · obtain ⟨shape, parts, known, made⟩ := exists_made derives label shaped
    obtain ⟨part, inside, other, either, dots⟩ := made.exists_head (first _ known rfl)
    obtain ⟨low, high⟩ := derives.around (made.inside inside)
    have wider : [Symbol.period, Symbol.morePeriods] ⊆ [Symbol.period, Symbol.morePeriods, Symbol.importPrefix] := by
      decide
    exact mem_slice_of_inside low high (ih part (made.inside inside) other (wider either) dots)

structure Located (source : Source) (node : Node) (dots written : Nat) (names : List String) : Prop where
  is : IsModule source node dots written names
  spelled : ∀ name ∈ names, IsIdentifier name
  placed : names = [] → 0 < written

theorem located_dottedName (derives : Derives language source tree) (label : tree.label = .symbol Symbol.dottedName) :
    ∃ names, Located source (nodeOf source tree) 0 0 names := by
  obtain ⟨names, named, nonempty, spelled⟩ := isName_nodeOf derives label
  exact ⟨names, .absolute named, spelled, fun none => absurd none nonempty⟩

theorem located_relativeImport (derives : Derives language source tree)
    (label : tree.label = .symbol Symbol.relativeImport) :
    ∃ dots written names, Located source (nodeOf source tree) dots written names := by
  obtain ⟨shape, parts, known, made⟩ := exists_made derives label (by decide)
  have only : ∀ entry ∈ shapes, entry.1 = Symbol.relativeImport →
      entry.2 = [[Symbol.importPrefix]] ∨ entry.2 = [[Symbol.importPrefix], [Symbol.dottedName]] := by decide
  have labels := made.labels
  have dotted {lead : Syntax.Tree Memory} (member : lead ∈ parts) (leading : lead.label = .symbol Symbol.importPrefix) :
      0 < writtenDots source (nodeOf source lead) := by
    rw [writtenDots, text_nodeOf, List.count_pos_iff]
    exact dot_mem (derives.child (made.inside member)) _ (by decide) leading
  have lead {lead : Syntax.Tree Memory} (leading : lead.label = .symbol Symbol.importPrefix) :
      told source lead = [nodeOf source lead] :=
    told_known leading (by decide : (_, "import_prefix") ∈ kinds) (by decide)
  rcases only _ known rfl with same | same <;> obtain rfl := same
  · simp only [List.forall₂_cons_left_iff, List.forall₂_nil_left_iff, List.mem_singleton, exists_eq_left] at labels
    obtain ⟨first, _, leading, rfl, rfl⟩ := labels
    have said : partsOf (nodeOf source tree) = [nodeOf source first] := by
      rw [made.partsOf_nodeOf]
      simp [lead leading]
    exact ⟨_, _, [], .bare (kind_nodeOf label (by decide)) said (kind_nodeOf leading (by decide)) rfl rfl, by simp,
      fun _ => dotted (by simp) leading⟩
  · simp only [List.forall₂_cons_left_iff, List.forall₂_nil_left_iff, List.mem_singleton, exists_eq_left] at labels
    obtain ⟨first, _, leading, ⟨name, _, named, rfl, rfl⟩, rfl⟩ := labels
    obtain ⟨names, is, nonempty, spelled⟩ := isName_nodeOf (derives.child (made.inside (by simp))) named
    have said : partsOf (nodeOf source tree) = [nodeOf source first, nodeOf source name] := by
      rw [made.partsOf_nodeOf]
      simp [lead leading, told_known named (by decide : (_, "dotted_name") ∈ kinds) (by decide)]
    exact ⟨_, _, names, .relative (kind_nodeOf label (by decide)) said (kind_nodeOf leading (by decide)) rfl rfl
      is, spelled,
      fun none => absurd none nonempty⟩

theorem located_module (derives : Derives language source tree)
    (label : ∃ symbol ∈ [Symbol.relativeImport, Symbol.dottedName], tree.label = .symbol symbol) :
    told source tree = [nodeOf source tree] ∧
      ∃ dots written names, Located source (nodeOf source tree) dots written names := by
  obtain ⟨symbol, either, label⟩ := label
  simp only [List.mem_cons, List.not_mem_nil, or_false] at either
  rcases either with rfl | rfl
  · exact ⟨told_known label (by decide : (_, "relative_import") ∈ kinds) (by decide),
      located_relativeImport derives label⟩
  · exact ⟨told_known label (by decide : (_, "dotted_name") ∈ kinds) (by decide), 0, 0, located_dottedName derives label⟩

end Modules

section Statements

def Complete (source : Source) (node : Node) : Prop :=
  ∃ content written, Depicts source node content written ∧ (content.recount written).Spelled

theorem complete_importStatement (derives : Derives language source tree)
    (label : tree.label = .symbol Symbol.importStatement) : Complete source (nodeOf source tree) := by
  obtain ⟨shape, parts, known, made⟩ := exists_made derives label (by decide)
  have only : ∀ entry ∈ shapes, entry.1 = Symbol.importStatement →
      entry.2 = [[Symbol.import_], [Symbol.importList]] := by decide
  obtain rfl := only _ known rfl
  have labels := made.labels
  simp only [List.forall₂_cons_left_iff, List.forall₂_nil_left_iff, List.mem_singleton, exists_eq_left] at labels
  obtain ⟨word, _, import_, ⟨list, _, listed, rfl, rfl⟩, rfl⟩ := labels
  obtain ⟨targets, each, spelled⟩ := targets_importList (derives.child (made.inside (by simp))) listed
  have said : partsOf (nodeOf source tree) = nodeOf source word :: told source list := by
    rw [made.partsOf_nodeOf]
    simp [told_known import_ (by decide : (_, "import") ∈ kinds) (by decide)]
  exact ⟨_, _, .modules (kind_nodeOf label (by decide)) said (kind_nodeOf import_ (by decide)) each, spelled⟩

theorem complete_futureImport (derives : Derives language source tree)
    (label : tree.label = .symbol Symbol.futureImport) : Complete source (nodeOf source tree) := by
  obtain ⟨shape, parts, known, made⟩ := exists_made derives label (by decide)
  have only : ∀ entry ∈ shapes, entry.1 = Symbol.futureImport →
      entry.2 = [[Symbol.from_], [Symbol.future], [Symbol.import_], [Symbol.importList]] ∨
      entry.2 = [[Symbol.from_], [Symbol.future], [Symbol.import_], [Symbol.openParenthesis], [Symbol.importList],
        [Symbol.closeParenthesis]] := by decide
  have labels := made.labels
  have complete {lead future word list : Syntax.Tree Memory} (from_ : lead.label = .symbol Symbol.from_)
      (named : future.label = .symbol Symbol.future) (import_ : word.label = .symbol Symbol.import_)
      (listed : list.label = .symbol Symbol.importList) (member : list ∈ parts)
      (said : partsOf (nodeOf source tree) = told source lead ++ told source future ++ told source word ++ told source list) :
      Complete source (nodeOf source tree) := by
    obtain ⟨targets, each, spelled⟩ := targets_importList (derives.child (made.inside member)) listed
    rw [told_known from_ (by decide : (_, "from") ∈ kinds) (by decide),
      told_known named (by decide : (_, "__future__") ∈ kinds) (by decide),
      told_known import_ (by decide : (_, "import") ∈ kinds) (by decide)] at said
    refine ⟨_, _, .future (kind_nodeOf label (by decide)) said (kind_nodeOf from_ (by decide))
      (kind_nodeOf named (by decide)) (kind_nodeOf import_ (by decide)) each, ?_, nofun, spelled⟩
    exact fun part member => List.mem_singleton.mp member ▸ isIdentifier_future
  rcases only _ known rfl with same | same <;> obtain rfl := same
  · simp only [List.forall₂_cons_left_iff, List.forall₂_nil_left_iff, List.mem_singleton, exists_eq_left] at labels
    obtain ⟨lead, _, from_, ⟨future, _, named, ⟨word, _, import_, ⟨list, _, listed, rfl, rfl⟩, rfl⟩, rfl⟩, rfl⟩ := labels
    refine complete from_ named import_ listed (by simp) ?_
    rw [made.partsOf_nodeOf]
    simp
  · simp only [List.forall₂_cons_left_iff, List.forall₂_nil_left_iff, List.mem_singleton, exists_eq_left] at labels
    obtain ⟨lead, _, from_, ⟨future, _, named,
      ⟨word, _, import_, ⟨opening, _, opens, ⟨list, _, listed, ⟨closing, _, closes,
      rfl, rfl⟩, rfl⟩, rfl⟩, rfl⟩, rfl⟩, rfl⟩ := labels
    refine complete from_ named import_ listed (by simp) ?_
    rw [made.partsOf_nodeOf]
    simp [told_filler opens (by decide : (_, "(") ∈ kinds) (by decide),
      told_filler closes (by decide : (_, ")") ∈ kinds) (by decide)]

section From
variable {lead module word chosen : Syntax.Tree Memory} (label : tree.label = .symbol Symbol.importFrom)
  (from_ : lead.label = .symbol Symbol.from_) (derives : Derives language source module)
  (located : ∃ symbol ∈ [Symbol.relativeImport, Symbol.dottedName], module.label = .symbol symbol)
  (import_ : word.label = .symbol Symbol.import_)
include label from_ derives located import_

theorem complete_names (list : Derives language source chosen) (listed : chosen.label = .symbol Symbol.importList)
    (said : partsOf (nodeOf source tree) = told source lead ++ told source module ++ told source word ++ told source chosen) :
    Complete source (nodeOf source tree) := by
  obtain ⟨only, dots, written, names, place⟩ := located_module derives located
  obtain ⟨targets, each, spelled⟩ := targets_importList list listed
  rw [told_known from_ (by decide : (_, "from") ∈ kinds) (by decide), only,
    told_known import_ (by decide : (_, "import") ∈ kinds) (by decide)] at said
  exact ⟨_, _, .names (kind_nodeOf label (by decide)) said (kind_nodeOf from_ (by decide)) place.is
    (kind_nodeOf import_ (by decide)) each, place.spelled, place.placed, spelled⟩

theorem complete_everything (star : chosen.label = .symbol Symbol.wildcardImport)
    (said : partsOf (nodeOf source tree) = told source lead ++ told source module ++ told source word ++ told source chosen) :
    Complete source (nodeOf source tree) := by
  obtain ⟨only, dots, written, names, place⟩ := located_module derives located
  rw [told_known from_ (by decide : (_, "from") ∈ kinds) (by decide), only,
    told_known import_ (by decide : (_, "import") ∈ kinds) (by decide),
    told_known star (by decide : (_, "wildcard_import") ∈ kinds) (by decide)] at said
  exact ⟨_, _, .everything (kind_nodeOf label (by decide)) said (kind_nodeOf from_ (by decide)) place.is
    (kind_nodeOf import_ (by decide)) (kind_nodeOf star (by decide)), place.spelled, place.placed, trivial⟩

end From

theorem complete_importFrom (derives : Derives language source tree)
    (label : tree.label = .symbol Symbol.importFrom) : Complete source (nodeOf source tree) := by
  obtain ⟨shape, parts, known, made⟩ := exists_made derives label (by decide)
  have only : ∀ entry ∈ shapes, entry.1 = Symbol.importFrom →
      entry.2 = [[Symbol.from_], [Symbol.relativeImport, Symbol.dottedName], [Symbol.import_],
        [Symbol.importList, Symbol.wildcardImport]] ∨
      entry.2 = [[Symbol.from_], [Symbol.relativeImport, Symbol.dottedName], [Symbol.import_], [Symbol.openParenthesis],
        [Symbol.importList], [Symbol.closeParenthesis]] := by decide
  have labels := made.labels
  rcases only _ known rfl with same | same <;> obtain rfl := same
  · simp only [List.forall₂_cons_left_iff, List.forall₂_nil_left_iff, List.mem_singleton, exists_eq_left] at labels
    obtain ⟨lead, _, from_, ⟨module, _, located, ⟨word, _, import_, ⟨chosen, _, ⟨symbol, either, choice⟩, rfl, rfl⟩,
      rfl⟩, rfl⟩,
      rfl⟩ := labels
    have said : partsOf (nodeOf source tree) =
        told source lead ++ told source module ++ told source word ++ told source chosen := by
      rw [made.partsOf_nodeOf]
      simp
    have inside {part : Syntax.Tree Memory} (member : part ∈ [lead, module, word, chosen]) := derives.child (made.inside member)
    simp only [List.mem_cons, List.not_mem_nil, or_false] at either
    rcases either with rfl | rfl
    · exact complete_names label from_ (inside (by simp)) located import_ (inside (by simp)) choice said
    · exact complete_everything label from_ (inside (by simp)) located import_ choice said
  · simp only [List.forall₂_cons_left_iff, List.forall₂_nil_left_iff, List.mem_singleton, exists_eq_left] at labels
    obtain ⟨lead, _, from_, ⟨module, _, located,
      ⟨word, _, import_, ⟨opening, _, opens, ⟨list, _, listed, ⟨closing, _, closes,
      rfl, rfl⟩, rfl⟩, rfl⟩, rfl⟩, rfl⟩, rfl⟩ := labels
    have said : partsOf (nodeOf source tree) =
        told source lead ++ told source module ++ told source word ++ told source list := by
      rw [made.partsOf_nodeOf]
      simp [told_filler opens (by decide : (_, "(") ∈ kinds) (by decide),
        told_filler closes (by decide : (_, ")") ∈ kinds) (by decide)]
    have inside {part : Syntax.Tree Memory} (member : part ∈ [lead, module, word, opening, list, closing]) :=
      derives.child (made.inside member)
    exact complete_names label from_ (inside (by simp)) located import_ (inside (by simp)) listed said

end Statements

end Trees

end SourceAtlas.Python
