import SourceAtlas.Proofs.ImportContent
import SourceAtlas.Proofs.PythonTokens
import SourceAtlas.Proofs.TreeNodes

/-! The rules of Python, as far as names and imports are concerned. What is read off their written form holds of
every tree without errors. -/
namespace SourceAtlas.Python
open SourceAtlas.Syntax

namespace Automaton

section Shapes

def mask (symbols : List Nat) : Nat :=
  symbols.foldr (fun symbol set => 2 ^ symbol ||| set) 0

theorem testBit_mask {symbols : List Nat} {symbol : Nat} : (mask symbols).testBit symbol = true ↔ symbol ∈ symbols := by
  induction symbols with
  | nil => simp [mask]
  | cons first rest ih =>
    have step : mask (first :: rest) = 2 ^ first ||| mask rest := rfl
    rw [step, Nat.testBit_or, Nat.testBit_two_pow, Bool.or_eq_true, decide_eq_true_iff, ih, List.mem_cons, eq_comm]

open SourceAtlas.Python.Symbol in
/-- The shapes of imports and of what they consist of: for each part the symbols that it may be. -/
def shapes : List (Nat × List (List Nat)) :=
  [(dottedName, [[identifier]]),
   (dottedName, [[identifier], [moreNames]]),
   (moreNames, [[period, moreNames], [identifier, moreNames]]),
   (aliasedImport, [[dottedName], [as_], [identifier]]),
   (importList, [[aliasedImport, dottedName]]),
   (importList, [[aliasedImport, dottedName], [comma, moreTargets]]),
   (importList, [[aliasedImport, dottedName], [moreTargets], [comma]]),
   (moreTargets, [[comma, moreTargets], [aliasedImport, dottedName, moreTargets]]),
   (importPrefix, [[period, morePeriods]]),
   (morePeriods, [[period, morePeriods], [period, morePeriods]]),
   (relativeImport, [[importPrefix]]),
   (relativeImport, [[importPrefix], [dottedName]]),
   (importStatement, [[import_], [importList]]),
   (futureImport, [[from_], [future], [import_], [importList]]),
   (futureImport, [[from_], [future], [import_], [openParenthesis], [importList], [closeParenthesis]]),
   (importFrom, [[from_], [relativeImport, dottedName], [import_], [importList, wildcardImport]]),
   (importFrom, [[from_], [relativeImport, dottedName], [import_], [openParenthesis], [importList], [closeParenthesis]])]

def kinds : List (Nat × String) :=
  [(Symbol.identifier, "identifier"), (Symbol.import_, "import"), (Symbol.period, "."), (Symbol.from_, "from"),
   (Symbol.future, "__future__"), (Symbol.openParenthesis, "("), (Symbol.closeParenthesis, ")"), (Symbol.comma, ","),
   (Symbol.as_, "as"), (Symbol.star, "*"), (Symbol.comment, "comment"), (Symbol.lineContinuation, "line_continuation"),
   (Symbol.importStatement, "import_statement"), (Symbol.importPrefix, "import_prefix"),
   (Symbol.relativeImport, "relative_import"), (Symbol.futureImport, "future_import_statement"),
   (Symbol.importFrom, "import_from_statement"), (Symbol.aliasedImport, "aliased_import"),
   (Symbol.wildcardImport, "wildcard_import"), (Symbol.functionDefinition, "function_definition"),
   (Symbol.classDefinition, "class_definition"), (Symbol.dottedName, "dotted_name")]

def outlinedKinds : List String :=
  ["identifier", "class_definition", "function_definition", "import_statement", "future_import_statement",
   "import_from_statement", "import_prefix"]

variable {rule : Rule}

/-- What is read off the rules as they are written: those of imports have one of the shapes, classes and functions have
a name as their second part, and a part that is given another name is not taken for something that it is not. -/
theorem rules_written : ∀ written ∈ rules.toList,
    (written.1 ∈ shapes.map Prod.fst → written.2.2.1 = 0 ∧
      (written.1, written.2.2.2.map symbolSet) ∈ shapes.map fun shape => (shape.1, shape.2.map mask)) ∧
    (written.1 = Symbol.classDefinition ∨ written.1 = Symbol.functionDefinition →
      (∃ symbols ∈ [[Symbol.identifier], [Symbol.def_], [Symbol.identifier, Symbol.def_]],
        (written.2.2.2.map symbolSet)[1]? = some (mask symbols)) ∧ 3 ≤ written.2.2.2.length ∧
      (partNames.getD written.2.2.1 [])[1]?.join.isNone ∧ (partNames.getD written.2.2.1 [])[2]?.join.isNone) ∧
    ∀ pair ∈ (partNames.getD written.2.2.1 []).zip written.2.2.2, ∀ shown ∈ pair.1, shown.name ∉ outlinedKinds ∨
      shown.name = "identifier" ∧ symbolSet pair.2 = mask Lexis.softKeywords := by
  decide +kernel

/-- A rule for a symbol of imports has one of its shapes, and gives no other names to its parts. -/
theorem exists_shape (has : language.HasRule rule) (shaped : rule.symbol ∈ shapes.map Prod.fst) :
    rule.aliases = [] ∧ ∃ shape, (rule.symbol, shape) ∈ shapes ∧ rule.parts = shape.map mask := by
  obtain ⟨written, listed, rfl⟩ := exists_written (hasRule_mem has)
  obtain ⟨names, known⟩ := (rules_written written listed).1 shaped
  obtain ⟨shape, member, same⟩ := List.mem_map.mp known
  obtain ⟨symbol, parts⟩ := Prod.mk.inj same
  obtain ⟨owner, shape⟩ := shape
  obtain rfl : owner = written.1 := symbol
  refine ⟨?_, shape, member, parts.symm⟩
  change partNames.getD written.2.2.1 [] = []
  rw [names]
  rfl

theorem symbols_shown : (∀ pair ∈ kinds, (language.appearance pair.1).visible = true ∧
      (language.appearance pair.1).name = pair.2) ∧
    (∀ symbol ∈ [Symbol.importList, Symbol.moreNames, Symbol.moreTargets, Symbol.morePeriods],
      (language.appearance symbol).visible = false) ∧
    ∀ entry ∈ appearances.toList.zipIdx, ∀ pair ∈ kinds, pair.2 ∈ outlinedKinds →
      entry.1.name = pair.2 → entry.2 = pair.1 := by
  decide +kernel

theorem getD_eq_toList {α : Type} (items : Array α) (index : Nat) (other : α) :
    items.getD index other = items.toList[index]?.getD other := by
  rw [Array.getElem?_toList, Array.getD_eq_getD_getElem?]

theorem appearance_getElem? (symbol : Nat) : language.appearance symbol = appearances.toList[symbol]?.getD default := by
  simp only [language, getD_eq_toList]

theorem symbol_of_name {symbol owner : Nat} {kind : String} (known : (owner, kind) ∈ kinds)
    (outlined : kind ∈ outlinedKinds)
    (named : (language.appearance symbol).name = kind) : symbol = owner := by
  rw [appearance_getElem?] at named
  cases found : appearances.toList[symbol]? with
  | none =>
    rw [found] at named
    subst named
    exact absurd outlined (by decide)
  | some shown =>
    rw [found] at named
    exact symbols_shown.2.2 (shown, symbol) (List.mem_zipIdx_iff_getElem?.mpr found) _ known outlined named

end Shapes

end Automaton

section Trees
open Automaton SourceAtlas.Syntax.Tree
variable {source : Source} {tree : Syntax.Tree Memory} {symbol : Nat}

theorem lexed_of_derives (derives : Derives language source tree) (label : tree.label = .symbol symbol)
    (small : symbol < tokenCount) :
    Lexed language source symbol tree.facts.start tree.facts.stop ∧ tree.children = [] := by
  cases derives with
  | token known _ lexed =>
    obtain rfl := Label.symbol.inj (known.symm.trans label)
    exact ⟨lexed, rfl⟩
  | rule fills =>
    obtain rfl := Label.symbol.inj (fills.label.symm.trans label)
    exact absurd small (Nat.not_lt.mpr (tokenCount_le (hasRule_mem fills.listed)))

def saying (nodes : List Node) : List Node :=
  nodes.filter fun node => node.kind ∉ fillerKinds

def told (source : Source) (tree : Syntax.Tree Memory) : List Node :=
  saying (nodesIn language source none tree)

def nodeOf (source : Source) (tree : Syntax.Tree Memory) : Node :=
  tree.shownAs language source (appearance language tree.facts)

theorem appearance_eq (label : tree.label = .symbol symbol) :
    appearance language tree.facts = language.appearance symbol := by
  unfold appearance
  rw [show tree.facts.label = .symbol symbol from label]

section Known
variable {kind : String} (label : tree.label = .symbol symbol) (known : (symbol, kind) ∈ kinds)
include label known

theorem nodesIn_known : nodesIn language source none tree = [nodeOf source tree] := by
  apply nodesIn_visible
  rw [Option.getD_none, appearance_eq label]
  exact (symbols_shown.1 _ known).1

theorem kind_nodeOf : (nodeOf source tree).kind = kind := by
  rw [nodeOf, kind_shownAs, appearance_eq label]
  exact (symbols_shown.1 _ known).2

theorem told_known (other : kind ∉ fillerKinds) : told source tree = [nodeOf source tree] := by
  rw [told, nodesIn_known label known, saying, List.filter_singleton, kind_nodeOf label known,
    decide_eq_true other, cond_true]

theorem told_filler (filler : kind ∈ fillerKinds) : told source tree = [] := by
  rw [told, nodesIn_known label known, saying, List.filter_singleton, kind_nodeOf label known,
    decide_eq_false (not_not_intro filler), cond_false]

end Known

theorem told_hidden (label : tree.label = .symbol symbol) (hidden : (language.appearance symbol).visible = false) :
    told source tree = saying (allNodesIn language source tree.facts.aliases tree.children) := by
  rw [told, nodesIn_hidden (by rwa [Option.getD_none, appearance_eq label])]

theorem told_extra (derives : Derives language source tree)
    (label : tree.label = .symbol symbol) (extra : language.SkipsToken symbol ∨ symbol = 0) : told source tree = [] := by
  rcases extra with skips | rfl
  · rcases skipsToken_iff skips with rfl | rfl
    · exact told_filler label (by decide : (Symbol.comment, "comment") ∈ kinds) (by decide)
    · exact told_filler label (by decide : (Symbol.lineContinuation, "line_continuation") ∈ kinds) (by decide)
  · rw [told_hidden label (by decide +kernel), (lexed_of_derives derives label (by decide)).2]
    rfl

theorem saying_append (first second : List Node) : saying (first ++ second) = saying first ++ saying second :=
  List.filter_append ..

theorem saying_children {children : List (Syntax.Tree Memory)} (each : ∀ child ∈ children, Derives language source child)
    (extras : ∀ child ∈ children, child.extra = true → ∃ token, child.label = .symbol token ∧
      (language.SkipsToken token ∨ token = 0)) :
    saying (allNodesIn language source [] children) = (constituents children).flatMap (told source) := by
  induction children with
  | nil => rfl
  | cons child children ih =>
    obtain ⟨here, later⟩ := List.forall_mem_cons.mp each
    obtain ⟨aside, others⟩ := List.forall_mem_cons.mp extras
    cases extra : child.extra with
    | true =>
      obtain ⟨token, label, skipped⟩ := aside extra
      rw [allNodesIn_extra extra, saying_append, constituents_extra extra, ih later others]
      exact congrArg (· ++ _) (told_extra here label skipped)
    | false =>
      rw [allNodesIn_part extra, saying_append, constituents_part extra, List.flatMap_cons]
      exact congrArg (told source child ++ ·) (ih later others)

structure Made (source : Source) (tree : Syntax.Tree Memory) (shape : List (List Nat))
    (parts : List (Syntax.Tree Memory)) : Prop where
  labels : shape.Forall₂ (fun symbols part => ∃ symbol ∈ symbols, part.label = .symbol symbol) parts
  inside : parts ⊆ tree.children
  whole : constituents tree.children = parts
  content : saying (allNodesIn language source tree.facts.aliases tree.children) = parts.flatMap (told source)

theorem exists_made (derives : Derives language source tree) (label : tree.label = .symbol symbol)
    (shaped : symbol ∈ shapes.map Prod.fst) : ∃ shape parts, (symbol, shape) ∈ shapes ∧ Made source tree shape parts := by
  cases derives with
  | token known small =>
    obtain rfl := Label.symbol.inj (known.symm.trans label)
    have above : ∀ symbol ∈ shapes.map Prod.fst, tokenCount ≤ symbol := by decide
    exact absurd small (Nat.not_lt.mpr (above _ shaped))
  | @rule facts children rule _ _ _ _ fills spans track each =>
    obtain rfl := Label.symbol.inj (fills.label.symm.trans label)
    obtain ⟨aliases, shape, known, parts⟩ := exists_shape fills.listed shaped
    refine ⟨shape, constituents children, known, ?_, List.filter_subset_self children, rfl, ?_⟩
    · have fits := forall₂_of_fits fills.fits
      rw [parts, List.forall₂_map_left_iff] at fits
      refine fits.imp fun symbols part chosen => ?_
      obtain ⟨symbol, label, allowed⟩ := chosen
      exact ⟨symbol, testBit_mask.mp allowed, label⟩
    · change saying (allNodesIn language source facts.aliases children) = _
      rw [fills.aliases, aliases]
      exact saying_children each fills.extras

namespace Made
variable {shape : List (List Nat)} {parts : List (Syntax.Tree Memory)} (made : Made source tree shape parts)
include made

theorem told_eq (label : tree.label = .symbol symbol) (hidden : (language.appearance symbol).visible = false) :
    told source tree = parts.flatMap (told source) := by
  rw [told_hidden label hidden, made.content]

theorem partsOf_nodeOf : partsOf (nodeOf source tree) = parts.flatMap (told source) := by
  rw [← made.content, nodeOf, partsOf, children_shownAs]
  rfl

theorem label_mem {symbols : List Nat} (all : ∀ part ∈ shape, part ⊆ symbols) :
    ∀ part ∈ parts, ∃ symbol ∈ symbols, part.label = .symbol symbol := by
  have labels := made.labels
  clear made
  induction labels with
  | nil => exact fun _ member => absurd member List.not_mem_nil
  | cons here _ ih =>
    obtain ⟨first, rest⟩ := List.forall_mem_cons.mp all
    obtain ⟨symbol, member, label⟩ := here
    exact List.forall_mem_cons.mpr ⟨⟨symbol, first member, label⟩, ih rest⟩

theorem exists_head {symbols : List Nat} (head : shape.head? = some symbols) :
    ∃ first ∈ parts, ∃ symbol ∈ symbols, first.label = .symbol symbol := by
  have labels := made.labels
  cases labels with
  | nil => cases head
  | cons here _ =>
    obtain rfl := Option.some.inj head
    exact ⟨_, List.mem_cons_self, here⟩

end Made

theorem exists_three {α : Type} {items : List α} (three : 3 ≤ items.length) :
    ∃ first middle last rest, items = first :: middle :: last :: rest := by
  obtain ⟨first, items, rfl⟩ := List.exists_cons_of_length_pos (l := items) (by omega)
  rw [List.length_cons] at three
  obtain ⟨middle, items, rfl⟩ := List.exists_cons_of_length_pos (l := items) (by omega)
  rw [List.length_cons] at three
  obtain ⟨last, items, rfl⟩ := List.exists_cons_of_length_pos (l := items) (by omega)
  exact ⟨first, middle, last, items, rfl⟩

theorem exists_name (derives : Derives language source tree) (label : tree.label = .symbol symbol)
    (defines : symbol = Symbol.classDefinition ∨ symbol = Symbol.functionDefinition) :
    ∃ child ∈ (nodeOf source tree).children, child.kind = "identifier" := by
  have above : tokenCount ≤ symbol := by rcases defines with rfl | rfl <;> decide
  rw [nodeOf, children_shownAs]
  cases derives with
  | token known small =>
    obtain rfl := Label.symbol.inj (known.symm.trans label)
    exact absurd small (Nat.not_lt.mpr above)
  | @rule facts children rule _ _ _ _ fills spans track each =>
    obtain rfl := Label.symbol.inj (fills.label.symm.trans label)
    obtain ⟨written, listed, rfl⟩ := exists_written (hasRule_mem fills.listed)
    obtain ⟨⟨symbols, choice, second⟩, three, unnamed, later⟩ := (rules_written written listed).2.1 defines
    have shown {index : Nat} {child : Syntax.Tree Memory} (nth : (constituents children)[index]? = some child)
        (word : child.label = .symbol Symbol.identifier) (same : facts.aliases[index]?.join = none) :
        ∃ node ∈ allNodesIn language source facts.aliases children, node.kind = "identifier" := by
      have known : (Symbol.identifier, "identifier") ∈ kinds := by decide
      have member : nodeOf source child ∈ nodesIn language source none child := by simp [nodesIn_known word known]
      exact ⟨nodeOf source child, mem_allNodesIn nth same member, kind_nodeOf word known⟩
    have aliases : facts.aliases = partNames.getD written.2.2.1 [] := fills.aliases
    have count : written.2.2.2.length = (constituents children).length :=
      List.length_map symbolSet ▸ (forall₂_of_fits fills.fits).length_eq
    obtain ⟨first, middle, last, rest, parts⟩ := exists_three (count ▸ three)
    rw [← aliases, Option.isNone_iff_eq_none] at unnamed later
    have nth : (constituents children)[1]? = some middle := by rw [parts]; rfl
    have after : (constituents children)[2]? = some last := by rw [parts]; rfl
    obtain ⟨part, symbol, there, word, allowed⟩ := part_of_fits fills.fits nth
    obtain rfl : mask symbols = part := Option.some.inj (second.symm.trans there)
    have only : symbol = Symbol.identifier ∨ symbol = Symbol.def_ := by
      have either : ∀ symbols ∈ [[Symbol.identifier], [Symbol.def_], [Symbol.identifier, Symbol.def_]],
          ∀ symbol ∈ symbols, symbol = Symbol.identifier ∨ symbol = Symbol.def_ := by decide
      exact either symbols choice symbol (testBit_mask.mp allowed)
    rcases only with rfl | rfl
    · exact shown nth word unnamed
    · obtain ⟨one, other, _, _, _, known, name, moves, next, -⟩ := track.consecutive (show _ = [first] ++ _ from parts)
      obtain rfl := Label.symbol.inj (word.symm.trans known)
      exact shown after (naming moves next ▸ name) later

/-- The names that rules give to their parts are none that an outline is made from, or are given to words. -/
theorem suits_of_renames {rule : Rule} {facts : Facts Memory} {children : List (Syntax.Tree Memory)} {child : Syntax.Tree Memory}
    {shown : Appearance} (fills : Fills language rule facts children)
    (renames : Renames facts.aliases children child shown) :
    shown.name ∉ outlinedKinds ∨
      shown.name = "identifier" ∧ ∃ symbol ∈ Lexis.softKeywords, child.label = .symbol symbol := by
  obtain ⟨written, listed, rfl⟩ := exists_written (hasRule_mem fills.listed)
  obtain ⟨index, nth, name⟩ := renames
  obtain ⟨part, symbol, there, label, allowed⟩ := part_of_fits fills.fits nth
  obtain ⟨set, known, rfl⟩ : ∃ set, written.2.2.2[index]? = some set ∧ symbolSet set = part := by
    exact Option.map_eq_some_iff.mp ((List.getElem?_map ..).symm.trans there)
  rw [fills.aliases] at name
  have pair : (some shown, set) ∈ (partNames.getD written.2.2.1 []).zip written.2.2.2 := by
    apply List.mem_of_getElem?
    exact List.getElem?_zip_eq_some.mpr ⟨Option.join_eq_some_iff.mp name, known⟩
  refine ((rules_written written listed).2.2 _ pair shown rfl).imp_right fun word => ⟨word.1, symbol, ?_, label⟩
  rw [← testBit_mask, ← word.2]
  exact allowed

end Trees

end SourceAtlas.Python
