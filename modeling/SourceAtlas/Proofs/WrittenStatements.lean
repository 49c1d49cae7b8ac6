import SourceAtlas.Proofs.WrittenImports

/-! A written import as a text of its own: the statement, the end of its line and of the text, and the outline. -/
namespace SourceAtlas.Python
open SourceAtlas.Syntax
open Lexis (IsIdentifier)
open Parser Rung

section Endings
open SourceAtlas.Python.Symbol Automaton SourceAtlas.Syntax.Tree Piece
variable {source : Source} {content : Import} {symbol written : Nat} {depicted : Import} {nodes : List Node}
  {kind : String} {tree : Syntax.Tree Memory}

def statementKinds : List (Nat × String) :=
  [(importStatement, "import_statement"), (importFrom, "import_from_statement"), (futureImport, "future_import_statement")]

def isOver : List Action → Bool
  | [.accept] => true
  | _ => false

theorem eq_of_isOver {actions : List Action} (done : isOver actions = true) : actions = [.accept] := by
  unfold isOver at done
  split at done
  · rfl
  · cases done

theorem statements_known :
    (∀ symbol ∈ [newline, simpleStatements, endOfText], (language.appearance symbol).visible = false) ∧
    (∀ pair ∈ statementKinds, (language.appearance pair.1).named = true) ∧
    ((language.appearance module_).visible = true ∧ (language.appearance module_).name ∉ listedKinds) ∧
    (∀ state ∈ [1, 647], language.mode state = 1 ∧ language.expected state = 2) ∧
    (wordFor language 1 "import" = import_ ∧ wordFor language 1 "from" = from_) ∧
    isOver (language.actions finalState endOfText) = true := by
  rw [language_eq_listed]
  decide +kernel

structure Contains (source : Source) (content : Import) (root : Syntax.Tree Memory) : Prop where
  label : root.label = .symbol module_
  free : root.cost = 0
  statement : ∃ node depicted written, (nodeOf source root).children = [node] ∧ node.named = true ∧
    Depicts source node depicted written ∧ depicted.recount written = content ∧ ∀ child ∈ node.children, Calm child

section Root
variable {line block text ending : Syntax.Tree Memory} (either : (symbol, kind) ∈ statementKinds)
  (built : Built source symbol nodes tree) (newline : line.label = .symbol newline) (blank : line.children = [])
  (lines : Proper simpleStatements block)
  (plain : block.facts.aliases = []) (parts : block.children = [tree, line]) (last : ending.label = .symbol endOfText)
  (empty : ending.children = [])
include either built newline blank lines plain parts last empty

theorem nodes_statement : allNodesIn language source [] [block, ending] = [nodeOf source tree] := by
  have wider : statementKinds ⊆ kinds := by decide
  have hidden {symbol : Nat} {tree : Syntax.Tree Memory} (label : tree.label = .symbol symbol)
      (listed : symbol ∈ [Symbol.newline, simpleStatements, endOfText]) :
      Tree.nodesIn language source none tree = allNodesIn language source tree.facts.aliases tree.children :=
    nodesIn_hidden (by rw [Option.getD_none, appearance_eq label]; exact statements_known.1 _ listed)
  have inner : allNodesIn language source block.facts.aliases block.children = [nodeOf source tree] := by
    rw [plain, parts, allNodesIn_nil]
    simp [nodesIn_known built.label (wider either), hidden newline, blank, allNodesIn]
  rw [allNodesIn_nil]
  simp [hidden lines.label, hidden last, inner, empty, allNodesIn]

theorem contains_rootOf (proper : Proper module_ text) (aliases : text.facts.aliases = []) (children : text.children = [block])
    (free : ending.cost = 0) (depicts : Depicts source (nodeOf source tree) depicted written)
    (same : depicted.recount written = content) : Contains source content (rootOf [] text [ending]) := by
  refine ⟨Tree.label_ofChildren.trans proper.label, ?_, nodeOf source tree, depicted, written, ?_, ?_, depicts, same, ?_⟩
  · refine Tree.cost_ofChildren_eq_zero (by rw [proper.label]; rfl) fun child member => ?_
    rw [List.nil_append, children, List.singleton_append, List.mem_pair] at member
    rcases member with rfl | rfl
    · exact lines.free
    · exact free
  · have aliased : (rootOf [] text [ending]).facts.aliases = [] := Tree.aliases_ofChildren.trans aliases
    have inside : (rootOf [] text [ending]).children = [block, ending] :=
      congrArg (· ++ [ending]) children
    rw [nodeOf, children_shownAs, aliased, inside]
    exact nodes_statement either built newline blank lines plain parts last empty
  · rw [nodeOf, named_shownAs, appearance_eq built.label]
    exact statements_known.2.1 (symbol, kind) either
  · exact fun child member => built.calm child (children_shownAs .. ▸ member)

end Root

theorem exists_end {place : Nat} {memory : Option Memory} (unmarked : ∀ known ∈ memory, known = Layout.emptyMemory)
    (ahead : Ahead source place []) : ∃ token, Reads ⟨language, source⟩ 647 place memory token ∧
      token.label = .symbol endOfText ∧ token.extra = true ∧ token.cost = 0 ∧ token.children = [] := by
  obtain ⟨mode, expected⟩ := statements_known.2.2.2.1 647 (by decide)
  have silent : language.scan (language.expected 647) source place memory = none := by
    rw [expected]
    exact Layout.scan_end unmarked ahead
  have found : language.read (language.mode 647) source place = .found ⟨endOfText, place, place⟩ := by
    rw [mode]
    have set : (Lexis.modes.getD 1 0).testBit formatText = false ∧ (Lexis.modes.getD 1 0).testBit endOfText = true := by
      decide
    exact Lexis.read_end set.1 set.2 ahead
  exact ⟨_, .plain silent found, rfl, rfl, rfl, rfl⟩

theorem finish_statement (either : (symbol, kind) ∈ statementKinds) (built : Built source symbol nodes tree)
    (depicts : Depicts source (nodeOf source tree) depicted written) (same : depicted.recount written = content) :
    Facing source (Contains source content) 1 [⟨tree, 2268⟩] newline [] := by
  intro token taken
  have leaf := taken.leaf_withExtra
  have blank : (token.withExtra false).children = [] := (Tree.children_withExtra ..).trans taken.leaf
  have shifts := shifts_row (by decide : (2268, newline, 647) ∈ shiftRows)
  have ahead : Ahead source token.facts.stop [] := by
    rw [taken.stop]
    exact taken.start.skip
  have inside : token.facts.stop ≤ source.size := by
    rw [ahead.size]
    exact Nat.le_add_right _ _
  obtain ⟨ending, reads, label, aside, free, empty⟩ := exists_end taken.memory ahead
  refine ⟨1, Nat.le_refl 1, .shift ((actionsFor_label taken.label _).trans (eq_of_shiftsTo shifts)) taken.free inside ?_ ?_⟩
  · exact taken.moves.imp_right fun still => ⟨still.1, rfl, still.2⟩
  have remembers : (token.facts.memory <|> none) = token.facts.memory := by cases token.facts.memory <;> rfl
  have joins : ∀ pair ∈ statementKinds, (647, endOfText, simpleStatements, [pair.1, newline]) ∈ joinRows := by decide
  rw [remembers]
  obtain ⟨count, few, completes⟩ : ∃ count ≤ 3, Completes ⟨language, source⟩ (Contains source content)
      ([⟨token.withExtra false, 647⟩, ⟨tree, 2268⟩] ++ []) token.facts.memory (some (count, ending)) := by
    refine completes_reduce _ [] label (joins_row (joins _ either)) (.cons built.toProper (.cons leaf.built.toProper .nil))
      fun block whole plain parts _ _ => ?_
    rw [stateAbove, goto_row (by decide : (1, simpleStatements, 62) ∈ gotoRows)]
    refine completes_reduce [⟨block, 62⟩] [] label (joins_row (by decide : (62, endOfText, module_, [_]) ∈ joinRows))
      (.cons whole .nil) fun text proper aliases children _ _ => ?_
    rw [stateAbove, goto_row (by decide : (1, module_, finalState) ∈ gotoRows)]
    refine ⟨1, Nat.le_refl 1, .accept ((actionsFor_label label _).trans (eq_of_isOver statements_known.2.2.2.2.2))
      proper.plain aside free (contains_rootOf either built leaf.built.label blank whole plain parts label empty proper aliases
        children free depicts same)⟩
  have place : placeAbove [⟨token.withExtra false, 647⟩, ⟨tree, 2268⟩] = token.facts.stop := Tree.stop_withExtra ..
  exact .read (Nat.le_trans few (by decide)) (show 647 ≠ 0 by decide) (place ▸ reads) completes

end Endings

section Runs
open SourceAtlas.Python.Symbol Piece
variable {source : Source} {Goal : Syntax.Tree Memory → Prop} {content : Import} {targets : List Target}

theorem words_spelled : ∀ word ∈ ["import", "from", "as"], Lexis.isIdentifierStart (word.toList.headD ' ') = true ∧
    word.toList.tail.all Lexis.isIdentifierContinue = true ∧ word.toList = word.toList.headD ' ' :: word.toList.tail := by
  decide +kernel

theorem isIdentifier_word {word : String} (listed : word ∈ ["import", "from", "as"]) : IsIdentifier word := by
  obtain ⟨start, tail, chars⟩ := words_spelled word listed
  exact ⟨_, _, chars, start, List.all_eq_true.mp tail⟩

theorem completes_start {bound : Nat} {word : String} {pieces : List Piece} (either : word ∈ ["import", "from"]) (few : bound ≤ 100)
    (apart : Apart (⟨0, word⟩ :: pieces)) (ahead : Ahead source 0 (join (⟨0, word⟩ :: pieces)))
    (facing : Facing source Goal bound [] (wordFor language 1 word) (⟨0, word⟩ :: pieces)) :
    Completes ⟨language, source⟩ Goal [] none none := by
  obtain ⟨mode, expected⟩ := statements_known.2.2.2.1 1 (by decide)
  have listed : word ∈ ["import", "from", "as"] := List.mem_append_left ["as"] either
  obtain ⟨start, -, chars⟩ := words_spelled word listed
  have there : Ahead source 0 (List.replicate 0 ' ' ++ word.toList.headD ' ' :: (word.toList.tail ++ join pieces)) := by
    rw [List.replicate_zero, List.nil_append, ← List.cons_append, ← chars]
    exact ahead
  have silent : language.scan (language.expected 1) source 0 none = none := by
    rw [expected]
    refine Layout.scan_blanks (by decide : 2 ∈ [2, 9, 14]) (solid_of_start start) there fun _ => ?_
    -- A string may have letters in front of its quote, and the first two of `from` are such letters.
    simp only [List.mem_cons, List.not_mem_nil, or_false] at either
    rcases either with rfl | rfl
    · have other : 'i' ∉ "fFrRbBuU\x60'\"".toList := by decide
      exact Layout.openQuote_none (show Ahead source 0 ([] ++ 'i' :: ("mport".toList ++ join pieces)) from there) nofun
        fun c first => Option.some.inj first ▸ other
    · have other : 'o' ∉ "fFrRbBuU\x60'\"".toList := by decide
      exact Layout.openQuote_none (show Ahead source 0 (['f', 'r'] ++ 'o' :: ("m".toList ++ join pieces)) from there)
        (List.all_eq_true.mp (by decide : ['f', 'r'].all _ = true)) fun c first => Option.some.inj first ▸ other
  have alive : stateAbove ([] : List (Rung Memory)) ≠ 0 := by decide
  have known : language.mode 1 ∈ [1, 7, 10] := by rw [mode]; decide
  obtain ⟨token, reads, taken⟩ := exists_word (isIdentifier_word listed) known silent ahead apart
  obtain ⟨count, small, completes⟩ := facing token taken
  exact .read (Nat.le_trans small few) alive reads completes

theorem takes_targets (spelled : AllSpelled targets) :
    ∀ state ∈ [2139, 1867, 2029], Takes state (first (targetPieces targets)) identifier := by
  have rows : ∀ state ∈ [2139, 1867, 2029], (state, "") ∈ nameRows := by decide
  obtain ⟨target, targets, rfl⟩ := List.exists_cons_of_ne_nil spelled.nonempty
  have here := spelled.each target List.mem_cons_self
  obtain ⟨name, names, same⟩ := List.exists_cons_of_ne_nil here.nonempty
  have word : IsIdentifier name := here.name name (same ▸ List.mem_cons_self)
  have text : first (targetPieces (target :: targets)) = name := by simp [targetPieces, Target.pieces, first, same]
  intro state reader
  rw [text]
  exact takes_name (rows state reader) word (ne_empty word)

theorem run_modules (spelled : AllSpelled targets) :
    Facing source (Contains source (.modules targets)) 1 [] import_ (⟨0, "import"⟩ :: targetPieces targets) := by
  refine .shift (shifts_row (by decide : (1, import_, 2139) ∈ shiftRows)) (attends_name (by decide : (2139, "") ∈ nameRows))
    (takes_targets spelled 2139 (by decide)) (by decide) (show 1 ≤ 100 by decide) fun word leaf => ?_
  have said := leaf.built.shown (by decide : (_, "import") ∈ Automaton.kinds) (by decide)
  refine run_targets spelled (by decide : 2139 ∈ _) (show 2 + 7 ≤ 100 by decide) fun list nodes grown each => ?_
  rw [stateAbove, goto_row (by decide : (2139, importList, 2532) ∈ gotoRows)]
  refine .reduce [⟨list, 2532⟩, ⟨word, 2139⟩] [] [(import_, [nodeOf source word]), (importList, nodes)]
    (joins_row (by decide : (2532, newline, importStatement, [import_, importList]) ∈ joinRows)) (.cons said (.cons grown .nil))
    fun tree built _ _ => ?_
  rw [stateAbove, goto_row (by decide : (1, importStatement, 2268) ∈ gotoRows)]
  have parts : partsOf (nodeOf source tree) = nodeOf source word :: nodes := by simpa using built.partsOf_nodeOf
  exact finish_statement (by decide : (importStatement, "import_statement") ∈ statementKinds) built
    (.modules (kind_nodeOf built.label (by decide)) parts (kind_nodeOf said.label (by decide)) each) rfl

section From
variable {lead : Syntax.Tree Memory} (leads : Grown source from_ [nodeOf source lead] lead)
include leads

theorem run_future (spelled : AllSpelled targets) :
    Facing source (Contains source (.names 0 ["__future__"] (.targets targets))) 1 [⟨lead, 1862⟩] future
      (⟨1, "__future__"⟩ :: ⟨1, "import"⟩ :: targetPieces targets) := by
  refine .shift (shifts_row (by decide : (1862, future, 2636) ∈ shiftRows))
    (attends_piece (by decide : (2636, "import", import_) ∈ pieceRows))
    (takes_piece (by decide : (2636, "import", import_) ∈ pieceRows)) (by decide) (show 1 ≤ 100 by decide) fun name leaf => ?_
  have named := leaf.built.shown (by decide : (_, "__future__") ∈ Automaton.kinds) (by decide)
  refine .shift (shifts_row (by decide : (2636, import_, 2029) ∈ shiftRows))
    (attends_name (by decide : (2029, "") ∈ nameRows)) (takes_targets spelled 2029 (by decide)) (by decide)
    (show 1 ≤ 100 by decide) fun word leaf => ?_
  have said := leaf.built.shown (by decide : (_, "import") ∈ Automaton.kinds) (by decide)
  refine run_targets spelled (by decide : 2029 ∈ _) (show 2 + 7 ≤ 100 by decide) fun list nodes grown each => ?_
  rw [stateAbove, goto_row (by decide : (2029, importList, 2545) ∈ gotoRows)]
  refine .reduce [⟨list, 2545⟩, ⟨word, 2029⟩, ⟨name, 2636⟩, ⟨lead, 1862⟩] []
    [(from_, [nodeOf source lead]), (future, [nodeOf source name]), (import_, [nodeOf source word]), (importList, nodes)]
    (joins_row (by decide : (2545, newline, futureImport, [from_, future, import_, importList]) ∈ joinRows))
    (.cons leads (.cons named (.cons said (.cons grown .nil)))) fun tree built _ _ => ?_
  rw [stateAbove, goto_row (by decide : (1, futureImport, 2268) ∈ gotoRows)]
  have parts : partsOf (nodeOf source tree) = nodeOf source lead :: nodeOf source name :: nodeOf source word :: nodes := by
    simpa using built.partsOf_nodeOf
  exact finish_statement (by decide : (futureImport, "future_import_statement") ∈ statementKinds) built
    (.future (kind_nodeOf built.label (by decide)) parts (kind_nodeOf leads.label (by decide))
      (kind_nodeOf named.label (by decide)) (kind_nodeOf said.label (by decide)) each) rfl

def selectionPieces : Selection → List Piece
  | .everything => [⟨1, "*"⟩]
  | .targets targets => targetPieces targets

section Chosen
variable {dots written : Nat} {names : List String} {module : Syntax.Tree Memory} {selection : Selection}

theorem finish_from {kind last state : Nat} {nodes : List Node} {word chosen : Syntax.Tree Memory}
    (joins : (state, newline, importFrom, [from_, kind, import_, last]) ∈ joinRows)
    (origin : Grown source kind [nodeOf source module] module)
    (said : Grown source import_ [nodeOf source word] word) (grown : Grown source last nodes chosen)
    (depicts : ∀ node, node.kind = "import_from_statement" →
      partsOf node = nodeOf source lead :: nodeOf source module :: nodeOf source word :: nodes →
      (nodeOf source lead).kind = "from" → (nodeOf source word).kind = "import" →
      Depicts source node (.names dots names selection) written) :
    Facing source (Contains source (.names written names selection)) 2
      [⟨chosen, state⟩, ⟨word, 1867⟩, ⟨module, 2637⟩, ⟨lead, 1862⟩] newline [] := by
  refine .reduce [⟨chosen, state⟩, ⟨word, 1867⟩, ⟨module, 2637⟩, ⟨lead, 1862⟩] []
    [(from_, [nodeOf source lead]), (kind, [nodeOf source module]), (import_, [nodeOf source word]), (last, nodes)]
    (joins_row joins) (.cons leads (.cons origin (.cons said (.cons grown .nil)))) fun tree built _ _ => ?_
  rw [stateAbove, goto_row (by decide : (1, importFrom, 2268) ∈ gotoRows)]
  have parts : partsOf (nodeOf source tree) = nodeOf source lead :: nodeOf source module :: nodeOf source word :: nodes := by
    simpa using built.partsOf_nodeOf
  exact finish_statement (by decide : (importFrom, "import_from_statement") ∈ statementKinds) built
    (depicts _ (kind_nodeOf built.label (by decide)) parts (kind_nodeOf leads.label (by decide))
      (kind_nodeOf said.label (by decide))) rfl

theorem run_selection (located : Locates source written names module) (spelled : selection.Spelled) :
    Facing source (Contains source (.names written names selection)) 1 [⟨module, 2637⟩, ⟨lead, 1862⟩] import_
      (⟨1, "import"⟩ :: selectionPieces selection) := by
  obtain ⟨⟨kind, either, origin⟩, dots, is⟩ := located
  have shifts := shifts_row (by decide : (2637, import_, 1867) ∈ shiftRows)
  have attentive := attends_name (by decide : (1867, "") ∈ nameRows)
  have joins : ∀ kind ∈ [dottedName, relativeImport],
      (2547, newline, importFrom, [from_, kind, import_, importList]) ∈ joinRows ∧
      (2548, newline, importFrom, [from_, kind, import_, wildcardImport]) ∈ joinRows := by decide
  cases selection with
  | everything =>
    refine .shift shifts attentive (takes_piece (by decide : (1867, "*", star) ∈ pieceRows)) (by decide)
      (show 1 ≤ 100 by decide) fun word leaf => ?_
    have said := leaf.built.shown (by decide : (_, "import") ∈ Automaton.kinds) (by decide)
    refine .shift (shifts_row (by decide : (1867, star, 2546) ∈ shiftRows))
      (attends_piece (by decide : (2546, "", newline) ∈ pieceRows))
      (takes_piece (by decide : (2546, "", newline) ∈ pieceRows)) (by decide) (show 3 ≤ 100 by decide) fun sign leaf => ?_
    refine .reduce [⟨sign, 2546⟩] [⟨word, 1867⟩, ⟨module, 2637⟩, ⟨lead, 1862⟩] [(star, [nodeOf source sign])]
      (joins_row (by decide : (2546, newline, wildcardImport, [star]) ∈ joinRows))
      (.cons (leaf.built.shown (by decide : (_, "*") ∈ Automaton.kinds) (by decide)) .nil) fun wildcard built _ _ => ?_
    have all := built.shown (by decide : (_, "wildcard_import") ∈ Automaton.kinds) (by decide)
    rw [stateAbove, goto_row (by decide : (1867, wildcardImport, 2548) ∈ gotoRows)]
    exact finish_from leads (joins kind either).2 origin said all fun node named parts from_ import_ =>
      .everything named parts from_ is import_ (kind_nodeOf all.label (by decide))
  | targets targets =>
    refine .shift shifts attentive (takes_targets spelled 1867 (by decide)) (by decide) (show 1 ≤ 100 by decide) fun word leaf => ?_
    have said := leaf.built.shown (by decide : (_, "import") ∈ Automaton.kinds) (by decide)
    refine run_targets spelled (by decide : 1867 ∈ _) (show 2 + 7 ≤ 100 by decide) fun list nodes grown each => ?_
    rw [stateAbove, goto_row (by decide : (1867, importList, 2547) ∈ gotoRows)]
    exact finish_from leads (joins kind either).1 origin said grown fun node named parts from_ import_ =>
      .names named parts from_ is import_ each

end Chosen

end From

def Import.pieces : Import → List Piece
  | .modules targets => ⟨0, "import"⟩ :: targetPieces targets
  | .names dots module selection =>
    ⟨0, "from"⟩ :: (modulePieces dots module ++ ⟨1, "import"⟩ :: selectionPieces selection)

/-- No name of a module is taken for something else in the place where it stands: `__future__` behind the word `from`, and
`import` behind leading dots. -/
def Import.Readable : Import → Prop
  | .modules _ => True
  | .names 0 module selection =>
    module.head? = some "__future__" → module = ["__future__"] ∧ ∃ targets, selection = .targets targets
  | .names (_ + 1) module _ => module.head? ≠ some "import"

theorem run_from {dots : Nat} {module : List String} {selection : Selection}
    (spelled : (Import.names dots module selection).Spelled) (readable : (Import.names dots module selection).Readable) :
    Facing source (Contains source (.names dots module selection)) 1 [] from_ (Import.names dots module selection).pieces := by
  obtain ⟨named, located, chosen⟩ := spelled
  have shifts := shifts_row (by decide : (1, from_, 1862) ∈ shiftRows)
  have attentive := attends_name (by decide : (1862, "__future__") ∈ nameRows)
  have leads {pieces : List Piece} {lead : Syntax.Tree Memory} (leaf : Leaf source from_ pieces lead) :=
    leaf.built.shown (by decide : (_, "from") ∈ Automaton.kinds) (by decide)
  cases dots with
  | succ dots =>
    refine .shift shifts attentive (takes_piece (by decide : (1862, ".", period) ∈ pieceRows)) (by decide)
      (show 1 ≤ 100 by decide) fun lead leaf => ?_
    exact run_relative named (show 1 + 5 ≤ 100 by decide) rfl rfl readable fun module located =>
      run_selection (leads leaf) located chosen
  | zero =>
    obtain ⟨name, module, rfl⟩ := List.exists_cons_of_ne_nil fun empty => Nat.lt_irrefl 0 (located empty)
    by_cases same : name = "__future__"
    · subst same
      obtain ⟨only, targets, rfl⟩ := readable rfl
      rw [only]
      refine .shift shifts attentive (takes_piece (by decide : (1862, "__future__", future) ∈ pieceRows)) (by decide)
        (show 1 ≤ 100 by decide) fun lead leaf => ?_
      exact run_future (leads leaf) chosen
    · refine .shift shifts attentive (takes_name (by decide : (1862, "__future__") ∈ nameRows) (named name List.mem_cons_self) same)
        (by decide) (show 1 ≤ 100 by decide) fun lead leaf => ?_
      exact run_absolute named (show 1 + 5 ≤ 100 by decide) rfl rfl (List.cons_ne_nil _ _) fun module located =>
        run_selection (leads leaf) located chosen

theorem completes_import (spelled : content.Spelled) (readable : content.Readable) (apart : Apart content.pieces)
    (ahead : Ahead source 0 (join content.pieces)) : Completes ⟨language, source⟩ (Contains source content) [] none none := by
  obtain ⟨import_, from_⟩ := statements_known.2.2.2.2.1
  cases content with
  | modules targets =>
    exact completes_start (by decide) (show 1 ≤ 100 by decide) apart ahead (import_ ▸ run_modules spelled)
  | names dots module selection =>
    exact completes_start (by decide) (show 1 ≤ 100 by decide) apart ahead (from_ ▸ run_from spelled readable)

end Runs

section Texts
open Piece

theorem intercalate_cons {α : Type} (separator first : List α) (rest : List (List α)) :
    separator.intercalate (first :: rest) = first ++ rest.flatMap (separator ++ ·) := by
  induction rest generalizing first with
  | nil => simp
  | cons second rest ih => simp [List.intercalate_cons_cons, ih]

theorem join_furtherNames (names : List String) :
    join (furtherNames names) = (names.map String.toList).flatMap (['.'] ++ ·) := by
  induction names with
  | nil => rfl
  | cons name names ih =>
    have here : furtherNames (name :: names) = [⟨0, "."⟩, ⟨0, name⟩] ++ furtherNames names := rfl
    rw [here, join_append, ih, List.map_cons, List.flatMap_cons]
    simp [join, chars]

theorem join_namePieces (blanks : Nat) {names : List String} (nonempty : names ≠ []) :
    join (namePieces blanks names) = List.replicate blanks ' ' ++ (dotted names).toList := by
  obtain ⟨name, names, rfl⟩ := List.exists_cons_of_ne_nil nonempty
  rw [toList_dotted, List.map_cons, intercalate_cons, ← join_furtherNames, ← List.append_assoc]
  rfl

theorem join_pieces_target {target : Target} (nonempty : target.name ≠ []) :
    join target.pieces = ' ' :: target.render.toList := by
  obtain ⟨names, called⟩ := target
  obtain ⟨name, names, rfl⟩ := List.exists_cons_of_ne_nil nonempty
  have pieces : (Target.mk (name :: names) called).pieces = namePieces 1 (name :: names) ++ renamingPieces called := rfl
  rw [pieces, join_append, join_namePieces 1 nonempty, Target.toList_render]
  cases called with
  | none => simp [renamingPieces, Target.renaming, join]
  | some called => simp [renamingPieces, Target.renaming, join, chars]

theorem join_targetPieces {targets : List Target} (spelled : AllSpelled targets) :
    join (targetPieces targets) = ' ' :: (Target.renderAll targets).toList := by
  obtain ⟨nonempty, each⟩ := spelled
  obtain ⟨target, targets, rfl⟩ := List.exists_cons_of_ne_nil nonempty
  obtain ⟨here, others⟩ := List.forall_mem_cons.mp each
  rw [targetPieces, join_append, join_pieces_target here.nonempty, toList_renderAll, List.map_cons, intercalate_cons,
    List.cons_append]
  congr 2
  clear each nonempty here
  induction targets with
  | nil => rfl
  | cons target targets ih =>
    obtain ⟨here, others⟩ := List.forall_mem_cons.mp others
    rw [List.flatMap_cons, join_append, ih others, List.map_cons, List.flatMap_cons]
    congr 1
    have pieces : join (⟨0, ","⟩ :: target.pieces) = ',' :: join target.pieces := rfl
    rw [pieces, join_pieces_target here.nonempty]
    rfl

theorem join_modulePieces {dots : Nat} {names : List String} (located : names = [] → 0 < dots) :
    join (modulePieces dots names) = ' ' :: (List.replicate dots '.' ++ (dotted names).toList) := by
  cases dots with
  | zero => exact join_namePieces 1 fun empty => Nat.lt_irrefl 0 (located empty)
  | succ dots =>
    have pieces : modulePieces (dots + 1) names = [⟨1, "."⟩] ++ (List.replicate dots ⟨0, "."⟩ ++ namePieces 0 names) := rfl
    rw [pieces, join_append, join_append, join_dots, List.replicate_succ]
    cases names with
    | nil => rfl
    | cons name names =>
      rw [join_namePieces 0 (List.cons_ne_nil _ _)]
      rfl

theorem join_pieces {content : Import} (spelled : content.Spelled) : join content.pieces = content.render.toList := by
  cases content with
  | modules targets =>
    rw [Import.toList_render_modules, Import.pieces]
    have first : join (⟨0, "import"⟩ :: targetPieces targets) = "import".toList ++ join (targetPieces targets) := rfl
    rw [first, join_targetPieces spelled]
    rfl
  | names dots module selection =>
    obtain ⟨-, located, chosen⟩ := spelled
    have selected : join (selectionPieces selection) = ' ' :: selection.render.toList := by
      cases selection with
      | everything => rfl
      | targets targets => exact join_targetPieces chosen
    have first : join (Import.names dots module selection).pieces = "from".toList ++
        join (modulePieces dots module ++ ⟨1, "import"⟩ :: selectionPieces selection) := rfl
    have second : join (⟨1, "import"⟩ :: selectionPieces selection) = " import".toList ++ join (selectionPieces selection) := rfl
    rw [Import.toList_render_names, first, join_append, join_modulePieces located, second, selected]
    simp

structure Loose (pieces : List Piece) : Prop where
  apart : Apart pieces
  head : ∀ c ∈ (join pieces).head?, Lexis.isIdentifierContinue c = false

theorem between_names {c : Char} (listed : c ∈ ' ' :: Lexis.signs) : Lexis.isIdentifierContinue c = false := by
  simpa using List.all_eq_true.mp Lexis.starts_apart.2 c listed

namespace Loose
variable {pieces : List Piece} {blanks : Nat} {name : String}

theorem sign (apart : Apart pieces) {c : Char} (listed : c ∈ Lexis.signs) (text : name.toList = [c]) :
    Loose (⟨blanks, name⟩ :: pieces) := by
  have starts : Lexis.signs ⊆ Lexis.otherStarts := by decide
  refine ⟨⟨?_, fun ⟨first, tail, chars, start, _⟩ => ?_, apart⟩, fun first head => ?_⟩
  · rintro rfl
    cases text
  · obtain ⟨rfl, -⟩ := List.cons.inj (text.symm.trans chars)
    rw [Lexis.not_start (starts listed)] at start
    cases start
  · refine between_names ?_
    have here : join (⟨blanks, name⟩ :: pieces) = List.replicate blanks ' ' ++ c :: join pieces := by simp [join, chars, text]
    rw [here] at head
    cases blanks with
    | zero => exact List.mem_cons_of_mem _ (Option.some.inj head ▸ listed)
    | succ blanks => exact Option.some.inj head ▸ List.mem_cons_self

theorem word (loose : Loose pieces) (spelled : IsIdentifier name) : Apart (⟨blanks, name⟩ :: pieces) :=
  ⟨ne_empty spelled, fun _ => loose.head, loose.apart⟩

theorem spaced (loose : Loose pieces) (spelled : IsIdentifier name) : Loose (⟨1, name⟩ :: pieces) :=
  ⟨loose.word spelled, fun _ head => Option.some.inj head ▸ between_names List.mem_cons_self⟩

theorem further {names : List String} (loose : Loose pieces) (spelled : ∀ name ∈ names, IsIdentifier name) :
    Loose (furtherNames names ++ pieces) := by
  induction names with
  | nil => exact loose
  | cons name names ih =>
    obtain ⟨here, others⟩ := List.forall_mem_cons.mp spelled
    exact sign ((ih others).word here) (by decide) (rfl : ".".toList = ['.'])

theorem target {target : Target} (loose : Loose pieces) (spelled : target.Spelled) : Loose (target.pieces ++ pieces) := by
  obtain ⟨names, called⟩ := target
  obtain ⟨nonempty, named, renamed⟩ := spelled
  obtain ⟨name, names, rfl⟩ := List.exists_cons_of_ne_nil nonempty
  obtain ⟨here, others⟩ := List.forall_mem_cons.mp named
  have pieces : (Target.mk (name :: names) called).pieces ++ pieces =
      ⟨1, name⟩ :: (furtherNames names ++ (renamingPieces called ++ pieces)) := by simp [Target.pieces]
  rw [pieces]
  refine spaced (further ?_ others) here
  cases called with
  | none => exact loose
  | some called => exact spaced (spaced loose (renamed called rfl)) (isIdentifier_word (by decide))

theorem targets {targets : List Target} (spelled : AllSpelled targets) : Loose (targetPieces targets) := by
  obtain ⟨nonempty, each⟩ := spelled
  obtain ⟨first, targets, rfl⟩ := List.exists_cons_of_ne_nil nonempty
  obtain ⟨here, others⟩ := List.forall_mem_cons.mp each
  refine target ?_ here
  clear each nonempty here
  induction targets with
  | nil => exact ⟨trivial, nofun⟩
  | cons second targets ih =>
    obtain ⟨here, others⟩ := List.forall_mem_cons.mp others
    exact sign (target (ih others) here).apart (by decide) (rfl : ",".toList = [','])

theorem module {dots : Nat} {names : List String} (loose : Loose pieces) (spelled : ∀ name ∈ names, IsIdentifier name)
    (located : names = [] → 0 < dots) : Loose (modulePieces dots names ++ pieces) := by
  have dot : ".".toList = ['.'] := rfl
  cases dots with
  | zero =>
    obtain ⟨name, names, rfl⟩ := List.exists_cons_of_ne_nil fun empty => Nat.lt_irrefl 0 (located empty)
    obtain ⟨here, others⟩ := List.forall_mem_cons.mp spelled
    exact spaced (loose.further others) here
  | succ dots =>
    have last : Apart (namePieces 0 names ++ pieces) := by
      cases names with
      | nil => exact loose.apart
      | cons name names =>
        obtain ⟨here, others⟩ := List.forall_mem_cons.mp spelled
        exact (loose.further others).word here
    have behind (count : Nat) : Apart (List.replicate count ⟨0, "."⟩ ++ (namePieces 0 names ++ pieces)) := by
      induction count with
      | zero => exact last
      | succ count ih => exact (sign ih (by decide) dot).apart
    rw [modulePieces, List.cons_append, List.append_assoc]
    exact sign (behind dots) (by decide) dot

end Loose

theorem apart_pieces {content : Import} (spelled : content.Spelled) : Apart content.pieces := by
  cases content with
  | modules targets => exact (Loose.targets spelled).word (isIdentifier_word (by decide))
  | names dots module selection =>
    obtain ⟨named, located, chosen⟩ := spelled
    have selected : Loose (selectionPieces selection) := by
      cases selection with
      | everything => exact .sign trivial (by decide) (rfl : "*".toList = ['*'])
      | targets targets => exact .targets chosen
    exact ((selected.spaced (isIdentifier_word (by decide))).module named located).word (isIdentifier_word (by decide))

end Texts

section Outlines
variable {source : Source} {content : Import} {root node : Node} (children : root.children = [node]) (named : node.named = true)
  (other : root.kind ∉ listedKinds) (calm : ∀ child ∈ node.children, Calm child)
include children named other calm

theorem byLevel_only {wanted : Node → Bool} (listed : ∀ node, wanted node = true → node.kind ∈ listedKinds) :
    (root.byLevel transparentKinds (wanted ·.node)).map (·.node) = if wanted node then [node] else [] := by
  have unwanted {node : Node} (other : node.kind ∉ listedKinds) : wanted node = false :=
    Bool.eq_false_iff.mpr fun is => other (listed node is)
  have inner : (Node.preorderOfAll (·.named) 0 node.children).filter ((wanted ·.node) ∘ Spot.under 0) = [] := by
    refine List.filter_eq_nil_iff.mpr fun spot below => ?_
    obtain ⟨offset, child, inner, nth, -, member, rfl⟩ := Node.mem_preorderOfAll.mp below
    have quiet : inner.node.kind ∉ listedKinds :=
      ((calm child (List.mem_of_getElem? nth)).reached (Node.mem_preorder.mp member)).here
    simp [Spot.under, unwanted quiet]
  have all : (root.preorder (·.named)).filter (wanted ·.node) = if wanted node then [⟨[0], node⟩] else [] := by
    rw [Node.preorder_eq, children, List.filter_cons_of_neg (by simp [unwanted other]), Node.preorderOfAll, if_pos named,
      Node.preorder_eq node, Node.preorderOfAll, List.append_nil, List.filter_map, List.filter_cons, inner]
    cases here : wanted node <;> simp [Spot.under, here]
  rw [Node.byLevel, all]
  cases wanted node <;> simp

theorem outlineOf_only (known : Import.ofNode? source node = some content) :
    outlineOf source root = { imports := [content.render] } := by
  have is := isImport_of_ofNode? known
  have kind : node.kind ∉ ["class_definition", "function_definition"] := by
    rcases kind_of_isImport is with kind | kind | kind <;> rw [kind] <;> decide
  simp only [List.mem_cons, List.not_mem_nil, or_false, not_or] at kind
  have classes := byLevel_only children named other calm fun node (is : isClass node = true) => by
    simp_all [isClass, listedKinds]
  have functions := byLevel_only children named other calm fun node (is : isPlainFunction node = true) => by
    simp_all [isPlainFunction, listedKinds]
  have imports := byLevel_only children named other calm fun node (is : isImport node = true) => by
    rcases kind_of_isImport is with kind | kind | kind <;> rw [kind] <;> decide
  rw [outlineOf_eq_outlineByLevel, outlineByLevel]
  simp only [classes, functions, imports, is, if_true]
  simp [isClass, isPlainFunction, kind, known]

theorem checked_only (clean : root.hasError = false) (is : isImport node = true) :
    root.checked obsoleteStatements = .ok root := by
  have wider : obsoleteStatements ⊆ listedKinds := List.subset_append_right _ _
  refine Node.checked_eq_ok_iff.mpr ⟨rfl, Node.offender?_eq_none_iff.mpr ⟨clean, fun path found reached => ?_⟩⟩
  cases reached with
  | here => exact fun rejected => other (wider rejected)
  | child nth _ rest =>
    rw [children] at nth
    obtain rfl := List.mem_singleton.mp (List.mem_of_getElem? nth)
    cases rest with
    | here => rcases kind_of_isImport is with kind | kind | kind <;> rw [kind] <;> decide
    | child nth _ rest =>
      exact fun rejected => ((calm _ (List.mem_of_getElem? nth)).reached rest).here (wider rejected)

end Outlines

theorem outline_render {content : Import} (spelled : content.Spelled) (readable : content.Readable) :
    outline content.render = .ok { imports := [content.render] } := by
  have contains := (completes_import spelled readable (apart_pieces spelled)
    (join_pieces spelled ▸ ahead_ofString content.render)).parse
  obtain ⟨visible, other⟩ := statements_known.2.2.1
  have whole := whole_parse (.ofString content.render)
  unfold outline parse
  dsimp only
  generalize Source.ofString content.render = source at contains whole
  generalize Parser.parse language source = root at contains whole
  obtain ⟨label, free, node, depicted, written, children, named, depicts, same, calm⟩ := contains
  rw [← appearance_eq label] at visible other
  have known : Import.ofNode? source node = some content := same ▸ depicts.ofNode?
  have clean : (nodeOf source root).hasError = false := by
    rw [nodeOf, Tree.hasError_shownAs, free]
    rfl
  have kind : (nodeOf source root).kind ∉ listedKinds := by rwa [nodeOf, Tree.kind_shownAs]
  rw [toNode_eq_nodeOf whole visible, checked_only children named kind calm clean (isImport_of_ofNode? known), Except.map,
    outlineOf_only children named kind calm known]

end SourceAtlas.Python
