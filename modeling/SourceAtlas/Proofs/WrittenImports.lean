import SourceAtlas.Proofs.OutlineNames
import SourceAtlas.Proofs.WrittenSteps

/-! Imports in their written form, read back as texts of their own. -/
namespace SourceAtlas.Python
open SourceAtlas.Syntax
open Lexis (IsIdentifier keywords)
open Parser Rung

section Tables
open Automaton SourceAtlas.Python.Symbol

def listedNames : Sequence :=
  ⟨[identifier], period, moreNames, dottedName, [comma, as_, newline], 1914, 2653, 2653, [2036], 1917, 1924⟩

def moduleNames : Sequence :=
  ⟨[identifier], period, moreNames, dottedName, [import_], 1771, 2700, 2700, [1829], 1772, 1774⟩

def plainTargets : Sequence :=
  ⟨[dottedName, aliasedImport], comma, moreTargets, importList, [newline], 2021, 2028, 2038, [2159, 2300], 2149, 2160⟩

def renamedTargets : Sequence :=
  { plainTargets with first := 2140, reopened := 2037, once := 2148 }

theorem regular_sequences : ∀ seq ∈ [listedNames, moduleNames, plainTargets, renamedTargets], seq.Regular := by
  have all : ∀ seq ∈ [listedNames, moduleNames, plainTargets, renamedTargets],
      (listed.appearance seq.more).visible = false ∧
      shiftsTo seq.opened (listed.actions seq.first seq.separator) = true ∧
      shiftsTo seq.reopened (listed.actions seq.once seq.separator) = true ∧
      (∀ state ∈ seq.later, ∀ token ∈ seq.separator :: seq.follow, ∀ item ∈ seq.items,
        joinsTo seq.more [seq.separator, item] (listed.actions state token) = true) ∧
      (∀ token ∈ seq.separator :: seq.follow,
        joinsTo seq.more [seq.more, seq.more] (listed.actions seq.twice token) = true) ∧
      (∀ token ∈ seq.follow, ∀ item ∈ seq.items, joinsTo seq.whole [item] (listed.actions seq.first token) = true ∧
        joinsTo seq.whole [item, seq.more] (listed.actions seq.once token) = true) ∧
      listed.goto seq.first seq.more = seq.once ∧ listed.goto seq.once seq.more = seq.twice := by
    decide +kernel
  intro seq member
  rw [← language_eq_listed] at all
  obtain ⟨visible, opens, reopens, adds, merges, closes, gotos⟩ := all seq member
  exact ⟨visible, opens, reopens, adds, merges, closes, gotos⟩

def taking (language : Syntax.Language Memory) (state : Nat) (text : String) (symbol : Nat) : Bool :=
  match text.toList with
  | [] => language.expected state == 9 && symbol == newline
  | [c] => signModes.contains (language.mode state, c, symbol)
  | c :: rest => Lexis.isIdentifierStart c && rest.all Lexis.isIdentifierContinue && wordFor language state text == symbol

theorem takes_of_taking {state symbol : Nat} {text : String} (takes : taking language state text symbol = true) :
    Takes state text symbol := by
  unfold taking at takes
  split at takes
  · next empty =>
    simp only [Bool.and_eq_true, beq_iff_eq] at takes
    obtain rfl := String.toList_eq_nil_iff.mp empty
    exact takes.2 ▸ .newline takes.1
  · next c chars => exact .sign chars rfl (List.contains_iff_mem.mp takes)
  · next c rest _ chars =>
    simp only [Bool.and_eq_true, beq_iff_eq, List.all_eq_true] at takes
    exact .word ⟨c, rest, chars, takes.1.1, takes.1.2⟩ takes.2

def pieceRows : List (Nat × String × Nat) :=
  ([1914, 2036].flatMap fun state => [(state, ".", period), (state, ",", comma), (state, "as", as_), (state, "", newline)]) ++
    ([1771, 1829, 2141, 2150].flatMap fun state => [(state, ".", period), (state, "import", import_)]) ++
    [(2301, ",", comma), (2301, "", newline), (2546, "", newline), (1867, "*", star), (1862, ".", period),
     (1862, "__future__", future), (2636, "import", import_)]

def nameRows : List (Nat × String) :=
  [(2139, ""), (1867, ""), (2029, ""), (2653, ""), (2700, ""), (2654, ""), (2028, ""), (2038, ""), (2037, ""),
   (1862, "__future__"), (2141, "import"), (2150, "import")]

def shiftRows : List (Nat × Nat × Nat) :=
  ([2139, 1867, 2029, 2028, 2038, 2037].map fun state => (state, identifier, 1914)) ++
    [(2653, identifier, 2036), (1862, identifier, 1771), (2269, identifier, 1771), (2700, identifier, 1829),
     (2021, as_, 2654), (2159, as_, 2654), (2654, identifier, 2301), (1862, period, 2141), (2141, period, 2150),
     (1862, future, 2636), (2636, import_, 2029), (2637, import_, 1867), (1867, star, 2546), (1, import_, 2139),
     (1, from_, 1862), (2268, newline, 647)]

def simpleStatements : Nat := 110

def joinRows : List (Nat × Nat × Nat × List Nat) :=
  ([comma, newline].map fun token => (2301, token, aliasedImport, [dottedName, as_, identifier])) ++
    ([period, morePeriods].flatMap fun dots =>
      ([period, identifier, import_].map fun token => (2150, token, morePeriods, [dots, period])) ++
        [identifier, import_].map fun token => (2141, token, importPrefix, [dots])) ++
    ([dottedName, relativeImport].flatMap fun module =>
      [(2547, newline, importFrom, [from_, module, import_, importList]),
       (2548, newline, importFrom, [from_, module, import_, wildcardImport])]) ++
    ([importStatement, importFrom, futureImport].map fun statement =>
      (647, 0, simpleStatements, [statement, newline])) ++
    [(2269, import_, relativeImport, [importPrefix]), (2655, import_, relativeImport, [importPrefix, dottedName]),
     (2546, newline, wildcardImport, [star]), (2532, newline, importStatement, [import_, importList]),
     (2545, newline, futureImport, [from_, future, import_, importList]), (62, 0, module_, [simpleStatements])]

def gotoRows : List (Nat × Nat × Nat) :=
  ([2139, 1867, 2029].flatMap fun state => [(state, dottedName, 2021), (state, aliasedImport, 2140)]) ++
    ([2028, 2038, 2037].flatMap fun state => [(state, dottedName, 2159), (state, aliasedImport, 2300)]) ++
    [(2139, importList, 2532), (1867, importList, 2547), (2029, importList, 2545), (1867, wildcardImport, 2548),
     (1862, dottedName, 2637), (1862, relativeImport, 2637), (1862, importPrefix, 2269), (1862, morePeriods, 2141),
     (2269, dottedName, 2655), (1, importStatement, 2268), (1, importFrom, 2268), (1, futureImport, 2268),
     (1, simpleStatements, 62), (1, module_, finalState)]

theorem rows_known : (∀ row ∈ pieceRows, attends language row.1 = true ∧ taking language row.1 row.2.1 row.2.2 = true) ∧
    (∀ row ∈ nameRows, attends language row.1 = true ∧
      ∀ entry ∈ keywords, language.accepts row.1 entry.2 = true → entry.1 = row.2) ∧
    (∀ row ∈ shiftRows, shiftsTo row.2.2 (language.actions row.1 row.2.1) = true) ∧
    (∀ row ∈ joinRows, joinsTo row.2.2.1 row.2.2.2 (language.actions row.1 row.2.1) = true) ∧
    ∀ row ∈ gotoRows, language.goto row.1 row.2.1 = row.2.2 := by
  rw [language_eq_listed]
  decide +kernel

section Rows
variable {state symbol target : Nat} {text : String}

theorem shifts_row (listed : (state, symbol, target) ∈ shiftRows) :
    shiftsTo target (language.actions state symbol) = true :=
  rows_known.2.2.1 _ listed

theorem joins_row {parts : List Nat} (listed : (state, symbol, target, parts) ∈ joinRows) :
    joinsTo target parts (language.actions state symbol) = true :=
  rows_known.2.2.2.1 _ listed

theorem goto_row (listed : (state, symbol, target) ∈ gotoRows) : language.goto state symbol = target :=
  rows_known.2.2.2.2 _ listed

theorem attends_piece (listed : (state, text, symbol) ∈ pieceRows) : attends language state = true :=
  (rows_known.1 _ listed).1

theorem attends_name (listed : (state, text) ∈ nameRows) : attends language state = true :=
  (rows_known.2.1 _ listed).1

theorem takes_piece (listed : (state, text, symbol) ∈ pieceRows) : Takes state text symbol :=
  takes_of_taking (rows_known.1 _ listed).2

theorem takes_name {name : String} (listed : (state, text) ∈ nameRows) (spelled : IsIdentifier name)
    (other : name ≠ text) : Takes state name identifier := by
  refine .word spelled ?_
  unfold wordFor
  split
  · next keyword known =>
    obtain ⟨before, after, split, -⟩ := List.lookup_eq_some_iff.mp known
    have member : (name, keyword) ∈ keywords := by simp [split]
    rw [if_neg fun accepted => other ((rows_known.2.1 _ listed).2 _ member accepted)]
  · rfl

end Rows

end Tables

section Names
open SourceAtlas.Python.Symbol Piece
variable {source : Source} {Goal : Syntax.Tree Memory → Prop} {bound next : Nat} {below : List (Rung Memory)}
  {rest : List Piece}

def furtherNames (names : List String) : List Piece :=
  names.flatMap fun name => [⟨0, "."⟩, ⟨0, name⟩]

def Names (source : Source) (name : String) (node : Node) : Prop :=
  node.kind = "identifier" ∧ node.text source = name

theorem ne_empty {name : String} (spelled : IsIdentifier name) : name ≠ "" := by
  rintro rfl
  exact spelled.ne_nil rfl

theorem names_leaf {pieces : List Piece} {tree : Syntax.Tree Memory} (leaf : Leaf source identifier pieces tree) :
    Grown source identifier [nodeOf source tree] tree ∧ Names source (first pieces) (nodeOf source tree) :=
  ⟨leaf.built.shown (by decide : (_, "identifier") ∈ Automaton.kinds) (by decide),
    kind_nodeOf leaf.built.label (by decide), leaf.text⟩

theorem isName_of_built {names : List String} {nodes : List Node} {tree : Syntax.Tree Memory}
    (built : Built source dottedName nodes tree) (each : names.Forall₂ (Names source) nodes) :
    IsName source (nodeOf source tree) names := by
  refine ⟨kind_nodeOf built.label (by decide), ?_, ?_⟩ <;> rw [built.partsOf_nodeOf] <;> clear built
  · induction each with
    | nil => exact nofun
    | cons here _ ih => exact List.forall_mem_cons.mpr ⟨here.1, ih⟩
  · induction each with
    | nil => rfl
    | cons here _ ih => rw [List.map_cons, ← ih, here.2]

theorem run_names {seq : Sequence} (either : seq ∈ [listedNames, moduleNames]) {blanks : Nat} {name : String}
    {names : List String} (shifts : shiftsTo seq.first (language.actions (stateAbove below) identifier) = true)
    (spelled : ∀ name ∈ names, IsIdentifier name) (good : ∀ state ∈ seq.first :: seq.later, Takes state (first rest) next)
    (follows : next ∈ seq.follow) (few : bound + 3 ≤ 100)
    (further : ∀ tree, Grown source dottedName [nodeOf source tree] tree →
      IsName source (nodeOf source tree) (name :: names) →
      Facing source Goal bound (⟨tree, language.goto (stateAbove below) dottedName⟩ :: below) next rest) :
    Facing source Goal 1 below identifier (⟨blanks, name⟩ :: (furtherNames names ++ rest)) := by
  have known : ∀ seq ∈ [listedNames, moduleNames], seq.separator = period ∧ seq.whole = dottedName ∧
      seq.items = [identifier] := by decide
  have marks : ∀ seq ∈ [listedNames, moduleNames], ∀ state ∈ seq.first :: seq.later,
      (state, ".", period) ∈ pieceRows := by decide
  have opens : ∀ seq ∈ [listedNames, moduleNames], ∀ opened ∈ [seq.opened, seq.reopened], (opened, "") ∈ nameRows := by
    decide
  have moves : ∀ seq ∈ [listedNames, moduleNames], ∃ state ∈ seq.later, ∀ opened ∈ [seq.opened, seq.reopened],
      (opened, identifier, state) ∈ shiftRows := by decide
  obtain ⟨separator, whole, items⟩ := known seq either
  obtain ⟨more, later, moves⟩ := moves seq either
  have wider : [listedNames, moduleNames] ⊆ [listedNames, moduleNames, plainTargets, renamedTargets] :=
    List.subset_append_left _ [plainTargets, renamedTargets]
  have takes {state : Nat} (reader : state ∈ seq.first :: seq.later) :
      Takes state (first (furtherNames names ++ rest)) (if names.isEmpty then next else seq.separator) := by
    cases names with
    | nil => exact good state reader
    | cons => exact separator ▸ takes_piece (marks seq either state reader)
  refine .shift shifts (attends_piece (marks seq either seq.first List.mem_cons_self)) (takes List.mem_cons_self)
    (by decide) (show bound + 1 ≤ 100 by omega) fun tree leaf => ?_
  obtain ⟨grown, named⟩ := names_leaf leaf
  have between : seq.Between source below [nodeOf source tree] (⟨tree, seq.first⟩ :: below) :=
    .single (items ▸ List.mem_singleton_self _) grown
  refine between.run (Names source) (fun name => [⟨0, name⟩])
    (fun symbol pieces => ∀ state ∈ seq.first :: seq.later, Takes state (first pieces) symbol) ⟨0, "."⟩
    (regular_sequences seq (wider either)) (fun opened member => attends_name (opens seq either opened member))
    (fun pieces sign leaf => ?_) (by rw [separator]; decide) few follows
    (fun pieces state reader => separator ▸ takes_piece (marks seq either state reader)) good
    (fun name member opened opening => ⟨fun pieces => ?_, fun lower symbol pieces there good further => ?_⟩)
    (.cons named .nil) fun tree nodes built each => ?_
  · rw [separator] at leaf ⊢
    exact leaf.built.filler (by decide : (_, ".") ∈ Automaton.kinds) (by decide)
  · exact takes_name (opens seq either opened opening) (spelled name member) (ne_empty (spelled name member))
  · refine .shift (there ▸ shifts_row (moves opened opening))
      (attends_piece (marks seq either more (List.mem_cons_of_mem _ later))) (good more (List.mem_cons_of_mem _ later))
      (by decide) (by omega) fun tree leaf => ?_
    obtain ⟨grown, named⟩ := names_leaf leaf
    exact further tree identifier _ more later (items ▸ List.mem_singleton_self _) grown named
  · rw [whole] at built ⊢
    exact further tree (built.shown (by decide : (_, "dotted_name") ∈ Automaton.kinds) (by decide))
      (isName_of_built built each)

end Names

section Targets
open SourceAtlas.Python.Symbol Piece
variable {source : Source} {Goal : Syntax.Tree Memory → Prop} {bound next : Nat} {below : List (Rung Memory)}
  {rest : List Piece}

def renamingPieces : Option String → List Piece
  | none => []
  | some called => [⟨1, "as"⟩, ⟨1, called⟩]

def Target.pieces (target : Target) : List Piece :=
  ⟨1, target.name.headD ""⟩ :: (furtherNames target.name.tail ++ renamingPieces target.localName)

def Closes (symbol : Nat) (pieces : List Piece) : Prop :=
  symbol = comma ∧ first pieces = "," ∨ symbol = newline ∧ first pieces = ""

def targetStates : List Nat := [2139, 1867, 2029, 2028, 2038, 2037]

theorem run_target {target : Target} (spelled : target.Spelled) (starts : stateAbove below ∈ targetStates)
    (closes : Closes next rest) (few : bound + 4 ≤ 100)
    (further : ∀ tree kind node, kind ∈ [dottedName, aliasedImport] → Grown source kind [node] tree →
      IsTarget source node target →
      Facing source Goal bound (⟨tree, language.goto (stateAbove below) kind⟩ :: below) next rest) :
    Facing source Goal 1 below identifier (target.pieces ++ rest) := by
  obtain ⟨names, called⟩ := target
  obtain ⟨nonempty, named, renamed⟩ := spelled
  obtain ⟨name, names, rfl⟩ := List.exists_cons_of_ne_nil nonempty
  have shifts : ∀ state ∈ targetStates, (state, identifier, 1914) ∈ shiftRows := by decide
  have dotted : ∀ state ∈ targetStates, ∃ after ∈ [2021, 2159], (state, dottedName, after) ∈ gotoRows := by decide
  obtain ⟨after, either, goes⟩ := dotted _ starts
  have leads : language.goto (stateAbove below) dottedName = after := goto_row goes
  have ends : ∀ state ∈ [1914, 2036, 2301], Takes state (first rest) next := by
    have rows : ∀ state ∈ [1914, 2036, 2301], (state, ",", comma) ∈ pieceRows ∧ (state, "", newline) ∈ pieceRows := by
      decide
    intro state reader
    rcases closes with ⟨rfl, text⟩ | ⟨rfl, text⟩ <;> rw [text]
    · exact takes_piece (rows state reader).1
    · exact takes_piece (rows state reader).2
  have spelledNames := fun name member => named name (List.mem_cons_of_mem _ member)
  cases called with
  | none =>
    have plain : (Target.mk (name :: names) none).pieces ++ rest = ⟨1, name⟩ :: (furtherNames names ++ rest) := by
      simp [Target.pieces, renamingPieces]
    rw [plain]
    refine run_names (List.mem_cons_self : listedNames ∈ _) (shifts_row (shifts _ starts)) spelledNames
      (fun state reader => ends state (List.mem_append_left [2301] reader)) ?_ (by omega) fun tree grown isName =>
        further tree dottedName _ (by simp) grown (.plain isName)
    rcases closes with ⟨rfl, -⟩ | ⟨rfl, -⟩ <;> decide
  | some called =>
    have pieces : (Target.mk (name :: names) (some called)).pieces ++ rest =
        ⟨1, name⟩ :: (furtherNames names ++ ⟨1, "as"⟩ :: ⟨1, called⟩ :: rest) := by
      simp [Target.pieces, renamingPieces]
    have word := renamed called rfl
    have reads : ∀ state ∈ [1914, 2036], (state, "as", as_) ∈ pieceRows := by decide
    have renames : ∀ state ∈ [2021, 2159], (state, as_, 2654) ∈ shiftRows := by decide
    rw [pieces]
    refine run_names (List.mem_cons_self : listedNames ∈ _) (shifts_row (shifts _ starts)) spelledNames
      (fun state reader => takes_piece (reads state reader)) (by decide) (show 1 + 3 ≤ 100 by decide)
      fun dotted grown isName => ?_
    rw [leads]
    refine .shift (shifts_row (renames after either)) (attends_name (by decide : (2654, "") ∈ nameRows))
      (takes_name (by decide : (2654, "") ∈ nameRows) word (ne_empty word)) (by decide) (show 1 ≤ 100 by decide)
      fun as leaf => ?_
    have asNode := leaf.built.shown (by decide : (_, "as") ∈ Automaton.kinds) (by decide)
    have asKind : (nodeOf source as).kind = "as" := kind_nodeOf leaf.built.label (by decide)
    refine .shift (shifts_row (by decide : (2654, identifier, 2301) ∈ shiftRows))
      (attends_piece (by decide : (2301, ",", comma) ∈ pieceRows))
      (ends 2301 (by decide)) (by decide) (show bound + 1 ≤ 100 by omega) fun other leaf => ?_
    obtain ⟨otherNode, otherKind, otherText⟩ := names_leaf leaf
    have joins : joinsTo aliasedImport [dottedName, as_, identifier] (language.actions 2301 next) = true := by
      rcases closes with ⟨rfl, -⟩ | ⟨rfl, -⟩
      · exact joins_row (by decide)
      · exact joins_row (by decide)
    refine .reduce [⟨other, 2301⟩, ⟨as, 2654⟩, ⟨dotted, after⟩] below
      [(dottedName, [nodeOf source dotted]), (as_, [nodeOf source as]), (identifier, [nodeOf source other])] joins
      (.cons grown (.cons asNode (.cons otherNode .nil))) fun tree built _ _ => ?_
    have parts : partsOf (nodeOf source tree) = [nodeOf source dotted, nodeOf source as, nodeOf source other] :=
      built.partsOf_nodeOf
    refine further tree aliasedImport (nodeOf source tree) (by simp)
      (built.shown (by decide : (_, "aliased_import") ∈ Automaton.kinds) (by decide)) ?_
    have target : IsTarget source (nodeOf source tree) ⟨name :: names, some ((nodeOf source other).text source)⟩ :=
      .renamed (kind_nodeOf built.label (by decide)) parts isName asKind otherKind
    rwa [otherText] at target

def targetPieces : List Target → List Piece
  | [] => []
  | target :: targets => target.pieces ++ targets.flatMap fun target => ⟨0, ","⟩ :: target.pieces

theorem target_sequences : ∀ seq ∈ [plainTargets, renamedTargets], seq.items = [dottedName, aliasedImport] ∧
    seq.separator = comma ∧ seq.whole = importList ∧ seq.follow = [newline] ∧ seq.later = [2159, 2300] ∧
    ∀ opened ∈ [seq.opened, seq.reopened], opened ∈ [2028, 2038, 2037] := by
  decide

theorem reads_target {seq : Sequence} (member : seq ∈ [plainTargets, renamedTargets]) {target : Target}
    (spelled : target.Spelled) (few : bound + 4 ≤ 100) :
    seq.Reads source Goal (fun target node => IsTarget source node target) Target.pieces Closes bound target := by
  obtain ⟨items, -, -, -, later, opens⟩ := target_sequences seq member
  have rows : ∀ opened ∈ [2028, 2038, 2037], opened ∈ targetStates ∧ (opened, "") ∈ nameRows ∧
      (opened, dottedName, 2159) ∈ gotoRows ∧ (opened, aliasedImport, 2300) ∈ gotoRows := by decide
  intro opened opening
  obtain ⟨starts, name, dotted, aliased⟩ := rows opened (opens opened opening)
  refine ⟨fun pieces => ?_, fun below symbol pieces there closes further => ?_⟩
  · obtain ⟨first, names, same⟩ := List.exists_cons_of_ne_nil spelled.nonempty
    have word : IsIdentifier first := spelled.name first (same ▸ List.mem_cons_self)
    have text : Piece.first (target.pieces ++ pieces) = first := by simp [Target.pieces, Piece.first, same]
    rw [text]
    exact takes_name name word (ne_empty word)
  · refine run_target spelled (there ▸ starts) closes few fun tree kind node either grown is => ?_
    rw [there]
    have known := either
    simp only [List.mem_cons, List.not_mem_nil, or_false] at known
    rcases known with rfl | rfl
    · exact goto_row dotted ▸ further tree _ node 2159 (by simp [later]) (items ▸ either) grown is
    · exact goto_row aliased ▸ further tree _ node 2300 (by simp [later]) (items ▸ either) grown is

theorem run_targets {targets : List Target} (spelled : AllSpelled targets) (starts : stateAbove below ∈ [2139, 1867, 2029])
    (few : bound + 7 ≤ 100) (further : ∀ tree nodes, Grown source importList nodes tree →
      nodes.Forall₂ (IsTarget source) targets →
      Facing source Goal bound (⟨tree, language.goto (stateAbove below) importList⟩ :: below) newline []) :
    Facing source Goal 1 below identifier (targetPieces targets) := by
  obtain ⟨nonempty, each⟩ := spelled
  obtain ⟨target, targets, rfl⟩ := List.exists_cons_of_ne_nil nonempty
  obtain ⟨here, others⟩ := List.forall_mem_cons.mp each
  have wider : [2139, 1867, 2029] ⊆ targetStates := by decide
  have closes : Closes (if targets.isEmpty then newline else comma)
      (targets.flatMap fun target => ⟨0, ","⟩ :: target.pieces) := by
    cases targets with
    | nil => exact .inr ⟨rfl, rfl⟩
    | cons => exact .inl ⟨rfl, rfl⟩
  refine run_target here (wider starts) closes (show bound + 1 + 4 ≤ 100 by omega) fun tree kind node either grown is => ?_
  have listed : ∃ seq ∈ [plainTargets, renamedTargets], language.goto (stateAbove below) kind = seq.first := by
    have rows : ∀ state ∈ [2139, 1867, 2029], (state, dottedName, 2021) ∈ gotoRows ∧
        (state, aliasedImport, 2140) ∈ gotoRows := by decide
    simp only [List.mem_cons, List.not_mem_nil, or_false] at either
    rcases either with rfl | rfl
    · exact ⟨plainTargets, by simp, goto_row (rows _ starts).1⟩
    · exact ⟨renamedTargets, by simp, goto_row (rows _ starts).2⟩
  obtain ⟨seq, member, state⟩ := listed
  obtain ⟨items, separator, whole, follow, -, opens⟩ := target_sequences seq member
  have attentive : ∀ opened ∈ [2028, 2038, 2037], (opened, "") ∈ nameRows := by decide
  have hidden : (language.appearance importList).visible = false := Automaton.symbols_shown.2.1 _ (by decide)
  have between : seq.Between source below [node] (⟨tree, seq.first⟩ :: below) := .single (items ▸ either) grown
  have run : Facing source Goal (bound + 1) (⟨tree, seq.first⟩ :: below) (if targets.isEmpty then newline else seq.separator)
      (targets.flatMap (fun target => ⟨0, ","⟩ :: target.pieces) ++ []) := between.run
    (fun target node => IsTarget source node target) Target.pieces Closes ⟨0, ","⟩
    (regular_sequences seq (List.mem_append_right [listedNames, moduleNames] member))
    (fun opened opening => attends_name (attentive opened (opens opened opening)))
    (fun pieces sign leaf => by
      rw [separator] at leaf ⊢
      exact leaf.built.filler (by decide : (_, ",") ∈ Automaton.kinds) (by decide))
    (by rw [separator]; decide) (by omega) (follow ▸ List.mem_singleton_self newline)
    (fun pieces => .inl ⟨separator, rfl⟩) (.inr ⟨rfl, rfl⟩)
    (fun target inside => reads_target member (others target inside) (by omega)) (.cons is .nil) fun tree nodes built each => by
      rw [whole] at built ⊢
      exact further tree nodes (built.hidden hidden) each.flip
  rw [state]
  rwa [List.append_nil, separator] at run

end Targets

section Modules
open SourceAtlas.Python.Symbol Piece
variable {source : Source} {Goal : Syntax.Tree Memory → Prop} {bound next : Nat} {below : List (Rung Memory)}
  {rest : List Piece}

/-- What follows leading dots: the name of a module, or the word `import`. -/
def FollowsDots (symbol : Nat) (pieces : List Piece) : Prop :=
  symbol = import_ ∧ first pieces = "import" ∨
    symbol = identifier ∧ IsIdentifier (first pieces) ∧ first pieces ≠ "import"

theorem takes_behind_dots (follows : FollowsDots next rest) : ∀ state ∈ [2141, 2150],
    ∀ count, Takes state (first (List.replicate count ⟨0, "."⟩ ++ rest)) (if count = 0 then next else period) := by
  have rows : ∀ state ∈ [2141, 2150], (state, ".", period) ∈ pieceRows ∧ (state, "import", import_) ∈ pieceRows ∧
      (state, "import") ∈ nameRows := by decide
  intro state reader count
  obtain ⟨dot, word, name⟩ := rows state reader
  cases count with
  | succ => exact takes_piece dot
  | zero =>
    rcases follows with ⟨rfl, text⟩ | ⟨rfl, spelled, other⟩
    · exact text ▸ takes_piece word
    · exact takes_name name spelled other

theorem join_append (pieces others : List Piece) : join (pieces ++ others) = join pieces ++ join others :=
  List.flatMap_append

theorem join_dots (count : Nat) : join (List.replicate count ⟨0, "."⟩) = List.replicate count '.' := by
  induction count with
  | zero => rfl
  | succ count ih =>
    rw [List.replicate_succ, List.replicate_succ, ← ih]
    rfl

theorem run_dots {count more kind : Nat} {dots : Syntax.Tree Memory} (base : stateAbove below = 1862)
    (follows : FollowsDots next rest) (few : bound + 2 ≤ 100) (either : kind ∈ [period, morePeriods])
    (grown : Grown source kind [] dots) (stop : dots.facts.stop = dots.facts.start + count)
    (ahead : Ahead source dots.facts.start (List.replicate (count + more) '.' ++ join rest))
    (further : ∀ tree, Grown source importPrefix [nodeOf source tree] tree →
      writtenDots source (nodeOf source tree) = count + more → Facing source Goal bound (⟨tree, 2269⟩ :: below) next rest) :
    Facing source Goal (bound + 1) (⟨dots, 2141⟩ :: below) (if more = 0 then next else period)
      (List.replicate more ⟨0, "."⟩ ++ rest) := by
  have allowed (more : Nat) : (if more = 0 then next else period) ∈ [period, identifier, import_] := by
    cases more with
    | succ => simp
    | zero => rcases follows with ⟨rfl, -⟩ | ⟨rfl, -⟩ <;> decide
  induction more generalizing count kind dots with
  | zero =>
    have joins : ∀ kind ∈ [period, morePeriods], ∀ token ∈ [identifier, import_],
        (2141, token, importPrefix, [kind]) ∈ joinRows := by decide
    have last : next ∈ [identifier, import_] := by rcases follows with ⟨rfl, -⟩ | ⟨rfl, -⟩ <;> decide
    refine .reduce [⟨dots, 2141⟩] below [(kind, [])] (joins_row (joins kind either next last)) (.cons grown .nil)
      fun tree built start finish => ?_
    rw [base, goto_row (by decide : (1862, importPrefix, 2269) ∈ gotoRows)]
    refine further tree (built.shown (by decide : (_, "import_prefix") ∈ Automaton.kinds) (by decide)) ?_
    have same : tree.facts.start = dots.facts.start := start
    have last : tree.facts.stop = dots.facts.start + (List.replicate (count + 0) '.').length := by
      rw [List.length_replicate]
      exact finish.trans stop
    rw [writtenDots, text_nodeOf, same, last, ahead.slice, String.toList_ofList, List.count_replicate_self]
  | succ more ih =>
    have joins : ∀ kind ∈ [period, morePeriods], ∀ token ∈ [period, identifier, import_],
        (2150, token, morePeriods, [kind, period]) ∈ joinRows := by decide
    suffices shifted : Facing source Goal 1 (⟨dots, 2141⟩ :: below) period
      (⟨0, "."⟩ :: (List.replicate more ⟨0, "."⟩ ++ rest)) from shifted.mono (Nat.le_add_left 1 bound)
    refine .shift (shifts_row (by decide : (2141, period, 2150) ∈ shiftRows))
      (attends_name (by decide : (2150, "import") ∈ nameRows)) (takes_behind_dots follows 2150 (by decide) more) (by decide)
      few fun sign leaf => ?_
    have mark := leaf.built.filler (by decide : (_, ".") ∈ Automaton.kinds) (by decide)
    refine .reduce [⟨sign, 2150⟩, ⟨dots, 2141⟩] below [(kind, []), (period, [])]
      (joins_row (joins kind either _ (allowed more))) (.cons grown (.cons mark .nil)) fun tree built start finish => ?_
    rw [base, goto_row (by decide : (1862, morePeriods, 2141) ∈ gotoRows)]
    have same : tree.facts.start = dots.facts.start := start
    -- Both the dots so far and the one behind them are followed by the rest of the text.
    have place : sign.facts.stop = dots.facts.start + (count + 1) := by
      have one : ".".toList.length = 1 := rfl
      have behind := leaf.start.size
      have width := leaf.stop
      have whole := ahead.size
      simp only [first, List.tail_cons, join_append, join_dots, List.length_append, List.length_replicate, one] at *
      omega
    have reached : tree.facts.stop = tree.facts.start + (count + 1) := by
      rw [same, ← place]
      exact finish
    refine ih (by decide : morePeriods ∈ _) (built.hidden (Automaton.symbols_shown.2.1 _ (by decide))) reached ?_ ?_
    · rw [same, Nat.add_assoc, Nat.add_comm 1]
      exact ahead
    · intro lead grown written
      exact further lead grown (by omega)

def namePieces (blanks : Nat) : List String → List Piece
  | [] => []
  | name :: names => ⟨blanks, name⟩ :: furtherNames names

def modulePieces : (dots : Nat) → List String → List Piece
  | 0, names => namePieces 1 names
  | dots + 1, names => ⟨1, "."⟩ :: (List.replicate dots ⟨0, "."⟩ ++ namePieces 0 names)

def Locates (source : Source) (written : Nat) (names : List String) (tree : Syntax.Tree Memory) : Prop :=
  (∃ kind ∈ [dottedName, relativeImport], Grown source kind [nodeOf source tree] tree) ∧
    ∃ dots, IsModule source (nodeOf source tree) dots written names

theorem goes_module {tree : Syntax.Tree Memory} {kind : Nat} (either : kind ∈ [dottedName, relativeImport])
    (further : Facing source Goal bound (⟨tree, 2637⟩ :: below) next rest) (base : stateAbove below = 1862) :
    Facing source Goal bound (⟨tree, language.goto (stateAbove below) kind⟩ :: below) next rest := by
  have rows : ∀ kind ∈ [dottedName, relativeImport], (1862, kind, 2637) ∈ gotoRows := by decide
  rw [base, goto_row (rows kind either)]
  exact further

variable {names : List String} (spelled : ∀ name ∈ names, IsIdentifier name) (few : bound + 5 ≤ 100)
  (base : stateAbove below = 1862) (follows : first rest = "import")
include spelled few base follows

theorem run_absolute (nonempty : names ≠ []) (further : ∀ tree, Locates source 0 names tree →
      Facing source Goal bound (⟨tree, 2637⟩ :: below) import_ rest) :
    Facing source Goal 1 below identifier (namePieces 1 names ++ rest) := by
  obtain ⟨name, names, rfl⟩ := List.exists_cons_of_ne_nil nonempty
  have rows : ∀ state ∈ [1771, 1829], (state, "import", import_) ∈ pieceRows := by decide
  refine run_names (List.mem_cons_of_mem _ List.mem_cons_self : moduleNames ∈ _)
    (base ▸ shifts_row (by decide : (1862, identifier, 1771) ∈ shiftRows))
    (fun name member => spelled name (List.mem_cons_of_mem _ member))
    (fun state reader => follows ▸ takes_piece (rows state reader)) (by decide) (show bound + 3 ≤ 100 by omega)
    fun tree grown isName => ?_
  exact goes_module (by simp) (further tree ⟨⟨dottedName, by simp, grown⟩, 0, .absolute isName⟩) base

theorem run_behind_dots {written : Nat} {lead : Syntax.Tree Memory}
    (grown : Grown source importPrefix [nodeOf source lead] lead)
    (counted : writtenDots source (nodeOf source lead) = written)
    (further : ∀ tree, Locates source written names tree → Facing source Goal bound (⟨tree, 2637⟩ :: below) import_ rest) :
    Facing source Goal (bound + 1) (⟨lead, 2269⟩ :: below) (if names.isEmpty then import_ else identifier)
      (namePieces 0 names ++ rest) := by
  have leading : (nodeOf source lead).kind = "import_prefix" := kind_nodeOf grown.label (by decide)
  cases names with
  | nil =>
    refine .reduce [⟨lead, 2269⟩] below [(importPrefix, [nodeOf source lead])]
      (joins_row (by decide : (2269, import_, relativeImport, [importPrefix]) ∈ joinRows)) (.cons grown .nil)
      fun tree built _ _ => goes_module (by decide : relativeImport ∈ _) (further tree ⟨⟨relativeImport, by decide, ?_⟩, ?_⟩) base
    · exact built.shown (by decide : (_, "relative_import") ∈ Automaton.kinds) (by decide)
    · exact ⟨_, .bare (kind_nodeOf built.label (by decide)) built.partsOf_nodeOf leading rfl counted⟩
  | cons name names =>
    have rows : ∀ state ∈ [1771, 1829], (state, "import", import_) ∈ pieceRows := by decide
    suffices run : Facing source Goal 1 (⟨lead, 2269⟩ :: below) identifier (⟨0, name⟩ :: (furtherNames names ++ rest)) from
      run.mono (Nat.le_add_left 1 bound)
    refine run_names (List.mem_cons_of_mem _ List.mem_cons_self : moduleNames ∈ _)
      (shifts_row (by decide : (2269, identifier, 1771) ∈ shiftRows))
      (fun name member => spelled name (List.mem_cons_of_mem _ member))
      (fun state reader => follows ▸ takes_piece (rows state reader)) (by decide) (show bound + 1 + 3 ≤ 100 by omega)
      fun dotted named isName => ?_
    rw [stateAbove, goto_row (by decide : (2269, dottedName, 2655) ∈ gotoRows)]
    refine .reduce [⟨dotted, 2655⟩, ⟨lead, 2269⟩] below
      [(importPrefix, [nodeOf source lead]), (dottedName, [nodeOf source dotted])]
      (joins_row (by decide : (2655, import_, relativeImport, [importPrefix, dottedName]) ∈ joinRows))
      (.cons grown (.cons named .nil)) fun tree built _ _ =>
        goes_module (by decide : relativeImport ∈ _) (further tree ⟨⟨relativeImport, by decide, ?_⟩, ?_⟩) base
    · exact built.shown (by decide : (_, "relative_import") ∈ Automaton.kinds) (by decide)
    · exact ⟨_, .relative (kind_nodeOf built.label (by decide)) built.partsOf_nodeOf leading rfl counted isName⟩

theorem run_relative {dots : Nat} (plain : names.head? ≠ some "import")
    (further : ∀ tree, Locates source (dots + 1) names tree →
      Facing source Goal bound (⟨tree, 2637⟩ :: below) import_ rest) :
    Facing source Goal 1 below period (modulePieces (dots + 1) names ++ rest) := by
  have behind : FollowsDots (if names.isEmpty then import_ else identifier) (namePieces 0 names ++ rest) := by
    cases names with
    | nil => exact .inl ⟨rfl, follows⟩
    | cons name names => exact .inr ⟨rfl, spelled name List.mem_cons_self, fun same => plain (congrArg some same)⟩
  have pieces : modulePieces (dots + 1) names ++ rest =
      ⟨1, "."⟩ :: (List.replicate dots ⟨0, "."⟩ ++ (namePieces 0 names ++ rest)) := by simp [modulePieces]
  rw [pieces]
  refine .shift (base ▸ shifts_row (by decide : (1862, period, 2141) ∈ shiftRows))
    (attends_name (by decide : (2141, "import") ∈ nameRows)) (takes_behind_dots behind 2141 (by decide) dots) (by decide)
    (show bound + 1 + 1 ≤ 100 by omega) fun sign leaf => ?_
  have dot : ".".toList = ['.'] := rfl
  have width := leaf.stop
  have ahead := leaf.start
  rw [first, dot, List.length_singleton] at width
  rw [first, dot, List.tail_cons, join_append, join_dots] at ahead
  refine run_dots base behind (by omega) (by decide : period ∈ _)
    (leaf.built.filler (by decide : (_, ".") ∈ Automaton.kinds) (by decide)) width ?_ fun lead grown written => ?_
  · rw [Nat.add_comm, List.replicate_succ]
    exact ahead
  · rw [Nat.add_comm] at written
    exact run_behind_dots spelled few base follows grown written further

end Modules

end SourceAtlas.Python
