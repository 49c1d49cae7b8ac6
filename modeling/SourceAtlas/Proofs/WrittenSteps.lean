import SourceAtlas.Proofs.ImportNodes
import SourceAtlas.Proofs.LoneReading
import SourceAtlas.Proofs.WordReading

/-! The moves of the parser over a text that is made of words and signs, with no choice left open: a word or a sign is
looked at, trees below it are joined, and it goes on the stack itself. Lists, which the automaton reads in the same way
whatever they consist of, are dealt with once. -/
namespace SourceAtlas.Python
open SourceAtlas.Syntax
open Lexis (IsIdentifier)
open Parser Rung

section Trees
open SourceAtlas.Syntax.Tree
variable {source : Source} {symbol : Nat} {nodes : List Node} {tree : Syntax.Tree Memory}

def listedKinds : List String :=
  ["class_definition", "function_definition", "import_statement", "import_from_statement", "future_import_statement"] ++
    obsoleteStatements

def Calm (node : Node) : Prop :=
  node.Throughout (·.kind ∉ listedKinds)

structure Proper (symbol : Nat) (tree : Syntax.Tree Memory) : Prop where
  label : tree.label = .symbol symbol
  plain : tree.extra = false
  free : tree.cost = 0

structure Built (source : Source) (symbol : Nat) (nodes : List Node) (tree : Syntax.Tree Memory) : Prop
    extends Proper symbol tree where
  content : saying (allNodesIn language source tree.facts.aliases tree.children) = nodes
  calm : ∀ node ∈ allNodesIn language source tree.facts.aliases tree.children, Calm node

structure Grown (source : Source) (symbol : Nat) (nodes : List Node) (tree : Syntax.Tree Memory) : Prop
    extends Proper symbol tree where
  told : told source tree = nodes
  calm : ∀ node ∈ Tree.nodesIn language source none tree, Calm node

namespace Built
variable (built : Built source symbol nodes tree)
include built

theorem hidden (hidden : (language.appearance symbol).visible = false) : Grown source symbol nodes tree where
  toProper := built.toProper
  told := (told_hidden built.label hidden).trans built.content
  calm := by
    rw [nodesIn_hidden (by rwa [Option.getD_none, appearance_eq built.label])]
    exact built.calm

theorem partsOf_nodeOf : partsOf (nodeOf source tree) = nodes := by
  rw [← built.content, nodeOf, partsOf, children_shownAs]
  rfl

theorem calm_nodeOf {kind : String} (known : (symbol, kind) ∈ Automaton.kinds) (other : kind ∉ listedKinds) :
    ∀ node ∈ Tree.nodesIn language source none tree, Calm node := by
  rw [nodesIn_known built.label known]
  intro node member
  obtain rfl := List.mem_singleton.mp member
  refine .mk ?_ fun child inside => built.calm child (children_shownAs .. ▸ inside)
  rwa [kind_nodeOf built.label known]

theorem shown {kind : String} (known : (symbol, kind) ∈ Automaton.kinds)
    (other : kind ∉ fillerKinds ∧ kind ∉ listedKinds) : Grown source symbol [nodeOf source tree] tree :=
  ⟨built.toProper, told_known built.label known other.1, built.calm_nodeOf known other.2⟩

theorem filler {kind : String} (known : (symbol, kind) ∈ Automaton.kinds)
    (filler : kind ∈ fillerKinds ∧ kind ∉ listedKinds) : Grown source symbol [] tree :=
  ⟨built.toProper, told_filler built.label known filler.1, built.calm_nodeOf known filler.2⟩

end Built

theorem allNodesIn_nil (trees : List (Syntax.Tree Memory)) :
    allNodesIn language source [] trees = trees.flatMap fun tree => Tree.nodesIn language source none tree := by
  induction trees with
  | nil => rfl
  | cons tree trees ih =>
    rw [List.flatMap_cons, ← ih]
    cases extra : tree.extra with
    | true => exact allNodesIn_extra extra
    | false => exact allNodesIn_part extra

theorem parts_joined {parts : List (Nat × List Node)} {trees : List (Syntax.Tree Memory)}
    (each : parts.Forall₂ (fun part tree => Grown source part.1 part.2 tree) trees) :
    saying (allNodesIn language source [] trees) = parts.flatMap Prod.snd ∧
      (∀ node ∈ allNodesIn language source [] trees, Calm node) ∧ (parts.map Prod.fst).Forall₂ Proper trees := by
  rw [allNodesIn_nil]
  induction each with
  | nil => exact ⟨rfl, nofun, .nil⟩
  | @cons part tree parts trees here _ ih =>
    obtain ⟨said, calm, proper⟩ := ih
    rw [List.flatMap_cons, List.flatMap_cons, saying_append, said, ← here.told]
    exact ⟨rfl, fun node member => (List.mem_append.mp member).elim (here.calm node) (calm node),
      .cons here.toProper proper⟩

end Trees

section Tables
open Automaton

def shiftsTo (target : Nat) : List Action → Bool
  | [.shift next false] => next == target
  | _ => false

/-- The only thing to do is to join some parts to a tree for a symbol, a list that is being built aside. -/
def joinsTo (symbol : Nat) (parts : List Nat) : List Action → Bool
  | .reduce rule :: more =>
    tokenCount ≤ symbol && rule.symbol == symbol && rule.aliases.isEmpty && rule.parts.length == parts.length &&
      (rule.parts.zip parts).all (fun part => part.1.testBit part.2) &&
      more.all fun action => match action with
        | .shift _ true => true
        | _ => false
  | _ => false

theorem eq_of_shiftsTo {target : Nat} {actions : List Action} (shifts : shiftsTo target actions = true) :
    actions = [.shift target false] := by
  unfold shiftsTo at shifts
  split at shifts
  · rw [beq_iff_eq.mp shifts]
  · cases shifts

theorem eq_of_joinsTo {symbol : Nat} {parts : List Nat} {actions : List Action}
    (joins : joinsTo symbol parts actions = true) : ∃ rule more, actions = .reduce rule :: more ∧
      (∀ action ∈ more, ∃ target, action = .shift target true) ∧ tokenCount ≤ symbol ∧ rule.symbol = symbol ∧
      rule.aliases = [] ∧ rule.parts.Forall₂ (fun part symbol => part.testBit symbol = true) parts := by
  unfold joinsTo at joins
  split at joins
  · next rule more =>
    simp only [Bool.and_eq_true, decide_eq_true_eq, beq_iff_eq, List.isEmpty_iff, List.all_eq_true] at joins
    obtain ⟨⟨⟨⟨⟨large, same⟩, names⟩, length⟩, parts⟩, repeating⟩ := joins
    refine ⟨rule, more, rfl, fun action member => ?_, large, same, names, ?_⟩
    · have only := repeating action member
      split at only
      · exact ⟨_, rfl⟩
      · cases only
    · exact List.forall₂_iff_zip.mpr ⟨length, fun member => parts _ member⟩
  · cases joins

theorem fits_of_labels {masks symbols : List Nat} {trees : List (Syntax.Tree Memory)}
    (allowed : masks.Forall₂ (fun part symbol => part.testBit symbol = true) symbols)
    (each : symbols.Forall₂ Proper trees) : Tree.fits masks trees = true ∧ ∀ tree ∈ trees, tree.extra = false ∧ tree.cost = 0 := by
  induction each generalizing masks with
  | nil =>
    cases allowed
    exact ⟨rfl, nofun⟩
  | @cons symbol tree symbols trees here _ ih =>
    cases allowed with
    | cons first rest =>
      exact ⟨(Tree.fits_cons_part here.plain).mpr ⟨_, _, symbol, rfl, here.label, first, (ih rest).1⟩,
        List.forall_mem_cons.mpr ⟨⟨here.plain, here.free⟩, (ih rest).2⟩⟩

end Tables

section Pieces
open Lexis

/-- A word or a sign with the blanks in front of it. -/
structure Piece where
  blanks : Nat
  text : String

namespace Piece

def chars (piece : Piece) : List Char :=
  List.replicate piece.blanks ' ' ++ piece.text.toList

/-- The text of the first piece; where there is none, a line ends. -/
def first : List Piece → String
  | [] => ""
  | piece :: _ => piece.text

def join (pieces : List Piece) : List Char :=
  pieces.flatMap chars

def Apart : List Piece → Prop
  | [] => True
  | piece :: pieces => piece.text ≠ "" ∧
    (IsIdentifier piece.text → ∀ c ∈ (join pieces).head?, isIdentifierContinue c = false) ∧ Apart pieces

end Piece

open Piece

def wordFor (language : Syntax.Language Memory) (state : Nat) (text : String) : Nat :=
  match keywords.lookup text with
  | some keyword => if language.accepts state keyword then keyword else Symbol.identifier
  | none => Symbol.identifier

def signModes : List (Nat × Char × Nat) :=
  [(7, '.', Symbol.period), (10, '.', Symbol.period), (7, ',', Symbol.comma), (1, ',', Symbol.comma),
   (1, '*', Symbol.star)]

/-- What a state takes the first piece of a text for. -/
inductive Takes (state : Nat) : String → Nat → Prop
  | word {text : String} {symbol : Nat} (spelled : IsIdentifier text) (same : wordFor language state text = symbol) :
      Takes state text symbol
  | sign {text : String} {c : Char} {mode symbol : Nat} (chars : text.toList = [c]) (here : language.mode state = mode)
      (listed : (mode, c, symbol) ∈ signModes) : Takes state text symbol
  | newline (expected : language.expected state = 9) : Takes state "" Symbol.newline

/-- A state in which words are looked for, and nothing that is special inside of strings or blocks. -/
def attends (language : Syntax.Language Memory) (state : Nat) : Bool :=
  state != 0 && [9, 14].contains (language.expected state) && [1, 7, 10].contains (language.mode state)

structure Taken (source : Source) (symbol place : Nat) (pieces : List Piece) (token : Syntax.Tree Memory) : Prop where
  label : token.label = .symbol symbol
  free : token.cost = 0
  leaf : token.children = []
  start : Ahead source token.facts.start ((first pieces).toList ++ join pieces.tail)
  stop : token.facts.stop = token.facts.start + (first pieces).toList.length
  moves : place < token.facts.stop ∨ place = token.facts.stop ∧ token.facts.memory.isSome = true
  silent : symbol ≠ Symbol.newline → token.facts.memory = none
  memory : ∀ memory ∈ token.facts.memory, memory = Layout.emptyMemory
  apart : Apart pieces

variable {source : Source} {state place symbol : Nat} {pieces : List Piece}

theorem plainToken_view (source : Source) (place state : Nat) (lexeme : Lexeme) :
    (plainToken ⟨language, source⟩ 0 place state lexeme).cost = 0 ∧
    (plainToken ⟨language, source⟩ 0 place state lexeme).children = [] ∧
    (plainToken ⟨language, source⟩ 0 place state lexeme).facts.start = lexeme.start ∧
    (plainToken ⟨language, source⟩ 0 place state lexeme).facts.stop = lexeme.stop ∧
    (plainToken ⟨language, source⟩ 0 place state lexeme).facts.memory = none := by
  unfold plainToken
  dsimp only
  split
  · split <;> exact ⟨rfl, rfl, rfl, rfl, rfl⟩
  · exact ⟨rfl, rfl, rfl, rfl, rfl⟩

section Found
variable {text : String} {blanks id : Nat} {c : Char} {rest : List Char} (mode : language.mode state ∈ [1, 7, 10])
  (silent : language.scan (language.expected state) source place none = none)
  (chars : text.toList = c :: rest) (solid : isSolid c = true) (ahead : Ahead source place (join (⟨blanks, text⟩ :: pieces)))
  (apart : Apart (⟨blanks, text⟩ :: pieces))
include mode silent chars solid ahead apart

theorem taken_plain (found : tokenAt source (modes.getD (language.mode state) 0) (place + blanks) =
      some ⟨id, place + blanks, place + blanks + text.toList.length⟩)
    (label : (plainToken ⟨language, source⟩ 0 place state
      ⟨id, place + blanks, place + blanks + text.toList.length⟩).label = .symbol symbol) :
    ∃ token, Reads ⟨language, source⟩ state place none token ∧
      Taken source symbol place (⟨blanks, text⟩ :: pieces) token := by
  have there : Ahead source place (List.replicate blanks ' ' ++ (text.toList ++ join pieces)) := by
    rw [← List.append_assoc]
    exact ahead
  have visible : Ahead source place (List.replicate blanks ' ' ++ c :: (rest ++ join pieces)) := by rwa [chars] at there
  have known : ∀ set ∈ [1, 7, 10], (modes.getD set 0).testBit Symbol.formatText = false := by decide
  obtain ⟨cost, children, start, stop, memory⟩ := plainToken_view source place state
    ⟨id, place + blanks, place + blanks + text.toList.length⟩
  refine ⟨_, .plain silent (read_blanks (known _ mode) visible solid found), label, cost, children, ?_,
    by rw [stop, start]; rfl, .inl ?_, fun _ => memory, by rw [memory]; nofun, apart⟩
  · have skipped := there.skip
    rw [List.length_replicate] at skipped
    rw [start]
    exact skipped
  · rw [stop, chars]
    dsimp only [List.length_cons]
    omega

end Found

theorem solid_of_start {c : Char} (start : isIdentifierStart c = true) : isSolid c = true := by
  by_contra hollow
  rw [Bool.not_eq_true] at hollow
  have listed : c ∈ otherStarts := by
    simp only [isSolid, isSeparator, Bool.and_eq_false_iff, Bool.not_eq_false', Bool.or_eq_true, beq_iff_eq,
      bne_eq_false_iff_eq] at hollow
    rcases hollow with ((((((((rfl | rfl) | rfl) | rfl) | rfl) | rfl) | rfl) | rfl) | rfl) | rfl <;> decide
  rw [not_start listed] at start
  cases start

theorem skip_blanks {text : String} {blanks : Nat} (ahead : Ahead source place (join (⟨blanks, text⟩ :: pieces))) :
    Ahead source (place + blanks) (text.toList ++ join pieces) := by
  have there : Ahead source place (List.replicate blanks ' ' ++ (text.toList ++ join pieces)) := by
    rw [← List.append_assoc]
    exact ahead
  have skipped := there.skip
  rwa [List.length_replicate] at skipped

theorem exists_word {text : String} {blanks : Nat} (spelled : IsIdentifier text) (mode : language.mode state ∈ [1, 7, 10])
    (silent : language.scan (language.expected state) source place none = none)
    (ahead : Ahead source place (join (⟨blanks, text⟩ :: pieces))) (apart : Apart (⟨blanks, text⟩ :: pieces)) :
    ∃ token, Reads ⟨language, source⟩ state place none token ∧
      Taken source (wordFor language state text) place (⟨blanks, text⟩ :: pieces) token := by
  have skipped := skip_blanks ahead
  have hard : ∀ set ∈ [1, 7, 10], (modes.getD set 0).testBit Symbol.exceptStar = false ∧
      (modes.getD set 0).testBit Symbol.except = false := by decide
  have found := tokenAt_word spelled skipped (apart.2.1 spelled) (hard _ mode)
  obtain ⟨first, tail, chars, start, -⟩ := spelled
  refine taken_plain mode silent chars (solid_of_start start) ahead apart found ?_
  have known : language.keyword source (place + blanks) (place + blanks + text.toList.length) = keywords.lookup text := by
    change keywords.lookup (source.slice _ _) = _
    rw [skipped.slice, String.ofList_toList]
  have isWord : (Symbol.identifier == language.word) = true := rfl
  unfold plainToken wordFor
  dsimp only
  rw [if_pos isWord, known]
  cases keywords.lookup text <;> rfl

theorem signModes_known : ∀ entry ∈ signModes, entry.1 ∈ [1, 7, 10] ∧ entry.2.1 ∈ signs ∧ isSolid entry.2.1 = true ∧
    lonely (modes.getD entry.1 0) entry.2.1 entry.2.2 = true ∧
    ((modes.getD entry.1 0).testBit Symbol.float = false ∨ entry.2.1 ≠ '.') ∧ entry.2.2 ≠ Symbol.identifier := by
  decide

theorem exists_sign {text : String} {blanks mode : Nat} {c : Char} (chars : text.toList = [c])
    (here : language.mode state = mode) (listed : (mode, c, symbol) ∈ signModes)
    (silent : language.scan (language.expected state) source place none = none)
    (ahead : Ahead source place (join (⟨blanks, text⟩ :: pieces))) (apart : Apart (⟨blanks, text⟩ :: pieces)) :
    ∃ token, Reads ⟨language, source⟩ state place none token ∧
      Taken source symbol place (⟨blanks, text⟩ :: pieces) token := by
  obtain ⟨known, sign, solid, only, whole, other⟩ := signModes_known _ listed
  dsimp only at known
  rw [← here] at known
  have found : tokenAt source (modes.getD (language.mode state) 0) (place + blanks) =
      some ⟨symbol, place + blanks, place + blanks + text.toList.length⟩ := by
    rw [here, chars]
    exact tokenAt_sign sign (chars ▸ skip_blanks ahead) only whole
  refine taken_plain known silent chars solid ahead apart found ?_
  have noWord : (symbol == language.word) = false := beq_eq_false_iff_ne.mpr other
  unfold plainToken
  dsimp only
  rw [noWord]
  rfl

theorem exists_newline (expected : language.expected state = 9) (ahead : Ahead source place []) :
    ∃ token, Reads ⟨language, source⟩ state place none token ∧ Taken source Symbol.newline place [] token := by
  have found : language.scan (language.expected state) source place none =
      some ⟨⟨Symbol.newline, place, place⟩, Layout.emptyMemory⟩ := by
    rw [expected]
    exact Layout.scan_newline ahead
  exact ⟨_, .scanned found, rfl, rfl, rfl, ahead, rfl, .inr ⟨rfl, rfl⟩, fun other => absurd rfl other,
    fun _ same => (Option.some.inj same).symm, trivial⟩

theorem silent_of_attends {blanks : Nat} {c : Char} {rest : List Char} (attentive : attends language state = true)
    (solid : isSolid c = true) (ahead : Ahead source place (List.replicate blanks ' ' ++ c :: rest)) :
    language.scan (language.expected state) source place none = none := by
  simp only [attends, Bool.and_eq_true, List.contains_iff_mem] at attentive
  have wider : [9, 14] ⊆ [2, 9, 14] := by decide
  refine Layout.scan_blanks (wider attentive.1.2) solid ahead fun string => ?_
  rw [string] at attentive
  exact absurd attentive.1.2 (by decide)

theorem exists_taken (attentive : attends language state = true) (apart : Apart pieces)
    (ahead : Ahead source place (join pieces)) (takes : Takes state (first pieces) symbol) :
    ∃ token, Reads ⟨language, source⟩ state place none token ∧ Taken source symbol place pieces token := by
  have mode : language.mode state ∈ [1, 7, 10] := by
    simp only [attends, Bool.and_eq_true, List.contains_iff_mem] at attentive
    exact attentive.2
  have silent {blanks : Nat} {text : String} {c : Char} {rest : List Char} {pieces : List Piece}
      (chars : text.toList = c :: rest) (solid : isSolid c = true)
      (ahead : Ahead source place (join (⟨blanks, text⟩ :: pieces))) :
      language.scan (language.expected state) source place none = none := by
    refine silent_of_attends attentive solid (?_ : Ahead source place (List.replicate blanks ' ' ++ c :: (rest ++ join pieces)))
    rw [← List.cons_append, ← chars, ← List.append_assoc]
    exact ahead
  generalize known : first pieces = text at takes
  cases pieces with
  | nil =>
    subst known
    cases takes with
    | word spelled =>
      obtain ⟨first, rest, chars, -⟩ := spelled
      cases chars
    | sign chars => cases chars
    | newline expected => exact exists_newline expected ahead
  | cons piece pieces =>
    obtain ⟨blanks, other⟩ := piece
    obtain rfl : other = text := known
    cases takes with
    | word spelled same =>
      obtain ⟨first, rest, chars, start, -⟩ := id spelled
      exact same ▸ exists_word spelled mode (silent chars (solid_of_start start) ahead) ahead apart
    | sign chars here listed =>
      exact exists_sign chars here listed (silent chars (signModes_known _ listed).2.2.1 ahead) ahead apart
    | newline => exact absurd rfl apart.1

end Pieces

section Steps
open Piece
variable {source : Source} {Goal : Syntax.Tree Memory → Prop} {bound symbol : Nat} {rungs : List (Rung Memory)}
  {pieces : List Piece} {tree : Syntax.Tree Memory}

variable (source Goal) in
/-- With the first piece of a text looked at, and taken for a symbol, the text is read to its end. The bound is on the
number of moves that are made before the next piece is looked at. -/
def Facing (bound : Nat) (rungs : List (Rung Memory)) (symbol : Nat) (pieces : List Piece) : Prop :=
  ∀ token, Taken source symbol (placeAbove rungs) pieces token →
    ∃ count ≤ bound, Completes ⟨language, source⟩ Goal rungs none (some (count, token))

theorem Facing.mono {larger : Nat} (facing : Facing source Goal bound rungs symbol pieces) (le : bound ≤ larger) :
    Facing source Goal larger rungs symbol pieces := by
  intro token taken
  obtain ⟨count, few, completes⟩ := facing token taken
  exact ⟨count, Nat.le_trans few le, completes⟩

theorem actionsFor_label {token : Syntax.Tree Memory} (label : token.label = .symbol symbol) (state : Nat) :
    actionsFor language state token = language.actions state symbol := by
  rw [actionsFor, Tree.token?, label]

theorem completes_reduce (top rest : List (Rung Memory)) {symbols : List Nat} {whole : Nat} {memory : Option Memory}
    {token : Syntax.Tree Memory} (label : token.label = .symbol symbol)
    (joins : joinsTo whole symbols (language.actions (stateAbove (top ++ rest)) symbol) = true)
    (each : symbols.Forall₂ Proper (trees top))
    (further : ∀ tree, Proper whole tree → tree.facts.aliases = [] → tree.children = trees top →
      tree.facts.start = ((trees top).head?.map (·.facts.start)).getD (placeAbove rest) →
      tree.facts.stop = placeAbove (top ++ rest) → ∃ count ≤ bound, Completes ⟨language, source⟩ Goal
        (⟨tree, language.goto (stateAbove rest) whole⟩ :: rest) memory (some (count, token))) :
    ∃ count ≤ bound + 1, Completes ⟨language, source⟩ Goal (top ++ rest) memory (some (count, token)) := by
  obtain ⟨rule, more, listed, alone, large, rfl, names, allowed⟩ := eq_of_joinsTo joins
  obtain ⟨fits, sound⟩ := fits_of_labels allowed each
  let tree := builtTree ⟨language, source⟩ rule (trees top) (placeAbove rest)
  have named : (ruleTree ⟨language, source⟩ rule (trees top) (placeAbove rest)).label = _ := Tree.label_ofChildren
  have plain : (ruleTree ⟨language, source⟩ rule (trees top) (placeAbove rest)).extra = _ := Tree.extra_ofChildren
  have start : (ruleTree ⟨language, source⟩ rule (trees top) (placeAbove rest)).facts.start = _ := Tree.start_ofChildren
  have kept : (ruleTree ⟨language, source⟩ rule (trees top) (placeAbove rest)).facts.aliases = _ :=
    Tree.aliases_ofChildren
  have proper : Proper rule.symbol tree := ⟨named, plain, cost_builtTree fun child member => (sound child member).2⟩
  have next : language.next (stateAbove rest) rule.symbol = language.goto (stateAbove rest) rule.symbol :=
    if_neg (Nat.not_lt.mpr large)
  obtain ⟨count, few, completes⟩ := further tree proper (kept.trans names) rfl start stop_builtTree
  rw [← next] at completes
  refine ⟨count + 1, Nat.succ_le_succ few, .reduce top rest ((actionsFor_label label _).trans listed) alone ?_ ?_
    fits completes⟩
  · rw [allowed.length_eq, each.length_eq, trees, List.length_reverse, List.length_map]
  · exact fun rung member => sound _ (mem_trees.mpr ⟨rung, member, rfl⟩)

theorem Facing.reduce (top rest : List (Rung Memory)) (parts : List (Nat × List Node)) {whole : Nat}
    (joins : joinsTo whole (parts.map Prod.fst) (language.actions (stateAbove (top ++ rest)) symbol) = true)
    (each : parts.Forall₂ (fun part tree => Grown source part.1 part.2 tree) (trees top))
    (further : ∀ tree, Built source whole (parts.flatMap Prod.snd) tree →
      tree.facts.start = ((trees top).head?.map (·.facts.start)).getD (placeAbove rest) →
      tree.facts.stop = placeAbove (top ++ rest) →
      Facing source Goal bound (⟨tree, language.goto (stateAbove rest) whole⟩ :: rest) symbol pieces) :
    Facing source Goal (bound + 1) (top ++ rest) symbol pieces := by
  intro token taken
  obtain ⟨said, calm, proper⟩ := parts_joined each
  refine completes_reduce top rest taken.label joins proper fun tree whole aliases children start stop =>
    further tree ⟨whole, ?_, ?_⟩ start stop token ?_
  · rw [aliases, children]
    exact said
  · rw [aliases, children]
    exact calm
  · rw [placeAbove, stop]
    exact taken

/-- A token on the stack that was the first piece of a text. -/
structure Leaf (source : Source) (symbol : Nat) (pieces : List Piece) (tree : Syntax.Tree Memory) : Prop where
  built : Built source symbol [] tree
  start : Ahead source tree.facts.start ((first pieces).toList ++ join pieces.tail)
  stop : tree.facts.stop = tree.facts.start + (first pieces).toList.length

theorem Leaf.text (leaf : Leaf source symbol pieces tree) : (nodeOf source tree).text source = first pieces := by
  rw [text_nodeOf, leaf.stop, leaf.start.slice, String.ofList_toList]

theorem Taken.leaf_withExtra {place : Nat} {token : Syntax.Tree Memory} (taken : Taken source symbol place pieces token) :
    Leaf source symbol pieces (token.withExtra false) := by
  obtain ⟨facts, children⟩ := token
  obtain rfl : children = [] := taken.leaf
  exact ⟨⟨⟨taken.label, rfl, taken.free⟩, rfl, nofun⟩, taken.start, taken.stop⟩

theorem Facing.shift {target next : Nat} {piece : Piece}
    (shifts : shiftsTo target (language.actions (stateAbove rungs) symbol) = true)
    (attentive : attends language target = true) (takes : Takes target (first pieces) next)
    (other : symbol ≠ Symbol.newline) (few : bound ≤ 100)
    (further : ∀ tree, Leaf source symbol (piece :: pieces) tree →
      Facing source Goal bound (⟨tree, target⟩ :: rungs) next pieces) :
    Facing source Goal 1 rungs symbol (piece :: pieces) := by
  intro token taken
  have leaf := taken.leaf_withExtra
  have ahead : Ahead source (placeAbove (⟨token.withExtra false, target⟩ :: rungs)) (join pieces) := by
    rw [placeAbove, leaf.stop]
    exact leaf.start.skip
  have apart : Apart pieces := taken.apart.2.2
  obtain ⟨read, reads, later⟩ := exists_taken attentive apart ahead takes
  obtain ⟨count, small, completes⟩ := further _ leaf read later
  have alive : target ≠ 0 := by
    simp only [attends, Bool.and_eq_true, bne_iff_ne] at attentive
    exact attentive.1.1
  have inside : token.facts.stop ≤ source.size := by
    rw [taken.stop, taken.start.size, List.length_append]
    omega
  refine ⟨1, Nat.le_refl 1, .shift ((actionsFor_label taken.label _).trans (eq_of_shiftsTo shifts)) taken.free inside ?_ ?_⟩
  · exact taken.moves.imp_right fun still => ⟨still.1, rfl, still.2⟩
  · rw [taken.silent other]
    exact .read (Nat.le_trans small few) alive reads completes

end Steps

section Lists
open Piece

/-- The states of the automaton around a list: above its first item, above a separator behind that or behind others,
above a later item, and above what is left of the list, once and when it is added to. -/
structure Sequence where
  items : List Nat
  separator : Nat
  more : Nat
  whole : Nat
  follow : List Nat
  first : Nat
  opened : Nat
  reopened : Nat
  later : List Nat
  once : Nat
  twice : Nat

namespace Sequence
variable {source : Source} {Goal : Syntax.Tree Memory → Prop} {bound symbol : Nat} {rungs below : List (Rung Memory)}
  {pieces : List Piece} {nodes : List Node} {seq : Sequence}

structure Regular (seq : Sequence) : Prop where
  visible : (language.appearance seq.more).visible = false
  opens : shiftsTo seq.opened (language.actions seq.first seq.separator) = true
  reopens : shiftsTo seq.reopened (language.actions seq.once seq.separator) = true
  adds : ∀ state ∈ seq.later, ∀ token ∈ seq.separator :: seq.follow, ∀ item ∈ seq.items,
    joinsTo seq.more [seq.separator, item] (language.actions state token) = true
  merges : ∀ token ∈ seq.separator :: seq.follow,
    joinsTo seq.more [seq.more, seq.more] (language.actions seq.twice token) = true
  closes : ∀ token ∈ seq.follow, ∀ item ∈ seq.items, joinsTo seq.whole [item] (language.actions seq.first token) = true ∧
    joinsTo seq.whole [item, seq.more] (language.actions seq.once token) = true
  gotos : language.goto seq.first seq.more = seq.once ∧ language.goto seq.once seq.more = seq.twice

/-- The stack above some other trees after one or several items of a list. -/
inductive Between (source : Source) (seq : Sequence) (below : List (Rung Memory)) :
    List Node → List (Rung Memory) → Prop
  | single {item : Nat} {node : Node} {tree : Syntax.Tree Memory} (listed : item ∈ seq.items)
      (grown : Grown source item [node] tree) : Between source seq below [node] (⟨tree, seq.first⟩ :: below)
  | several {item : Nat} {node : Node} {nodes : List Node} {tree rest : Syntax.Tree Memory} (listed : item ∈ seq.items)
      (grown : Grown source item [node] tree) (others : Grown source seq.more nodes rest) :
      Between source seq below (node :: nodes) (⟨rest, seq.once⟩ :: ⟨tree, seq.first⟩ :: below)

theorem Between.finish (between : Between source seq below nodes rungs) (regular : seq.Regular)
    (follows : symbol ∈ seq.follow) (further : ∀ tree, Built source seq.whole nodes tree →
      Facing source Goal bound (⟨tree, language.goto (stateAbove below) seq.whole⟩ :: below) symbol pieces) :
    Facing source Goal (bound + 1) rungs symbol pieces := by
  cases between with
  | @single item node tree listed grown =>
    exact .reduce [⟨tree, seq.first⟩] below [(item, [node])] (regular.closes _ follows _ listed).1
      (.cons grown .nil) fun whole built _ _ => further whole built
  | @several item node nodes tree rest listed grown others =>
    refine .reduce [⟨rest, seq.once⟩, ⟨tree, seq.first⟩] below [(item, [node]), (seq.more, nodes)]
      (regular.closes _ follows _ listed).2 (.cons grown (.cons others .nil)) fun whole built _ _ => further whole ?_
    simpa using built

theorem Between.add (between : Between source seq below nodes rungs) (regular : seq.Regular)
    {item state opened : Nat} {node : Node} {mark tree : Syntax.Tree Memory}
    (separates : Grown source seq.separator [] mark) (listed : item ∈ seq.items)
    (grown : Grown source item [node] tree) (later : state ∈ seq.later) (follows : symbol ∈ seq.separator :: seq.follow)
    (further : ∀ rungs, Between source seq below (nodes ++ [node]) rungs → Facing source Goal bound rungs symbol pieces) :
    Facing source Goal (bound + 2) (⟨tree, state⟩ :: ⟨mark, opened⟩ :: rungs) symbol pieces := by
  refine .reduce [⟨tree, state⟩, ⟨mark, opened⟩] rungs [(seq.separator, []), (item, [node])]
    (regular.adds _ later _ follows _ listed) (.cons separates (.cons grown .nil)) fun rest built _ _ => ?_
  have others : Grown source seq.more [node] rest :=
    (by simpa using built : Built source seq.more [node] rest).hidden regular.visible
  cases between with
  | single first known =>
    rw [stateAbove, regular.gotos.1]
    exact (further _ (.several first known others)).mono (Nat.le_succ _)
  | @several _ _ nodes first former known grown before =>
    rw [stateAbove, regular.gotos.2]
    refine .reduce [⟨rest, seq.twice⟩, ⟨former, seq.once⟩] (⟨first, seq.first⟩ :: below)
      [(seq.more, nodes), (seq.more, [node])] (regular.merges _ follows) (.cons before (.cons others .nil))
      fun merged built _ _ => ?_
    rw [stateAbove, regular.gotos.1]
    have joined : Grown source seq.more (nodes ++ [node]) merged :=
      (by simpa using built : Built source seq.more (nodes ++ [node]) merged).hidden regular.visible
    exact further _ (.several known grown joined)

section Run
variable {α : Type} {is : α → Node → Prop} {text : α → List Piece} {good : Nat → List Piece → Prop} {mark : Piece}
  {next : Nat} {rest : List Piece}

variable (seq source Goal is text good) in
def Reads (bound : Nat) (item : α) : Prop :=
  ∀ opened ∈ [seq.opened, seq.reopened], (∀ pieces, Takes opened (Piece.first (text item ++ pieces)) Symbol.identifier) ∧
    ∀ below symbol pieces, stateAbove below = opened → good symbol pieces →
      (∀ tree kind node, ∀ state ∈ seq.later, kind ∈ seq.items → Grown source kind [node] tree → is item node →
        Facing source Goal bound (⟨tree, state⟩ :: below) symbol pieces) →
      Facing source Goal 1 below Symbol.identifier (text item ++ pieces)

theorem Between.exists_opened (between : Between source seq below nodes rungs) (regular : seq.Regular) :
    ∃ opened ∈ [seq.opened, seq.reopened],
      shiftsTo opened (language.actions (stateAbove rungs) seq.separator) = true := by
  cases between with
  | single => exact ⟨_, List.mem_cons_self, regular.opens⟩
  | several => exact ⟨_, List.mem_cons_of_mem _ List.mem_cons_self, regular.reopens⟩

variable (is text good mark) in
theorem Between.run {done items : List α} (between : Between source seq below nodes rungs) (regular : seq.Regular)
    (attentive : ∀ opened ∈ [seq.opened, seq.reopened], attends language opened = true)
    (separates : ∀ pieces tree, Leaf source seq.separator (mark :: pieces) tree → Grown source seq.separator [] tree)
    (inner : seq.separator ≠ Symbol.newline) (few : bound + 3 ≤ 100) (follows : next ∈ seq.follow)
    (goodMore : ∀ pieces, good seq.separator (mark :: pieces)) (goodNext : good next rest)
    (each : ∀ item ∈ items, seq.Reads source Goal is text good (bound + 3) item) (known : done.Forall₂ is nodes)
    (further : ∀ tree nodes, Built source seq.whole nodes tree → (done ++ items).Forall₂ is nodes →
      Facing source Goal bound (⟨tree, language.goto (stateAbove below) seq.whole⟩ :: below) next rest) :
    Facing source Goal (bound + 1) rungs (if items.isEmpty then next else seq.separator)
      (items.flatMap (fun item => mark :: text item) ++ rest) := by
  induction items generalizing done nodes rungs with
  | nil =>
    rw [List.append_nil] at further
    exact between.finish regular follows fun tree built => further tree _ built known
  | cons item items ih =>
    obtain ⟨here, later⟩ := List.forall_mem_cons.mp each
    obtain ⟨opened, either, shifts⟩ := between.exists_opened regular
    obtain ⟨takes, reads⟩ := here opened either
    let ahead := items.flatMap (fun item => mark :: text item) ++ rest
    have good : good (if items.isEmpty then next else seq.separator) ahead := by
      cases items with
      | nil => exact goodNext
      | cons item items => exact goodMore _
    have allowed : (if items.isEmpty then next else seq.separator) ∈ seq.separator :: seq.follow := by
      cases items with
      | nil => exact List.mem_cons_of_mem _ follows
      | cons item items => exact List.mem_cons_self
    have stands : (item :: items).flatMap (fun item => mark :: text item) ++ rest = mark :: (text item ++ ahead) := by
      simp [ahead]
    rw [stands]
    refine (Facing.shift shifts (attentive opened either) (takes ahead) inner (by omega : 1 ≤ 100)
      fun sign leaf => ?_).mono (by omega)
    refine reads _ _ ahead rfl good fun tree kind node state last listed grown isNode => ?_
    refine between.add regular (separates _ sign leaf) listed grown last allowed fun rungs between => ?_
    refine ih between later (List.rel_append known (.cons isNode .nil)) fun whole nodes built all => ?_
    refine further whole nodes built ?_
    rwa [List.append_assoc, List.singleton_append] at all

end Run

end Sequence

end Lists

end SourceAtlas.Python
