import SourceAtlas.Proofs.ImportNodes
import SourceAtlas.Proofs.Levels
import Mathlib.Data.List.Chain

/-! The names and the imports of an accepted text. Nothing that an outline is made from can be missing, so that names
are identifiers from the text and imports are written in one line. -/
namespace SourceAtlas.Python
open SourceAtlas.Syntax
open Lexis (IsIdentifier)

section Nodes
open Automaton SourceAtlas.Syntax.Tree
variable {source : Source} {tree : Syntax.Tree Memory}

structure Intact (source : Source) (node : Node) : Prop where
  spelled : node.kind = "identifier" → IsIdentifier (node.text source)
  dotted : node.kind = "import_prefix" → 0 < writtenDots source node
  named : node.kind = "class_definition" ∨ node.kind = "function_definition" → (definedName? source node).isSome = true
  complete : isImport node = true → Complete source node

theorem kind_of_isImport {node : Node} (is : isImport node = true) : node.kind = "import_statement" ∨
    node.kind = "import_from_statement" ∨ node.kind = "future_import_statement" := by
  simpa [isImport] using is

theorem Intact.of_kind {node : Node} (other : node.kind ∉ outlinedKinds) : Intact source node where
  spelled kind := absurd (by simp [kind, outlinedKinds]) other
  dotted kind := absurd (by simp [kind, outlinedKinds]) other
  named kind := absurd (by rcases kind with kind | kind <;> simp [kind, outlinedKinds]) other
  complete kind := absurd (by rcases kind_of_isImport kind with kind | kind | kind <;> simp [kind, outlinedKinds]) other

theorem exists_label (derives : Derives language source tree) : ∃ symbol, tree.label = .symbol symbol := by
  cases derives with
  | token label => exact ⟨_, label⟩
  | rule fills => exact ⟨_, fills.label⟩

theorem definedName?_isSome {node child : Node} (member : child ∈ node.children) (word : child.kind = "identifier") :
    (definedName? source node).isSome = true := by
  rw [definedName?, Option.isSome_map, Node.child?, List.find?_isSome]
  exact ⟨child, member, by simp [word]⟩

theorem intact_nodeOf (derives : Derives language source tree) : Intact source (nodeOf source tree) := by
  obtain ⟨symbol, label⟩ := exists_label derives
  have name : (nodeOf source tree).kind = (language.appearance symbol).name := by rw [nodeOf, kind_shownAs, appearance_eq label]
  have owner {id : Nat} {kind : String} (known : (id, kind) ∈ kinds) (outlined : kind ∈ outlinedKinds)
      (same : (nodeOf source tree).kind = kind) : tree.label = .symbol id := by
    rw [label, symbol_of_name known outlined (name.symm.trans same)]
  refine ⟨fun kind => ?_, fun kind => ?_, fun kind => ?_, fun kind => ?_⟩
  · exact (isWord_nodeOf derives (owner (by decide) (by decide) kind)).text
  · rw [writtenDots, text_nodeOf, List.count_pos_iff]
    exact dot_mem derives Symbol.importPrefix (by decide) (owner (by decide) (by decide) kind)
  · have defines : symbol = Symbol.classDefinition ∨ symbol = Symbol.functionDefinition := by
      rcases kind with kind | kind
      · exact .inl (symbol_of_name (by decide) (by decide) (name.symm.trans kind))
      · exact .inr (symbol_of_name (by decide) (by decide) (name.symm.trans kind))
    obtain ⟨child, member, word⟩ := exists_name derives label defines
    exact definedName?_isSome member word
  · rcases kind_of_isImport kind with kind | kind | kind
    · exact complete_importStatement derives (owner (by decide) (by decide) kind)
    · exact complete_importFrom derives (owner (by decide) (by decide) kind)
    · exact complete_futureImport derives (owner (by decide) (by decide) kind)

def Suits (tree : Syntax.Tree Memory) (shown : Appearance) : Prop :=
  shown.name ∉ outlinedKinds ∨ shown.name = "identifier" ∧ ∃ symbol ∈ Lexis.softKeywords, tree.label = .symbol symbol

theorem intact_shownAs (derives : Derives language source tree) {shown : Appearance} (suits : Suits tree shown) :
    Intact source (tree.shownAs language source shown) := by
  rcases suits with other | ⟨name, symbol, soft, label⟩
  · exact .of_kind (by rwa [kind_shownAs])
  · have kind : (tree.shownAs language source shown).kind = "identifier" := (kind_shownAs ..).trans name
    have small : ∀ symbol ∈ Lexis.softKeywords, symbol < tokenCount := by decide
    refine ⟨fun _ => ?_, fun other => ?_, fun other => ?_, fun other => ?_⟩
    · rw [Node.text, start_shownAs, stop_shownAs]
      exact isIdentifier_of_lexed (lexed_of_derives derives label (small symbol soft)).1 (.inr soft)
    · rw [kind] at other
      exact absurd other (by decide)
    · rw [kind] at other
      exact absurd other (by decide)
    · rw [isImport, kind] at other
      exact absurd other (by decide)

theorem toNode_eq_nodeOf (whole : Whole language source Symbol.module_ tree)
    (visible : (appearance language tree.facts).visible = true) : tree.toNode language = nodeOf source tree := by
  have only : nodesIn language source none tree = [nodeOf source tree] := nodesIn_visible visible
  rw [toNode_eq whole.measured whole.origin, only]
  rfl

section Throughout
variable {holds : Node → Prop}

theorem throughout_children {facts : Facts Memory} {children : List (Syntax.Tree Memory)} {rule : Rule}
    (fills : Fills language rule facts children) (each : ∀ child ∈ children, ∀ renamed : Option Appearance,
      (∀ shown ∈ renamed, Suits child shown) → ∀ node ∈ nodesIn language source renamed child, node.Throughout holds) :
    ∀ node ∈ allNodesIn language source facts.aliases children, node.Throughout holds := by
  intro node member
  obtain ⟨child, inside, renamed, found, names⟩ := exists_of_mem_allNodesIn member
  exact each child inside renamed (fun shown known => suits_of_renames fills (names shown known)) node found

variable (own : ∀ tree, Derives language source tree → holds (nodeOf source tree))
  (given : ∀ tree shown, Derives language source tree → Suits tree shown → holds (tree.shownAs language source shown))
include own given

theorem throughout_nodes (derives : Derives language source tree) : ∀ renamed : Option Appearance,
    (∀ shown ∈ renamed, Suits tree shown) → ∀ node ∈ nodesIn language source renamed tree, node.Throughout holds := by
  apply Derives.of_children (motive := fun tree => ∀ renamed : Option Appearance, (∀ shown ∈ renamed, Suits tree shown) →
    ∀ node ∈ nodesIn language source renamed tree, node.Throughout holds) ?_ derives
  intro tree derives ih renamed suits node member
  have below : ∀ node ∈ allNodesIn language source tree.facts.aliases tree.children, node.Throughout holds := by
    cases derives with
    | token => exact fun _ member => absurd member List.not_mem_nil
    | rule fills => exact throughout_children fills ih
  cases visible : (renamed.getD (appearance language tree.facts)).visible with
  | false =>
    rw [nodesIn_hidden visible] at member
    exact below node member
  | true =>
    rw [nodesIn_visible visible, List.mem_singleton] at member
    subst member
    refine .mk ?_ fun child inside => below child (children_shownAs .. ▸ inside)
    cases renamed with
    | none => exact own tree derives
    | some shown => exact given tree shown derives (suits shown rfl)

variable (other : ∀ node : Node, node.kind ∉ outlinedKinds → holds node)
include other

theorem throughout_toNode (whole : Whole language source Symbol.module_ tree)
    (clean : (tree.toNode language).hasError = false) : (tree.toNode language).Throughout holds := by
  have module_ : (language.appearance Symbol.module_).visible = true ∧
      (language.appearance Symbol.module_).name ∉ outlinedKinds := by decide +kernel
  have visible : (appearance language tree.facts).visible = true := by
    rcases whole.label with label | label
    · rw [appearance_eq label]
      exact module_.1
    · unfold appearance
      rw [show tree.facts.label = .error from label]
  rw [toNode_eq_nodeOf whole visible] at clean ⊢
  have free : tree.cost = 0 := by
    rw [nodeOf, hasError_shownAs, decide_eq_false_iff_not] at clean
    omega
  obtain ⟨⟨rule, root, fills⟩, each⟩ := whole.derives free
  refine .mk (other _ ?_) fun child inside => ?_
  · rw [nodeOf, kind_shownAs, appearance_eq (fills.label.trans (congrArg _ root))]
    exact module_.2
  · exact throughout_children fills (fun child member => throughout_nodes own given (each child member)) child
      (children_shownAs .. ▸ inside)

theorem throughout_parse {rejected : List String} {root : Node} (accepted : parse rejected source = .ok root) :
    root.Throughout holds := by
  have whole := whole_parse source
  unfold parse at accepted
  generalize Parser.parse language source = tree at whole accepted
  obtain ⟨rfl, none⟩ := Node.checked_eq_ok_iff.mp accepted
  refine throughout_toNode own given other whole ?_
  unfold Node.offender? at none
  split at none
  · cases none
  · rename_i clean
    exact Bool.eq_false_iff.mpr clean

end Throughout

theorem intact_parse {rejected : List String} {root : Node} (accepted : parse rejected source = .ok root) :
    root.Throughout (Intact source) :=
  throughout_parse (fun _ => intact_nodeOf) (fun _ _ derives => intact_shownAs derives) (fun _ => .of_kind) accepted

end Nodes

section Lines

/-- Characters that do not occur in written imports: those that end a line, brackets, and the signs in front of comments
and of joined lines. -/
def barred : List Char :=
  ['\n', '\r', '\x0b', '\x0c', '\u0085', '\u2028', '\u2029', '(', ')', '\\', '#']

inductive Tight : List Char → Prop
  | word {chars : List Char} (nonempty : chars ≠ []) (solid : ∀ c ∈ ' ' :: barred, c ∉ chars) : Tight chars
  | join {left right : List Char} (first : Tight left) (second : Tight right) : Tight (left ++ ' ' :: right)

namespace Tight
variable {chars : List Char}

theorem free (tight : Tight chars) : ∀ c ∈ barred, c ∉ chars := by
  induction tight with
  | word nonempty solid => exact fun c member => solid c (List.mem_cons_of_mem _ member)
  | join first second left right =>
    intro c member
    have space : ' ' ∉ barred := by decide
    rw [List.mem_append, List.mem_cons]
    rintro (inside | rfl | inside)
    · exact left c member inside
    · exact space member
    · exact right c member inside

theorem ne_nil (tight : Tight chars) : chars ≠ [] := by
  cases tight with
  | word nonempty => exact nonempty
  | join => simp

theorem spaced (tight : Tight chars) : chars.IsChain (fun a b => ¬ (a = ' ' ∧ b = ' ')) ∧
    (∀ c ∈ chars.head?, c ≠ ' ') ∧ ∀ c ∈ chars.getLast?, c ≠ ' ' := by
  induction tight with
  | @word chars nonempty solid =>
    have other : ∀ c ∈ chars, c ≠ ' ' := by
      rintro c member rfl
      exact solid ' ' List.mem_cons_self member
    have apart : chars.Pairwise fun a b => ¬ (a = ' ' ∧ b = ' ') :=
      List.pairwise_of_forall_mem_list fun a member _ _ spaces => other a member spaces.1
    refine ⟨apart.isChain, ?_, ?_⟩
    · exact fun c known => other c (List.mem_of_head? known)
    · exact fun c known => other c (List.mem_of_getLast? known)
  | @join left right first second leftSpaced rightSpaced =>
    obtain ⟨leftChain, leftHead, leftLast⟩ := leftSpaced
    obtain ⟨rightChain, rightHead, rightLast⟩ := rightSpaced
    refine ⟨List.isChain_append.mpr ⟨leftChain, List.isChain_cons.mpr ⟨fun c known spaces => ?_, rightChain⟩,
      fun c known _ _ spaces => leftLast c known spaces.1⟩, fun c known => ?_, fun c known => ?_⟩
    · exact rightHead c known spaces.2
    · rw [List.head?_append_of_ne_nil _ first.ne_nil] at known
      exact leftHead c known
    · rw [List.getLast?_append_of_ne_nil _ (List.cons_ne_nil _ _), List.getLast?_cons_of_ne_nil second.ne_nil] at known
      exact rightLast c known

theorem comma (tight : Tight chars) : Tight (chars ++ [',']) := by
  induction tight with
  | word nonempty solid =>
    refine .word (by simp) fun c member => ?_
    have other : ',' ∉ ' ' :: barred := by decide
    rw [List.mem_append, List.mem_singleton]
    rintro (inside | rfl)
    · exact solid c member inside
    · exact other member
  | join first second left right =>
    rw [List.append_assoc, List.cons_append]
    exact .join first right

end Tight

theorem Lexis.IsIdentifier.ne_nil {name : String} (spelled : IsIdentifier name) : name.toList ≠ [] := by
  obtain ⟨first, rest, chars, -⟩ := spelled
  rw [chars]
  exact List.cons_ne_nil first rest

end Lines

section Outlines
variable {source : Source} {root node : Node}

theorem throughout_breadthFirst {holds : Node → Prop} {transparent : List String} (all : root.Throughout holds)
    (member : node ∈ root.breadthFirst transparent) : node.Throughout holds := by
  rw [Node.breadthFirst_eq_byLevel] at member
  obtain ⟨spot, visited, rfl⟩ := List.mem_map.mp member
  exact all.reached (Node.mem_byLevel.mp visited).1

theorem isImport_of_ofNode? {content : Import} (known : Import.ofNode? source node = some content) :
    isImport node = true := by
  unfold Import.ofNode? at known
  dsimp only at known
  split at known
  · simp [isImport, *]
  split at known
  · simp [isImport, *]
  split at known
  · simp [isImport, *]
  · cases known

theorem exists_parse {text : String} {record : Outline} (accepted : outline text = .ok record) :
    ∃ root, parse obsoleteStatements (.ofString text) = .ok root ∧ outlineOf (.ofString text) root = record := by
  unfold outline at accepted
  dsimp only at accepted
  cases parsed : parse obsoleteStatements (.ofString text) with
  | error position =>
    rw [parsed] at accepted
    cases accepted
  | ok root =>
    rw [parsed] at accepted
    exact ⟨root, rfl, Except.ok.inj accepted⟩

def recordOf : Except Position Outline → Option Outline
  | .ok record => some record
  | .error _ => none

theorem eq_ok_of_recordOf {outcome : Except Position Outline} {record : Outline}
    (known : recordOf outcome = some record) :
    outcome = .ok record := by
  cases outcome with
  | ok other => rw [Option.some.inj known]
  | error position => cases known

end Outlines

end SourceAtlas.Python
