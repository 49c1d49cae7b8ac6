import SourceAtlas.Proofs.WrittenStatements

/-! The imports of an accepted text, read again. What an import is written as is a text with that import alone, unless a
keyword was taken for the first name of its module, which can happen behind leading dots only. -/
namespace SourceAtlas.Python
open SourceAtlas.Syntax
open Lexis (IsIdentifier)

section Nodes
open Automaton SourceAtlas.Syntax.Tree
variable {source : Source} {tree : Syntax.Tree Memory}

/-- The module of an import without leading dots does not begin with `__future__`, which has a statement of its own. -/
def Ordinary (source : Source) (node : Node) : Prop :=
  node.kind = "import_from_statement" → ∀ lead module rest names, partsOf node = lead :: module :: rest →
    IsName source module names → names.head? ≠ some "__future__"

theorem exists_first (derives : Derives language source tree) (label : tree.label = .symbol Symbol.dottedName) :
    ∃ word, Opens word tree ∧ word.label = .symbol Symbol.identifier ∧
      ∀ names, IsName source (nodeOf source tree) names →
        names.head? = some (source.slice word.facts.start word.facts.stop) := by
  obtain ⟨shape, parts, known, made⟩ := exists_made derives label (by decide)
  have all : ∀ entry ∈ shapes, entry.1 = Symbol.dottedName → entry.2 = [Symbol.identifier] :: entry.2.tail := by decide
  have labels := made.labels
  rw [show shape = _ from all _ known rfl] at labels
  simp only [List.forall₂_cons_left_iff, List.mem_singleton, exists_eq_left] at labels
  obtain ⟨word, others, identifier, -, rfl⟩ := labels
  have empty := (lexed_of_derives (derives.child (made.inside List.mem_cons_self)) identifier (by decide)).2
  refine ⟨word, opens_of_constituents made.whole empty, identifier, fun names is => ?_⟩
  rw [is.texts, made.partsOf_nodeOf, List.flatMap_cons,
    told_known identifier (by decide : (_, "identifier") ∈ kinds) (by decide), List.singleton_append, List.map_cons,
    List.head?_cons, text_nodeOf]

theorem ordinary_importFrom (derives : Derives language source tree) (label : tree.label = .symbol Symbol.importFrom) :
    Ordinary source (nodeOf source tree) := by
  intro _ lead module rest names parts is future
  obtain ⟨shape, inner, known, made⟩ := exists_made derives label (by decide)
  have all : ∀ entry ∈ shapes, entry.1 = Symbol.importFrom →
      entry.2 = [Symbol.from_] :: [Symbol.relativeImport, Symbol.dottedName] :: entry.2.drop 2 := by decide
  have labels := made.labels
  rw [show shape = _ from all _ known rfl] at labels
  simp only [List.forall₂_cons_left_iff, List.mem_singleton, exists_eq_left] at labels
  obtain ⟨first, _, from_, ⟨second, others, located, -, rfl⟩, rfl⟩ := labels
  have inside := derives.child (made.inside (List.mem_cons_of_mem _ List.mem_cons_self))
  have said : partsOf (nodeOf source tree) = nodeOf source first :: nodeOf source second :: others.flatMap (told source) := by
    rw [made.partsOf_nodeOf, List.flatMap_cons, List.flatMap_cons,
      told_known from_ (by decide : (_, "from") ∈ kinds) (by decide), (located_module inside located).1]
    rfl
  obtain ⟨-, later⟩ := List.cons.inj (said.symm.trans parts)
  obtain ⟨rfl, -⟩ := List.cons.inj later
  have named : second.label = .symbol Symbol.dottedName := by
    obtain ⟨symbol, either, label⟩ := located
    simp only [List.mem_cons, List.not_mem_nil, or_false] at either
    rcases either with rfl | rfl
    · have kind := is.kind
      rw [kind_nodeOf label (by decide : (_, "relative_import") ∈ kinds)] at kind
      exact absurd kind (by decide)
    · exact label
  obtain ⟨word, opens, identifier, text⟩ := exists_first inside named
  have keyword : language.keyword source word.facts.start word.facts.stop = some Symbol.future := by
    have spelled := Option.some.inj ((text names is).symm.trans future)
    change Lexis.keywords.lookup (source.slice word.facts.start word.facts.stop) = _
    rw [spelled]
    decide
  -- Behind `from` no rule has been applied, so that the word was read there, and as the keyword.
  obtain ⟨one, other, _, _, _, here, there, moves, next, heeds⟩ :=
    derives.consecutive (show constituents tree.children = [] ++ _ from made.whole)
  obtain rfl := Label.symbol.inj (from_.symm.trans here)
  obtain rfl := Label.symbol.inj (named.symm.trans there)
  obtain ⟨rfl, apart⟩ := importing moves next
  have shifts := eq_of_shiftsTo (shifts_row (by decide : (importingState, Symbol.future, 2636) ∈ shiftRows))
  rcases heeds word opens identifier Symbol.future keyword with lands | idle
  · exact apart lands
  · exact idle 2636 (shifts ▸ List.mem_cons_self)

theorem ordinary_nodeOf (derives : Derives language source tree) : Ordinary source (nodeOf source tree) := by
  intro kind
  obtain ⟨symbol, label⟩ := exists_label derives
  have name : (language.appearance symbol).name = "import_from_statement" := by
    rw [← kind, nodeOf, kind_shownAs, appearance_eq label]
  obtain rfl := symbol_of_name (by decide : (Symbol.importFrom, _) ∈ kinds) (by decide) name
  exact ordinary_importFrom derives label kind

theorem ordinary_of_kind {node : Node} (other : node.kind ∉ outlinedKinds) : Ordinary source node :=
  fun kind => absurd (by simp [kind, outlinedKinds]) other

theorem ordinary_shownAs {shown : Appearance} (suits : Suits tree shown) :
    Ordinary source (tree.shownAs language source shown) := by
  rcases suits with other | ⟨name, -⟩
  · exact ordinary_of_kind (by rwa [kind_shownAs])
  · intro kind
    rw [kind_shownAs, name] at kind
    exact absurd kind (by decide)

theorem ordinary_parse {rejected : List String} {root : Node} (accepted : parse rejected source = .ok root) :
    root.Throughout (Ordinary source) :=
  throughout_parse (fun _ => ordinary_nodeOf) (fun _ _ _ => ordinary_shownAs) (fun _ => ordinary_of_kind) accepted

end Nodes

section Contents
variable {source : Source} {node module : Node} {content : Import} {dots written : Nat} {names : List String}

theorem IsModule.absolute_of_uncounted (is : IsModule source module dots written names)
    (intact : module.Throughout (Intact source)) (none : written = 0) : names = [] ∨ IsName source module names := by
  cases is with
  | absolute named => exact .inr named
  | bare => exact .inl rfl
  | @relative lead name dots written names kind parts leading count counted named =>
    have member : lead ∈ module.children := List.mem_of_mem_filter (parts ▸ List.mem_cons_self)
    have some := (intact.child member).here.dotted leading
    omega

theorem Depicts.readable (depicts : Depicts source node content written) (intact : node.Throughout (Intact source))
    (ordinary : Ordinary source node)
    (other : ∀ dots names selection, content.recount written ≠ .names (dots + 1) ("import" :: names) selection) :
    (content.recount written).Readable := by
  have from_ {lead module : Node} {rest : List Node} {dots : Nat} {names : List String} {selection : Selection}
      (kind : node.kind = "import_from_statement") (parts : partsOf node = lead :: module :: rest)
      (origin : IsModule source module dots written names)
      (other : ∀ dots further chosen, Import.names written names selection ≠ .names (dots + 1) ("import" :: further) chosen) :
      (Import.names written names selection).Readable := by
    have member : module ∈ node.children := List.mem_of_mem_filter (parts ▸ List.mem_cons_of_mem _ List.mem_cons_self)
    cases written with
    | zero =>
      intro future
      rcases origin.absolute_of_uncounted (intact.child member) rfl with rfl | named
      · cases future
      · exact absurd future (ordinary kind lead module rest names parts named)
    | succ written =>
      intro keyword
      obtain ⟨further, rfl⟩ := List.head?_eq_some_iff.mp keyword
      exact other written further selection rfl
  cases depicts with
  | modules => trivial
  | future => exact fun _ => ⟨rfl, _, rfl⟩
  | everything kind parts _ origin => exact from_ kind parts origin other
  | names kind parts _ origin => exact from_ kind parts origin other

end Contents

/-- Each import of an accepted text is in normal form: as a text of its own it is accepted, and its outline is that import
and nothing else. Left out are imports from modules with leading dots that begin with the keyword `import`. -/
theorem outline_import_again {text : String} {record : Outline} (accepted : outline text = .ok record) {line : String}
    (listed : line ∈ record.imports)
    (other : ∀ dots names selection, line ≠ (Import.names (dots + 1) ("import" :: names) selection).render) :
    outline line = .ok { imports := [line] } := by
  obtain ⟨root, parsed, rfl⟩ := exists_parse accepted
  obtain ⟨content, read, rfl⟩ := List.mem_map.mp listed
  obtain ⟨node, inside, known⟩ := List.mem_filterMap.mp read
  have intact := throughout_breadthFirst (intact_parse parsed) inside
  have ordinary := (throughout_breadthFirst (ordinary_parse parsed) inside).here
  obtain ⟨depicted, written, depicts, spelled⟩ := intact.here.complete (isImport_of_ofNode? known)
  obtain rfl := Option.some.inj (depicts.ofNode?.symm.trans known)
  exact outline_render spelled (depicts.readable intact ordinary fun dots names selection same =>
    other dots names selection (congrArg Import.render same))

set_option maxRecDepth 100000 in
theorem outline_import_again_bracketed : outline "from .é import(b)" = .ok { imports := ["from .é import b"] } ∧
    outline "from .é import b" = .ok { imports := ["from .é import b"] } := by
  have accepted : outline "from .é import(b)" = .ok { imports := ["from .é import b"] } := by
    apply eq_ok_of_recordOf
    rw [outline, parse_eq_listed]
    decide +kernel
  refine ⟨accepted, outline_import_again accepted List.mem_cons_self fun dots names selection same => ?_⟩
  have chars := congrArg String.toList same
  rw [Import.toList_render_names, toList_dotted] at chars
  -- Behind the first dot there is a letter that is neither a dot nor the first one of `import`.
  have seventh := congrArg (·[6]?) chars
  cases dots <;> cases names <;> simp [List.intercalate_cons_cons, List.replicate_succ] at seventh

/-- A text in which a keyword is taken for a name. A format string with a `lambda` in it is read in two ways, which do not
agree on where the string ends. What one reading makes of the keyword `import` is joined with what another one has made, so
that nothing is left of it, and the word is tried as a name. -/
def entangledText : String :=
  "f\"\x7ba,lambda:'''\x7d\"\nf'\x7ba,lambda:\"\"\"\x7d'\nfrom#'''\x7d\";from.\na\\\n#\"\"\"\x7d';from.\nimport import x"

set_option maxRecDepth 100000 in
theorem outline_entangledText : recordOf (outline entangledText) = some { imports := ["from .import import x"] } := by
  rw [outline, parse_eq_listed]
  decide +kernel

set_option maxRecDepth 100000 in
theorem outline_import_entangled : ∃ text record line, outline text = .ok record ∧ line ∈ record.imports ∧
    outline line ≠ .ok { imports := [line] } := by
  have rejected : recordOf (outline "from .import import x") = none := by
    rw [outline, parse_eq_listed]
    decide +kernel
  refine ⟨entangledText, _, "from .import import x", eq_ok_of_recordOf outline_entangledText, List.mem_cons_self,
    fun same => ?_⟩
  rw [same] at rejected
  cases rejected

end SourceAtlas.Python
