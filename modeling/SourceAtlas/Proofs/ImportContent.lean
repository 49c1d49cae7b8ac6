import SourceAtlas.Proofs.ImportText
import Mathlib.Data.List.Forall2

/-! What an import node says, told from its parts alone: comments, joined lines, brackets and commas
between them do not matter. The leading dots of a module are the one exception. They are counted in
the text of their node, so a dot in a comment between them is counted as well. -/
namespace SourceAtlas.Python
open SourceAtlas.Syntax

section Parts

def fillerKinds : List String := ["comment", "line_continuation", ",", "(", ")", "."]

def partsOf (node : Node) : List Node :=
  node.children.filter fun child => child.kind ∉ fillerKinds

def dotCount (node : Node) : Nat :=
  node.children.countP (·.kind = ".")

def writtenDots (source : Source) (node : Node) : Nat :=
  (node.text source).toList.count '.'

variable (source : Source)

structure IsName (node : Node) (names : List String) : Prop where
  kind : node.kind = "dotted_name"
  identifiers : ∀ part ∈ partsOf node, part.kind = "identifier"
  texts : names = (partsOf node).map (·.text source)

/-- What is imported: a dotted name, or one that gets another name here. -/
inductive IsTarget : Node → Target → Prop
  | plain {node : Node} {names : List String} (named : IsName source node names) : IsTarget node ⟨names, none⟩
  | renamed {node name word called : Node} {names : List String} (kind : node.kind = "aliased_import")
      (parts : partsOf node = [name, word, called]) (named : IsName source name names) (as : word.kind = "as")
      (identifier : called.kind = "identifier") : IsTarget node ⟨names, some (called.text source)⟩

/-- The module of an import: its leading dots, those that are counted, and its name. -/
inductive IsModule : Node → (dots written : Nat) → List String → Prop
  | absolute {node : Node} {names : List String} (named : IsName source node names) : IsModule node 0 0 names
  | bare {node lead : Node} {dots written : Nat} (kind : node.kind = "relative_import") (parts : partsOf node = [lead])
      (leading : lead.kind = "import_prefix") (count : dotCount lead = dots)
      (counted : writtenDots source lead = written) : IsModule node dots written []
  | relative {node lead name : Node} {dots written : Nat} {names : List String}
      (kind : node.kind = "relative_import") (parts : partsOf node = [lead, name])
      (leading : lead.kind = "import_prefix") (count : dotCount lead = dots)
      (counted : writtenDots source lead = written) (named : IsName source name names) :
      IsModule node dots written names

/-- The content of an import node, and the number of leading dots that are counted. -/
inductive Depicts : Node → Import → (written : Nat) → Prop
  | modules {node word : Node} {list : List Node} {targets : List Target} (kind : node.kind = "import_statement")
      (parts : partsOf node = word :: list) (import_ : word.kind = "import")
      (each : list.Forall₂ (IsTarget source) targets) : Depicts node (.modules targets) 0
  | future {node lead future word : Node} {list : List Node} {targets : List Target}
      (kind : node.kind = "future_import_statement") (parts : partsOf node = lead :: future :: word :: list)
      (from_ : lead.kind = "from") (named : future.kind = "__future__") (import_ : word.kind = "import")
      (each : list.Forall₂ (IsTarget source) targets) :
      Depicts node (.names 0 ["__future__"] (.targets targets)) 0
  | everything {node lead module word star : Node} {dots written : Nat} {names : List String}
      (kind : node.kind = "import_from_statement") (parts : partsOf node = [lead, module, word, star])
      (from_ : lead.kind = "from") (origin : IsModule source module dots written names)
      (import_ : word.kind = "import") (wildcard : star.kind = "wildcard_import") :
      Depicts node (.names dots names .everything) written
  | names {node lead module word : Node} {list : List Node} {dots written : Nat} {names : List String}
      {targets : List Target} (kind : node.kind = "import_from_statement")
      (parts : partsOf node = lead :: module :: word :: list) (from_ : lead.kind = "from")
      (origin : IsModule source module dots written names) (import_ : word.kind = "import")
      (each : list.Forall₂ (IsTarget source) targets) : Depicts node (.names dots names (.targets targets)) written

end Parts

section Fillers
variable {node : Node}

theorem child?_eq (node : Node) {kind : String} (other : kind ∉ fillerKinds) :
    node.child? kind = (partsOf node).find? (·.kind = kind) := by
  rw [partsOf, List.find?_filter, Node.child?]
  congr 1
  funext child
  by_cases same : child.kind = kind
  · simp [same, other]
  · simp [same]

theorem identifiers_eq (source : Source) :
    Target.identifiers source node = ((partsOf node).filter (·.kind = "identifier")).map (·.text source) := by
  rw [Target.identifiers, partsOf, List.filter_filter]
  congr 2
  funext child
  by_cases same : child.kind = "identifier"
  · simp [same, fillerKinds]
  · simp [same]

theorem filter_takeWhile {α : Type} {keep holds : α → Bool} (skip : ∀ item, keep item = false → holds item = true)
    (items : List α) : (items.takeWhile holds).filter keep = (items.filter keep).takeWhile holds := by
  induction items with
  | nil => rfl
  | cons item items ih =>
    cases kept : keep item with
    | false => simp [kept, skip item kept, ih]
    | true => cases held : holds item <;> simp [kept, held, ih]

theorem filter_tail_dropWhile {α : Type} {keep holds : α → Bool}
    (skip : ∀ item, keep item = false → holds item = true) (items : List α) :
    (items.dropWhile holds).tail.filter keep = ((items.filter keep).dropWhile holds).tail := by
  induction items with
  | nil => rfl
  | cons item items ih =>
    cases kept : keep item with
    | false => simp [kept, skip item kept, ih]
    | true => cases held : holds item <;> simp [kept, held, ih]

private theorem ne_of_filler {child : Node} {kind : String} (filler : child.kind ∈ fillerKinds)
    (other : kind ∉ fillerKinds) : child.kind ≠ kind := by
  rintro rfl
  exact other filler

private theorem ne_import_of_filler (child : Node) (filler : decide (child.kind ∉ fillerKinds) = false) :
    (child.kind != "import") = true := by
  simpa using ne_of_filler (by simpa using filler) (by decide)

/-- The targets behind the word `import`, and the module in front of it, are found among the parts. -/
theorem targets_eq (source : Source) (node : Node) :
    (Import.splitAtImport node.children).2.filterMap (Target.ofNode? source) =
      (Import.splitAtImport (partsOf node)).2.filterMap (Target.ofNode? source) := by
  simp only [Import.splitAtImport, partsOf, ← filter_tail_dropWhile ne_import_of_filler, List.filterMap_filter]
  congr 1
  funext child
  by_cases filler : child.kind ∈ fillerKinds
  · have dotted := ne_of_filler filler (show "dotted_name" ∉ fillerKinds by decide)
    have aliased := ne_of_filler filler (show "aliased_import" ∉ fillerKinds by decide)
    simp [Target.ofNode?, dotted, aliased]
  · simp [filler]

theorem module_eq (node : Node) : (Import.splitAtImport node.children).1.find? (fun part =>
      part.kind = "relative_import" || part.kind = "dotted_name") =
    (Import.splitAtImport (partsOf node)).1.find? fun part =>
      part.kind = "relative_import" || part.kind = "dotted_name" := by
  simp only [Import.splitAtImport, partsOf, ← filter_takeWhile ne_import_of_filler, List.find?_filter]
  congr 1
  funext child
  by_cases filler : child.kind ∈ fillerKinds
  · have relative := ne_of_filler filler (show "relative_import" ∉ fillerKinds by decide)
    have dotted := ne_of_filler filler (show "dotted_name" ∉ fillerKinds by decide)
    simp [relative, dotted]
  · simp [filler]

end Fillers

section Content
variable {source : Source} {node : Node}

theorem IsName.identifiers_eq {names : List String} (named : IsName source node names) :
    Target.identifiers source node = names := by
  rw [Python.identifiers_eq, List.filter_eq_self.mpr (by simpa using named.identifiers), named.texts]

theorem IsTarget.ofNode? {target : Target} (is : IsTarget source node target) :
    Target.ofNode? source node = some target := by
  cases is with
  | plain named => simp [Target.ofNode?, named.kind, named.identifiers_eq]
  | renamed kind parts named as identifier =>
    have name := child?_eq node (show "dotted_name" ∉ fillerKinds by decide)
    have called := child?_eq node (show "identifier" ∉ fillerKinds by decide)
    simp [parts, named.kind, as, identifier] at name called
    simp [Target.ofNode?, kind, name, called, named.identifiers_eq]

theorem filterMap_targets {list : List Node} {targets : List Target} (each : list.Forall₂ (IsTarget source) targets) :
    list.filterMap (Target.ofNode? source) = targets := by
  induction each with
  | nil => rfl
  | cons is each ih => simp [is.ofNode?, ih]

theorem exists_target {list : List Node} {targets : List Target} (each : list.Forall₂ (IsTarget source) targets)
    (member : node ∈ list) : ∃ target, IsTarget source node target := by
  induction each with
  | nil => cases member
  | cons is each ih =>
    rcases List.mem_cons.mp member with rfl | member
    · exact ⟨_, is⟩
    · exact ih member

theorem IsModule.moduleOf {dots written : Nat} {names : List String}
    (origin : IsModule source node dots written names) : Import.moduleOf source node = (written, names) := by
  cases origin with
  | absolute named => simp [Import.moduleOf, named.kind, named.identifiers_eq]
  | bare kind parts leading count counted =>
    have lead := child?_eq node (show "import_prefix" ∉ fillerKinds by decide)
    have name := child?_eq node (show "dotted_name" ∉ fillerKinds by decide)
    simp [parts, leading] at lead name
    simp [Import.moduleOf, kind, lead, name, ← counted, writtenDots]
  | relative kind parts leading count counted named =>
    have lead := child?_eq node (show "import_prefix" ∉ fillerKinds by decide)
    have name := child?_eq node (show "dotted_name" ∉ fillerKinds by decide)
    simp [parts, leading, named.kind] at lead name
    simp [Import.moduleOf, kind, lead, name, ← counted, writtenDots, named.identifiers_eq]

theorem IsModule.kind {dots written : Nat} {names : List String} (origin : IsModule source node dots written names) :
    node.kind = "relative_import" ∨ node.kind = "dotted_name" := by
  cases origin with
  | absolute named => exact .inr named.kind
  | bare kind => exact .inl kind
  | relative kind => exact .inl kind

theorem IsTarget.kind {target : Target} (is : IsTarget source node target) :
    node.kind = "dotted_name" ∨ node.kind = "aliased_import" := by
  cases is with
  | plain named => exact .inl named.kind
  | renamed kind => exact .inr kind

def Import.recount (written : Nat) : Import → Import
  | .modules targets => .modules targets
  | .names _ module selection => .names written module selection

def Import.dots : Import → Nat
  | .modules _ => 0
  | .names dots _ _ => dots

@[simp] theorem Import.recount_dots (content : Import) : content.recount content.dots = content := by
  cases content <;> rfl

theorem Import.WellNamed.recount {content : Import} (named : content.WellNamed) (written : Nat) :
    (content.recount written).WellNamed := by
  cases content <;> exact named

/-- What stands around the word `import` behind two other parts. -/
private theorem splitAtImport_from {lead module word : Node} {list : List Node} (from_ : lead.kind = "from")
    (other : module.kind ≠ "import") (import_ : word.kind = "import") :
    Import.splitAtImport (lead :: module :: word :: list) = ([lead, module], list) := by
  simp [Import.splitAtImport, from_, other, import_]

private theorem module_ne_import {dots written : Nat} {names : List String}
    (origin : IsModule source node dots written names) : node.kind ≠ "import" := by
  rcases origin.kind with kind | kind <;> simp [kind]

private theorem ofNode?_from {lead module word : Node} {list : List Node} {dots written : Nat} {names : List String}
    (kind : node.kind = "import_from_statement") (parts : partsOf node = lead :: module :: word :: list)
    (from_ : lead.kind = "from") (origin : IsModule source module dots written names)
    (import_ : word.kind = "import") : Import.ofNode? source node =
      some (.names written names (if (node.child? "wildcard_import").isSome then .everything
        else .targets (list.filterMap (Target.ofNode? source)))) := by
  have found := module_eq node
  have targets := targets_eq source node
  rw [parts, splitAtImport_from from_ (module_ne_import origin) import_] at found targets
  have here : (decide (module.kind = "relative_import") || decide (module.kind = "dotted_name")) = true := by
    simpa using origin.kind
  have only : (Import.splitAtImport node.children).1.find? (fun part =>
      part.kind = "relative_import" || part.kind = "dotted_name") = some module := by
    rw [found, List.find?_cons_of_neg (by simp [from_]), List.find?_cons, here]
  simp [Import.ofNode?, kind, targets, only, origin.moduleOf]

theorem Depicts.ofNode? {content : Import} {written : Nat} (depicts : Depicts source node content written) :
    Import.ofNode? source node = some (content.recount written) := by
  have targets := targets_eq source node
  have wildcard := child?_eq node (show "wildcard_import" ∉ fillerKinds by decide)
  cases depicts with
  | @modules word list chosen kind parts import_ each =>
    have split : Import.splitAtImport (word :: list) = ([], list) := by simp [Import.splitAtImport, import_]
    rw [parts, split, filterMap_targets each] at targets
    simp [Import.ofNode?, kind, targets, Import.recount]
  | future kind parts from_ named import_ each =>
    rw [parts, splitAtImport_from from_ (by simp [named]) import_, filterMap_targets each] at targets
    simp [Import.ofNode?, kind, targets, Import.recount]
  | @everything lead module word star dots written names kind parts from_ origin import_ wild =>
    have there : (node.child? "wildcard_import").isSome := by
      rw [wildcard, parts, List.find?_isSome]
      exact ⟨star, by simp, by simp [wild]⟩
    rw [ofNode?_from kind parts from_ origin import_, if_pos there]
    rfl
  | @names lead module word list dots written names chosen kind parts from_ origin import_ each =>
    have absent : node.child? "wildcard_import" = none := by
      rw [wildcard, parts, List.find?_eq_none]
      intro part member
      rcases List.mem_cons.mp member with rfl | member
      · simp [from_]
      rcases List.mem_cons.mp member with rfl | member
      · rcases origin.kind with kind | kind <;> simp [kind]
      rcases List.mem_cons.mp member with rfl | member
      · simp [import_]
      · obtain ⟨target, is⟩ := exists_target each member
        rcases is.kind with kind | kind <;> simp [kind]
    rw [ofNode?_from kind parts from_ origin import_, absent, filterMap_targets each]
    rfl

end Content

def canonical? (source : Source) (node : Node) : Option String :=
  (Import.ofNode? source node).map Import.render

/-- Import nodes with plain names are reported with the same text just if their contents are equal,
dots apart, and their leading dots are counted to the same number; and just if their contents are equal
where none is counted that is not a leading dot. Nothing else about the nodes matters. -/
theorem canonical_eq_iff {source other : Source} {node otherNode : Node} {content otherContent : Import}
    {written otherWritten : Nat} (depicts : Depicts source node content written)
    (otherDepicts : Depicts other otherNode otherContent otherWritten) (named : content.WellNamed)
    (otherNamed : otherContent.WellNamed) :
    (canonical? source node = canonical? other otherNode ↔
      content.recount written = otherContent.recount otherWritten) ∧
    (written = content.dots → otherWritten = otherContent.dots →
      (canonical? source node = canonical? other otherNode ↔ content = otherContent)) := by
  have counted : canonical? source node = canonical? other otherNode ↔
      content.recount written = otherContent.recount otherWritten := by
    rw [canonical?, canonical?, depicts.ofNode?, otherDepicts.ofNode?, Option.map_some, Option.map_some,
      Option.some.injEq]
    constructor
    · exact (named.recount written).render_inj (otherNamed.recount otherWritten)
    · exact congrArg Import.render
  refine ⟨counted, ?_⟩
  rintro rfl rfl
  rw [counted, Import.recount_dots, Import.recount_dots]

section Instances

-- Imports are read off the texts of nodes, so that the rows and columns are left out here.
private def leaf (kind : String) (start stop : Nat) : Node :=
  ⟨kind, kind = "identifier" || kind = "comment", start, stop, 0, false, false, false, []⟩

private def branch (kind : String) (start stop : Nat) (children : List Node) : Node :=
  ⟨kind, true, start, stop, 0, false, false, false, children⟩

/-- `from .. import x` with nothing between the dots. -/
def plainDots : Source × Node :=
  (.ofString "from .. import x", branch "import_from_statement" 0 16
    [leaf "from" 0 4, branch "relative_import" 5 7 [branch "import_prefix" 5 7 [leaf "." 5 6, leaf "." 6 7]],
     leaf "import" 8 14, branch "dotted_name" 15 16 [leaf "identifier" 15 16]])

/-- `from .. import x` in brackets, with a joined line between the dots. -/
def joinedDots : Source × Node :=
  (.ofString "from .\\\n. import (x,)", branch "import_from_statement" 0 21
    [leaf "from" 0 4, branch "relative_import" 5 9
      [branch "import_prefix" 5 9 [leaf "." 5 6, leaf "line_continuation" 6 8, leaf "." 8 9]],
     leaf "import" 10 16, leaf "(" 17 18, branch "dotted_name" 18 19 [leaf "identifier" 18 19], leaf "," 19 20,
     leaf ")" 20 21])

/-- `from .. import x` with a comment between the dots that has a dot in it. -/
def commentedDots : Source × Node :=
  (.ofString "from . # a.b\n . import x", branch "import_from_statement" 0 24
    [leaf "from" 0 4, branch "relative_import" 5 15
      [branch "import_prefix" 5 15 [leaf "." 5 6, leaf "comment" 7 12, leaf "." 14 15]],
     leaf "import" 16 22, branch "dotted_name" 23 24 [leaf "identifier" 23 24]])

def siblingImport : Import :=
  .names 2 [] (.targets [⟨["x"], none⟩])

private theorem depicts_plainDots : Depicts plainDots.1 plainDots.2 siblingImport 2 :=
  .names rfl rfl rfl (.bare rfl rfl rfl rfl (by decide +kernel)) rfl
    (.cons (.plain ⟨rfl, by decide +kernel, by decide +kernel⟩) .nil)

private theorem depicts_joinedDots : Depicts joinedDots.1 joinedDots.2 siblingImport 2 :=
  .names rfl rfl rfl (.bare rfl rfl rfl rfl (by decide +kernel)) rfl
    (.cons (.plain ⟨rfl, by decide +kernel, by decide +kernel⟩) .nil)

private theorem depicts_commentedDots : Depicts commentedDots.1 commentedDots.2 siblingImport 3 :=
  .names rfl rfl rfl (.bare rfl rfl rfl rfl (by decide +kernel)) rfl
    (.cons (.plain ⟨rfl, by decide +kernel, by decide +kernel⟩) .nil)

private theorem wellNamed_siblingImport : siblingImport.WellNamed := by
  refine ⟨by simp, by simp, ?_⟩
  simp only [List.mem_singleton, forall_eq]
  exact ⟨by simp, by simp [Plain, joints], by simp⟩

theorem canonical_eq_iff_joined :
    Depicts plainDots.1 plainDots.2 siblingImport 2 ∧ Depicts joinedDots.1 joinedDots.2 siblingImport 2 ∧
    siblingImport.WellNamed ∧
    canonical? plainDots.1 plainDots.2 = canonical? joinedDots.1 joinedDots.2 := by
  refine ⟨depicts_plainDots, depicts_joinedDots, wellNamed_siblingImport, ?_⟩
  exact (canonical_eq_iff depicts_plainDots depicts_joinedDots wellNamed_siblingImport wellNamed_siblingImport).2 rfl rfl
    |>.mpr rfl

/-- Two nodes with one content, which are told apart by a comment. -/
theorem canonical_counts_comments :
    Depicts plainDots.1 plainDots.2 siblingImport 2 ∧ canonical? plainDots.1 plainDots.2 = some "from .. import x" ∧
    Depicts commentedDots.1 commentedDots.2 siblingImport 3 ∧
    canonical? commentedDots.1 commentedDots.2 = some "from ... import x" :=
  ⟨depicts_plainDots, by decide +kernel, depicts_commentedDots, by decide +kernel⟩

end Instances

end SourceAtlas.Python
