import SourceAtlas.Proofs.Preorder
import SourceAtlas.Python.Reading

/-! What makes a syntax tree unacceptable. Two searches look for it, one that passes over what is not
flagged and one that passes over what is not named; in a tree whose flags are set as they should be,
both end at the first node of a plain listing, and the more kinds are rejected the earlier. -/
namespace SourceAtlas.Syntax

instance : LE Position where
  le first second := first.line < second.line ∨ first.line = second.line ∧ first.column ≤ second.column

namespace Position

theorem le_def {first second : Position} :
    first ≤ second ↔ first.line < second.line ∨ first.line = second.line ∧ first.column ≤ second.column :=
  Iff.rfl

protected theorem le_refl (position : Position) : position ≤ position :=
  le_def.mpr (.inr ⟨rfl, Nat.le_refl _⟩)

theorem eq_of_le_of_le {first second : Position} (le : first ≤ second) (ge : second ≤ first) : first = second := by
  rw [le_def] at le ge
  obtain ⟨line, column⟩ := first
  obtain ⟨otherLine, otherColumn⟩ := second
  simp only [mk.injEq] at le ge ⊢
  omega

end Position

namespace Node

/-- The first of the wanted nodes that are reached through nodes that may be entered. -/
structure IsFirst (enter wanted : Node → Bool) (root : Node) (spot : Spot) : Prop where
  reached : Reaches enter root spot.path spot.node
  is : wanted spot.node = true
  least : ∀ other : Spot, Reaches enter root other.path other.node → wanted other.node = true → spot.NotAfter other

section First
variable {enter wanted : Node → Bool} {root : Node}

theorem isFirst_of_find? {spot : Spot} (found : (root.preorder enter).find? (wanted ·.node) = some spot) :
    IsFirst enter wanted root spot := by
  obtain ⟨is, before, after, listing, none⟩ := List.find?_eq_some_iff_append.mp found
  have ordered := pairwise_preorder enter root
  rw [listing] at ordered
  refine ⟨mem_preorder.mp (by simp [listing]), is, fun other reached isToo => ?_⟩
  have member := mem_preorder.mpr reached
  rw [listing, List.mem_append, List.mem_cons] at member
  rcases member with earlier | rfl | later
  · exact absurd isToo (by simpa using none other earlier)
  · exact .inl rfl
  · exact .inr ((List.pairwise_cons.mp (List.pairwise_append.mp ordered).2.1).1 other later)

theorem IsFirst.unique {spot other : Spot} (first : IsFirst enter wanted root spot) (too : IsFirst enter wanted root other) :
    spot = other :=
  (first.least other too.reached too.is).antisymm (too.least spot first.reached first.is)

theorem exists_isFirst (wanted : Node → Bool) {spot : Spot} (reached : Reaches enter root spot.path spot.node)
    (is : wanted spot.node = true) :
    ∃ first, (root.preorder enter).find? (wanted ·.node) = some first ∧ IsFirst enter wanted root first := by
  have some : ((root.preorder enter).find? (wanted ·.node)).isSome :=
    List.find?_isSome.mpr ⟨spot, mem_preorder.mpr reached, is⟩
  obtain ⟨first, found⟩ := Option.isSome_iff_exists.mp some
  exact ⟨first, found, isFirst_of_find? found⟩

theorem findFirst?_eq_some_iff {node : Node} :
    root.findFirst? enter wanted = some node ↔ ∃ spot, IsFirst enter wanted root spot ∧ spot.node = node := by
  rw [findFirst?_eq_find?, Option.map_eq_some_iff]
  constructor
  · rintro ⟨spot, found, rfl⟩
    exact ⟨spot, isFirst_of_find? found, rfl⟩
  · rintro ⟨spot, first, rfl⟩
    obtain ⟨other, found, too⟩ := exists_isFirst wanted first.reached first.is
    exact ⟨other, found, congrArg Spot.node (too.unique first)⟩

theorem findFirst?_eq_none_iff :
    root.findFirst? enter wanted = none ↔ ∀ path node, Reaches enter root path node → wanted node = false := by
  rw [findFirst?_eq_find?, Option.map_eq_none_iff, List.find?_eq_none]
  constructor
  · intro none path node reached
    simpa using none ⟨path, node⟩ (mem_preorder.mpr reached)
  · intro none spot member
    simp [none spot.path spot.node (mem_preorder.mp member)]

private theorem IsFirst.or {one two either : Node → Bool} (agree : ∀ node, either node = (one node || two node)) {spot : Spot}
    (first : IsFirst enter one root spot) (notAfter : ∀ other, IsFirst enter two root other → spot.NotAfter other) :
    IsFirst enter either root spot := by
  refine ⟨first.reached, by rw [agree, first.is, Bool.true_or], fun other reached is => ?_⟩
  rw [agree, Bool.or_eq_true] at is
  rcases is with is | is
  · exact first.least other reached is
  · obtain ⟨second, -, isSecond⟩ := exists_isFirst two reached is
    exact (notAfter second isSecond).trans (isSecond.least other reached is)

/-- Of nodes that are wanted for one of two reasons the first is the first for one of them, and not after
the first for the other. -/
theorem isFirst_or_iff {one two either : Node → Bool} (agree : ∀ node, either node = (one node || two node)) {spot : Spot} :
    IsFirst enter either root spot ↔
      (IsFirst enter one root spot ∧ ∀ other, IsFirst enter two root other → spot.NotAfter other) ∨
        (IsFirst enter two root spot ∧ ∀ other, IsFirst enter one root other → spot.NotAfter other) := by
  have ofOne {node : Node} (is : one node = true) : either node = true := by rw [agree, is, Bool.true_or]
  have ofTwo {node : Node} (is : two node = true) : either node = true := by rw [agree, is, Bool.or_true]
  constructor
  · intro first
    have is := first.is
    rw [agree, Bool.or_eq_true] at is
    rcases is with is | is
    · exact .inl ⟨⟨first.reached, is, fun other reached isToo => first.least other reached (ofOne isToo)⟩,
        fun other second => first.least other second.reached (ofTwo second.is)⟩
    · exact .inr ⟨⟨first.reached, is, fun other reached isToo => first.least other reached (ofTwo isToo)⟩,
        fun other second => first.least other second.reached (ofOne second.is)⟩
  · rintro (⟨first, notAfter⟩ | ⟨second, notAfter⟩)
    · exact first.or agree notAfter
    · exact second.or (fun node => by rw [agree, Bool.or_comm]) notAfter

end First

section Faults
variable {root : Node}

/-- Errors and missing nodes are flagged on all of the way to them, those apart that stand inside of
another error. -/
def Flagged (root : Node) : Prop :=
  ∀ path fault, Reaches everywhere root path fault → fault.isFault = true →
    (∀ above ∈ root.ancestors path, above.isError = false) → ∀ above ∈ fault :: root.ancestors path, above.hasError = true

theorem Flagged.isFirst (flagged : root.Flagged) {spot : Spot} (first : IsFirst everywhere isFault root spot) :
    IsFirst (·.hasError) isFault root spot := by
  -- An error above the first one would come before it, so all of the way is flagged.
  have clear (above : Node) (member : above ∈ root.ancestors spot.path) : above.isError = false := by
    obtain ⟨upper, reached, before⟩ := first.reached.ancestor member
    refine Bool.eq_false_iff.mpr fun error => ?_
    rcases first.least ⟨upper, above⟩ reached (by simp [isFault, error]) with rfl | after
    · exact List.lt_irrefl _ before
    · exact List.lt_asymm before after
  have all := flagged spot.path spot.node first.reached first.is clear
  exact ⟨first.reached.of_all all, first.is, fun other reached is =>
    first.least other (reached.mono fun _ _ => rfl) is⟩

inductive Reported (rejected : List String) (root : Node) : Spot → Prop
  | fault {spot : Spot} (flag : root.hasError = true) (first : IsFirst everywhere isFault root spot) : Reported rejected root spot
  | whole (flag : root.hasError = true) (none : ∀ path node, Reaches everywhere root path node → node.isFault = false) :
      Reported rejected root ⟨[], root⟩
  | rejected {spot : Spot} (clean : root.hasError = false)
      (first : IsFirst (·.named) (fun node => rejected.contains node.kind) root spot) : Reported rejected root spot

theorem Reported.unique {rejected : List String} {spot other : Spot} (reported : Reported rejected root spot)
    (too : Reported rejected root other) : spot = other := by
  cases reported with
  | fault flag first =>
    cases too with
    | fault _ second => exact first.unique second
    | whole _ none => exact absurd first.is (by simp [none spot.path spot.node first.reached])
    | rejected clean _ => simp [flag] at clean
  | whole flag none =>
    cases too with
    | fault _ second => exact absurd second.is (by simp [none other.path other.node second.reached])
    | whole => rfl
    | rejected clean _ => simp [flag] at clean
  | rejected clean first =>
    cases too with
    | fault flag _ | whole flag _ => simp [flag] at clean
    | rejected _ second => exact first.unique second

theorem Flagged.firstError?_eq (flagged : root.Flagged) : root.firstError? = root.findFirst? everywhere isFault := by
  cases found : root.findFirst? everywhere isFault with
  | some node =>
    obtain ⟨spot, first, same⟩ := findFirst?_eq_some_iff.mp found
    exact findFirst?_eq_some_iff.mpr ⟨spot, flagged.isFirst first, same⟩
  | none =>
    refine findFirst?_eq_none_iff.mpr fun path node reached => ?_
    exact findFirst?_eq_none_iff.mp found path node (reached.mono fun _ _ => rfl)

theorem Flagged.offender?_eq_some_iff (flagged : root.Flagged) {rejected : List String} {node : Node} :
    root.offender? rejected = some node ↔ ∃ spot, Reported rejected root spot ∧ spot.node = node := by
  rw [offender?, flagged.firstError?_eq]
  cases flag : root.hasError with
  | true =>
    rw [if_pos rfl, Option.some_inj]
    have reported : ∃ spot, Reported rejected root spot ∧ spot.node = (root.findFirst? everywhere isFault).getD root := by
      cases found : root.findFirst? everywhere isFault with
      | some node =>
        obtain ⟨spot, first, same⟩ := findFirst?_eq_some_iff.mp found
        exact ⟨spot, .fault flag first, same⟩
      | none => exact ⟨⟨[], root⟩, .whole flag (findFirst?_eq_none_iff.mp found), rfl⟩
    obtain ⟨spot, is, same⟩ := reported
    constructor
    · rintro rfl
      exact ⟨spot, is, same⟩
    · rintro ⟨other, isToo, rfl⟩
      rw [← same, is.unique isToo]
  | false =>
    rw [if_neg (by simp), firstOfKind?, findFirst?_eq_some_iff]
    constructor
    · rintro ⟨spot, first, same⟩
      exact ⟨spot, .rejected flag first, same⟩
    · rintro ⟨spot, reported, same⟩
      cases reported with
      | fault set _ | whole set _ => simp [flag] at set
      | rejected _ first => exact ⟨spot, first, same⟩

theorem offender?_eq_none_iff {rejected : List String} :
    root.offender? rejected = none ↔
      root.hasError = false ∧ ∀ path node, Reaches (·.named) root path node → node.kind ∉ rejected := by
  rw [offender?]
  cases root.hasError with
  | true => simp
  | false => simp [firstOfKind?, findFirst?_eq_none_iff]

private theorem Reported.of_flag {rejected other : List String} {spot : Spot} (flag : root.hasError = true)
    (reported : Reported rejected root spot) : Reported other root spot := by
  cases reported with
  | fault _ first => exact .fault flag first
  | whole _ none => exact .whole flag none
  | rejected clean _ => simp [flag] at clean

private theorem reported_iff_of_clean {rejected : List String} {spot : Spot} (clean : root.hasError = false) :
    Reported rejected root spot ↔ IsFirst (·.named) (fun node => rejected.contains node.kind) root spot := by
  refine ⟨fun reported => ?_, .rejected clean⟩
  cases reported with
  | fault flag _ | whole flag _ => simp [clean] at flag
  | rejected _ first => exact first

theorem Reported.of_subset {rejected more : List String} (subset : rejected ⊆ more) {spot : Spot}
    (reported : Reported rejected root spot) : ∃ other, Reported more root other := by
  cases flag : root.hasError with
  | true => exact ⟨spot, reported.of_flag flag⟩
  | false =>
    have first := (reported_iff_of_clean flag).mp reported
    have is : more.contains spot.node.kind = true := by simpa using subset (by simpa using first.is)
    obtain ⟨other, -, isFirst⟩ := exists_isFirst (fun node => more.contains node.kind) first.reached is
    exact ⟨other, .rejected flag isFirst⟩

/-- Rejecting more kinds does not change an error, and else moves the report to the earlier of two. -/
theorem reported_append_iff {first second : List String} {spot : Spot} :
    Reported (first ++ second) root spot ↔
      (Reported first root spot ∧ ∀ other, Reported second root other → spot.NotAfter other) ∨
        (Reported second root spot ∧ ∀ other, Reported first root other → spot.NotAfter other) := by
  cases flag : root.hasError with
  | true =>
    constructor
    · exact fun reported => .inl ⟨reported.of_flag flag, fun other too => .inl (reported.unique (too.of_flag flag))⟩
    · rintro (⟨reported, -⟩ | ⟨reported, -⟩) <;> exact reported.of_flag flag
  | false =>
    simp only [reported_iff_of_clean flag]
    exact isFirst_or_iff fun node => by simp

theorem Reported.reached {rejected : List String} {spot : Spot} (reported : Reported rejected root spot) :
    Reaches everywhere root spot.path spot.node := by
  cases reported with
  | fault _ first => exact first.reached
  | whole => exact .here
  | rejected _ first => exact first.reached.mono fun _ _ => rfl

end Faults

section Checking
variable {root : Node}

/-- Positions do not go back from a node to those that are listed behind it. -/
def Ascends (root : Node) : Prop :=
  ∀ first second : Spot, Reaches everywhere root first.path first.node →
    Reaches everywhere root second.path second.node → first.Before second →
    first.node.position.toPosition ≤ second.node.position.toPosition

theorem checked_eq_ok_iff {rejected : List String} {tree : Node} :
    root.checked rejected = .ok tree ↔ tree = root ∧ root.offender? rejected = none := by
  rw [checked]
  cases root.offender? rejected <;> simp [eq_comm]

theorem Flagged.checked_eq_error_iff (flagged : root.Flagged) {rejected : List String} {position : Position} :
    root.checked rejected = .error position ↔
      ∃ spot, Reported rejected root spot ∧ position = spot.node.position.toPosition := by
  have offender : root.checked rejected = .error position ↔
      ∃ node, root.offender? rejected = some node ∧ position = node.position.toPosition := by
    rw [checked]
    cases root.offender? rejected <;> simp [eq_comm]
  rw [offender]
  simp only [flagged.offender?_eq_some_iff]
  constructor
  · rintro ⟨_, ⟨spot, reported, rfl⟩, same⟩
    exact ⟨spot, reported, same⟩
  · rintro ⟨spot, reported, same⟩
    exact ⟨spot.node, ⟨spot, reported, rfl⟩, same⟩

private theorem Ascends.position_le (ascends : root.Ascends) {first second : List String} {spot other : Spot}
    (reported : Reported first root spot) (too : Reported second root other) (notAfter : spot.NotAfter other) :
    spot.node.position.toPosition ≤ other.node.position.toPosition := by
  rcases notAfter with rfl | before
  · exact Position.le_refl _
  · exact ascends spot other reported.reached too.reached before

private theorem Flagged.error_append (flagged : root.Flagged) (ascends : root.Ascends)
    {first second both : List String} (subset : first ⊆ both)
    (either : ∀ spot, Reported both root spot → Reported first root spot ∨
      Reported second root spot ∧ ∀ other, Reported first root other → spot.NotAfter other)
    {position : Position} (fails : root.checked first = .error position)
    (least : ∀ other, root.checked second = .error other → position ≤ other) :
    root.checked both = .error position := by
  obtain ⟨spot, reported, rfl⟩ := flagged.checked_eq_error_iff.mp fails
  obtain ⟨found, isFound⟩ := reported.of_subset subset
  refine flagged.checked_eq_error_iff.mpr ⟨found, isFound, ?_⟩
  rcases either found isFound with same | ⟨isSecond, notAfter⟩
  · rw [same.unique reported]
  · have le := least _ (flagged.checked_eq_error_iff.mpr ⟨found, isSecond, rfl⟩)
    exact Position.eq_of_le_of_le le (ascends.position_le isSecond reported (notAfter spot reported))

theorem Flagged.checked_append_eq_error_iff (flagged : root.Flagged) (ascends : root.Ascends)
    {first second : List String} {position : Position} :
    root.checked (first ++ second) = .error position ↔
      (root.checked first = .error position ∧
        ∀ other, root.checked second = .error other → position ≤ other) ∨
      (root.checked second = .error position ∧
        ∀ other, root.checked first = .error other → position ≤ other) := by
  constructor
  · intro fails
    obtain ⟨spot, reported, rfl⟩ := flagged.checked_eq_error_iff.mp fails
    have least {kinds others : List String} (is : Reported kinds root spot)
        (notAfter : ∀ other, Reported others root other → spot.NotAfter other) (position : Position)
        (failsToo : root.checked others = .error position) : spot.node.position.toPosition ≤ position := by
      obtain ⟨other, too, rfl⟩ := flagged.checked_eq_error_iff.mp failsToo
      exact ascends.position_le is too (notAfter other too)
    rcases reported_append_iff.mp reported with ⟨is, notAfter⟩ | ⟨is, notAfter⟩
    · exact .inl ⟨flagged.checked_eq_error_iff.mpr ⟨spot, is, rfl⟩, least is notAfter⟩
    · exact .inr ⟨flagged.checked_eq_error_iff.mpr ⟨spot, is, rfl⟩, least is notAfter⟩
  · rintro (⟨fails, least⟩ | ⟨fails, least⟩)
    · refine flagged.error_append ascends (List.subset_append_left _ _) (fun spot reported => ?_) fails least
      exact (reported_append_iff.mp reported).imp_left (·.1)
    · refine flagged.error_append ascends (List.subset_append_right _ _) (fun spot reported => ?_) fails least
      exact (reported_append_iff.mp reported).symm.imp_left (·.1)

/-- A tree is accepted if it has neither an error nor a rejected kind, and else reported where the first
of them starts. Rejecting two lists of kinds together reports the earlier of what each of them reports. -/
theorem checked_reports_first (flagged : root.Flagged) :
    (∀ rejected tree, root.checked rejected = .ok tree ↔ tree = root ∧ root.hasError = false ∧
      ∀ path node, Reaches (·.named) root path node → node.kind ∉ rejected) ∧
    (∀ rejected position, root.checked rejected = .error position ↔
      ∃ spot, Reported rejected root spot ∧ position = spot.node.position.toPosition) ∧
    (∀ first second, (∃ position, root.checked (first ++ second) = .error position) ↔
      (∃ position, root.checked first = .error position) ∨ ∃ position, root.checked second = .error position) ∧
    (∀ first second spot, Reported (first ++ second) root spot ↔
      (Reported first root spot ∧ ∀ other, Reported second root other → spot.NotAfter other) ∨
        (Reported second root spot ∧ ∀ other, Reported first root other → spot.NotAfter other)) ∧
    (root.Ascends → ∀ first second position, root.checked (first ++ second) = .error position ↔
      (root.checked first = .error position ∧
        ∀ other, root.checked second = .error other → position ≤ other) ∨
      (root.checked second = .error position ∧
        ∀ other, root.checked first = .error other → position ≤ other)) := by
  refine ⟨fun rejected tree => ?_, fun rejected position => flagged.checked_eq_error_iff, fun first second => ?_,
    fun first second spot => reported_append_iff,
    fun ascends first second position => flagged.checked_append_eq_error_iff ascends⟩
  · rw [checked_eq_ok_iff, offender?_eq_none_iff]
  · have fails (rejected : List String) : (∃ position, root.checked rejected = .error position) ↔
        ∃ spot, Reported rejected root spot := by
      simp only [flagged.checked_eq_error_iff]
      exact ⟨fun ⟨_, spot, reported, _⟩ => ⟨spot, reported⟩, fun ⟨spot, reported⟩ => ⟨_, spot, reported, rfl⟩⟩
    rw [fails, fails, fails]
    constructor
    · rintro ⟨spot, reported⟩
      rcases reported_append_iff.mp reported with ⟨is, -⟩ | ⟨is, -⟩
      · exact .inl ⟨spot, is⟩
      · exact .inr ⟨spot, is⟩
    · rintro (⟨spot, is⟩ | ⟨spot, is⟩)
      · exact is.of_subset (List.subset_append_left _ _)
      · exact is.of_subset (List.subset_append_right _ _)

/-- A tree with an obsolete statement before its error. A node before them is flagged, but nothing in it
can be seen to be wrong, and the missing node inside of the error is not flagged. -/
def troubled : Node :=
  ⟨"module", true, 0, 9, ⟨0, 0, 0⟩, false, false, true,
    [⟨"expression_statement", true, 0, 1, ⟨0, 0, 0⟩, false, false, true,
        [⟨"identifier", true, 0, 1, ⟨0, 0, 0⟩, false, false, false, []⟩]⟩,
      ⟨"print_statement", true, 2, 4, ⟨2, 0, 2⟩, false, false, false,
        [⟨"print", false, 2, 4, ⟨2, 0, 2⟩, false, false, false, []⟩]⟩,
      ⟨"ERROR", true, 5, 9, ⟨5, 1, 0⟩, true, false, true, [⟨")", false, 9, 9, ⟨9, 1, 4⟩, false, true, false, []⟩]⟩]⟩

theorem checked_reports_first_troubled :
    troubled.Flagged ∧ troubled.Ascends ∧ ∃ spot, Reported Python.obsoleteStatements troubled spot ∧
      (⟨2, 1⟩ : Position) = spot.node.position.toPosition := by
  have flagged : troubled.Flagged := by
    intro path fault reached
    have member := mem_preorder.mpr (show Reaches everywhere troubled (Spot.mk path fault).path _ from reached)
    simp [troubled, preorder, preorderOfAll, everywhere, Spot.under] at member
    rcases member with ⟨rfl, rfl⟩ | ⟨rfl, rfl⟩ | ⟨rfl, rfl⟩ | ⟨rfl, rfl⟩ | ⟨rfl, rfl⟩ | ⟨rfl, rfl⟩ | ⟨rfl, rfl⟩ <;>
      simp [isFault, ancestors, troubled]
  have ascends : troubled.Ascends := by
    let places : List (List Nat × Position) := [([], ⟨1, 1⟩), ([0], ⟨1, 1⟩), ([0, 0], ⟨1, 1⟩), ([1], ⟨1, 3⟩),
      ([1, 0], ⟨1, 3⟩), ([2], ⟨2, 1⟩), ([2, 0], ⟨2, 5⟩)]
    have listed (spot : Spot) (reached : Reaches everywhere troubled spot.path spot.node) :
        (spot.path, spot.node.position.toPosition) ∈ places := by
      have member := mem_preorder.mpr reached
      simp [troubled, preorder, preorderOfAll, everywhere, Spot.under] at member
      rcases member with rfl | rfl | rfl | rfl | rfl | rfl | rfl <;> decide
    have ordered : ∀ one ∈ places, ∀ two ∈ places, one.1 < two.1 →
        one.2.line < two.2.line ∨ one.2.line = two.2.line ∧ one.2.column ≤ two.2.column := by decide
    exact fun first second one two before => ordered _ (listed first one) _ (listed second two) before
  have fails : troubled.checked Python.obsoleteStatements = .error ⟨2, 1⟩ := by rfl
  exact ⟨flagged, ascends, ((checked_reports_first flagged).2.1 _ _).mp fails⟩

end Checking

end Node

end SourceAtlas.Syntax
