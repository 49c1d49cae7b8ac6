import SourceAtlas.Proofs.ReportRoundTrip

/-! Whatever text a report was read from, the report is read back from its written form. A reader
returns no directories deeper than its levels allow, and their written form takes no more levels
than that, although it may be laid out in another way than what was read. -/
namespace SourceAtlas

namespace Json.Reader
variable {α β : Type}

/-- What holds of all that a reader returns. It may fail instead. -/
def Returns (reader : Reader α) (holds : α → Prop) : Prop :=
  ∀ progress value after, runOn reader progress = (.ok value, after) → holds value

section Laws
variable {reader : Reader α} {next : α → Reader β} {holds : α → Prop} {goal : β → Prop}

theorem returns_pure {value : α} (given : holds value) : Returns (pure value) holds := by
  intro progress result after returned
  rw [runOn_pure] at returned
  cases returned
  exact given

theorem returns_throw (fault : Fault) : Returns (throw fault) holds := by
  intro progress result after returned
  rw [runOn_throw] at returned
  cases returned

theorem Returns.bind (first : Returns reader holds) (second : ∀ value, holds value → Returns (next value) goal) :
    Returns (reader >>= next) goal := by
  intro progress result after returned
  rw [runOn_bind] at returned
  split at returned
  · rename_i value middle read
    exact second value (first progress value middle read) middle result after returned
  · cases returned

theorem Returns.after (second : ∀ value, Returns (next value) goal) : Returns (reader >>= next) goal := by
  have first : Returns reader fun _ => True := fun _ _ _ _ => trivial
  exact first.bind fun value _ => second value

theorem returns_failAtNext (cause : Cause) : Returns (failAtNext cause) holds :=
  .after fun _ => returns_throw _

theorem Returns.withPlace (returns : Returns reader holds) : Returns (Reader.withPlace reader) holds := by
  intro progress result after returned
  rw [Reader.withPlace, runOn_tryCatch] at returned
  split at returned
  · rename_i value middle read
    cases returned
    exact returns progress result after read
  · rename_i fault middle failed
    have placeless : Returns (do throw { fault with place := some (← get).place }) holds :=
      .after fun _ => returns_throw _
    cases place : fault.place with
    | some spot =>
      rw [place] at returned
      exact returns_throw fault middle result after returned
    | none =>
      rw [place] at returned
      exact placeless middle result after returned

theorem Returns.endedBy {ending : Reader Unit} (returns : Returns reader holds) :
    Returns (Reader.endedBy reader ending) holds := by
  have observed : Returns (observing reader) fun outcome => ∀ value, outcome = .ok value → holds value := by
    intro progress outcome after returned value same
    rw [runOn_observing] at returned
    cases returned
    exact returns progress value (runOn reader progress).2 (Prod.ext same rfl)
  refine observed.bind fun outcome known => ?_
  cases outcome with
  | ok value => exact .after fun _ => returns_pure (known value rfl)
  | error fault => exact .after fun _ => returns_throw fault

theorem returns_deeper {levels : Nat} {body : Nat → Reader α}
    (inside : ∀ less, levels = less + 1 → Returns (body less) holds) : Returns (deeper levels body) holds := by
  cases levels with
  | zero => exact returns_failAtNext _
  | succ less => exact inside less rfl

theorem returns_unexpected (expected : String) : Returns (unexpected expected) holds :=
  Returns.withPlace (.after fun _ => returns_throw _)

theorem returns_members {value : Reader α} (each : Returns value holds) (fuel : Nat) (first : Bool) :
    Returns (members value fuel first) fun items => ∀ item ∈ items, holds item.2 := by
  induction fuel generalizing first with
  | zero => exact returns_pure (by simp)
  | succ fuel ih =>
    refine .after fun key => ?_
    cases key with
    | none => exact returns_pure (by simp)
    | some key =>
      refine .after fun _ => each.bind fun item good => (ih false).bind fun items others => ?_
      exact returns_pure (List.forall_mem_cons.mpr ⟨good, others⟩)

theorem returns_object {levels : Nat} {value : Nat → Reader α}
    (each : ∀ less, levels = less + 1 → Returns (value less) holds) :
    Returns (object levels value) fun items => 0 < levels ∧ ∀ item ∈ items, holds item.2 := by
  refine .after fun start => ?_
  split
  · refine returns_deeper fun less enough => .after fun _ => .after fun progress => ?_
    apply Returns.withPlace
    apply Returns.endedBy
    intro before items after returned
    exact ⟨by omega, returns_members (each less enough) _ _ before items after returned⟩
  · exact returns_unexpected _

theorem Returns.of_run {reader : Nat → Reader α} (returns : Returns (reader maxLevels) holds) {text : String}
    {value : α} (accepted : run reader text = .ok value) : holds value := by
  have whole : Returns (do let value ← reader maxLevels; finished; return value) holds :=
    returns.bind fun value good => .after fun _ => returns_pure good
  rw [run] at accepted
  split at accepted
  · rename_i result done
    cases accepted
    exact whole { rest := Bytes.ofText text } value _ (Prod.ext done rfl)
  · cases accepted

end Laws

end Json.Reader

namespace Report
open SourceAtlas.Json SourceAtlas.Json.Reader SourceAtlas.Json.Value

section Records
variable {α : Type} {holds : α → Prop}

theorem returns_record {name : String} {levels : Nat} {asList asObject : Nat → Reader α}
    (bodies : ∀ less, levels = less + 1 → Returns (asList less) holds ∧ Returns (asObject less) holds) :
    Returns (record name levels asList asObject) holds := by
  refine .after fun start => ?_
  split
  · refine returns_deeper fun less enough => .after fun _ => ?_
    exact (bodies less enough).1.endedBy.withPlace
  · split
    · refine returns_deeper fun less enough => .after fun _ => ?_
      exact (bodies less enough).2.endedBy.withPlace
    · exact returns_unexpected _

theorem returns_setField {name : String} {old : Option α} {value : Reader α} (reads : Returns value holds) :
    Returns (setField name old value) fun field => ∀ given ∈ field, holds given := by
  have taken : Returns (do Reader.colon; return some (← value)) fun field => ∀ given ∈ field, holds given :=
    .after fun _ => reads.bind fun given good => returns_pure (by simpa using good)
  unfold setField
  split
  · exact .after fun _ => taken
  · exact taken

theorem returns_requireField (name : String) (field : Option α) : Returns (requireField name field) (· ∈ field) := by
  cases field with
  | none => exact returns_throw _
  | some value => exact returns_pure rfl

theorem returns_fieldAt {name : String} {count index : Nat} {value : Reader α} (reads : Returns value holds) :
    Returns (fieldAt name count index value) holds := by
  refine .after fun more => ?_
  split
  · exact reads
  · exact returns_throw _

end Records

section Directories

def Fits (levels : Nat) (node : Directory) : Prop :=
  node.isOrdered = true ∧ 2 * node.depth + 2 ≤ levels

theorem fits_ofList {levels : Nat} {items : List (String × Directory)} (each : ∀ item ∈ items, Fits levels item.2)
    (files : List String) : Fits (levels + 2) ⟨Keyed.ofList items, files⟩ := by
  have kept : ∀ item ∈ Keyed.ofList items, Fits levels item.2 := fun item inside =>
    each item (Keyed.mem_of_mem_ofList inside)
  constructor
  · rw [Directory.isOrdered_iff]
    exact ⟨Keyed.Ordered.ofList items, fun item inside => (kept item inside).1⟩
  · by_contra deep
    have lower : levels / 2 < (Directory.mk (Keyed.ofList items) files).depth := by omega
    obtain ⟨item, inside, below⟩ := (Directory.lt_depth_iff _ _ _).mp lower
    have := (kept item inside).2
    omega

section Fields
variable {directories : Reader (List (String × Directory))} {files : Reader (List String)}
  {holds : List (String × Directory) → Prop} (reads : Returns directories holds)
include reads

theorem returns_directoryMembers (fuel : Nat) (first : Bool) {fields : DirectoryFields}
    (before : ∀ items ∈ fields.directories, holds items) :
    Returns (directoryMembers directories files fuel first fields) fun after =>
      ∀ items ∈ after.directories, holds items := by
  induction fuel generalizing first fields with
  | zero => exact returns_pure before
  | succ fuel ih =>
    refine .after fun key => ?_
    split
    · exact returns_pure before
    · exact (returns_setField reads).bind fun field good => ih false good
    · exact .after fun field => ih false before
    · exact .after fun _ => ih false before

variable {goal : Directory → Prop} (made : ∀ items files, holds items → goal ⟨Keyed.ofList items, files⟩)
include made

theorem returns_directoryFromList : Returns (directoryFromList directories files) goal := by
  refine (returns_fieldAt reads).bind fun items good => .after fun files => ?_
  exact returns_pure (made items files good)

theorem returns_directoryFromMembers : Returns (directoryFromMembers directories files) goal := by
  have nothing : ∀ items ∈ ({} : DirectoryFields).directories, holds items := by simp
  refine .after fun progress => (returns_directoryMembers reads _ true nothing).bind fun fields good => ?_
  refine (returns_requireField _ _).bind fun items given => .after fun files => ?_
  exact returns_pure (made items files (good items given))

end Fields

theorem returns_directory (levels : Nat) : Returns (directory levels) (Fits levels) := by
  induction levels using Nat.twoStepInduction with
  | zero => exact returns_record fun less enough => by omega
  | one =>
    -- There is no level left for the subdirectories, which have to be given.
    have subdirectories : Returns (object 0 fun _ => (return .empty : Reader Directory)) fun items =>
        0 < 0 ∧ ∀ item ∈ items, Fits 0 item.2 := returns_object fun less enough => absurd enough (by omega)
    have made : ∀ items files, (0 < 0 ∧ ∀ item ∈ items, Fits 0 item.2) → Fits 1 ⟨Keyed.ofList items, files⟩ :=
      fun items files none => absurd none.1 (by omega)
    refine returns_record fun less _ => ⟨?_, ?_⟩
    · exact returns_directoryFromList subdirectories made
    · exact returns_directoryFromMembers subdirectories made
  | more levels ih _ =>
    have subdirectories : Returns (object (levels + 1) fun _ => directory levels) fun items =>
        0 < levels + 1 ∧ ∀ item ∈ items, Fits levels item.2 := returns_object fun less enough => ih
    refine returns_record fun less _ => ⟨?_, ?_⟩
    · exact returns_directoryFromList subdirectories fun items files each => fits_ofList each.2 files
    · exact returns_directoryFromMembers subdirectories fun items files each => fits_ofList each.2 files

end Directories

section Reports

theorem returns_outlineMap (levels : Nat) : Returns (outlineMap levels) Keyed.Ordered :=
  .after fun items => returns_pure (Keyed.Ordered.ofList items)

theorem returns_documentMap (levels : Nat) : Returns (documentMap levels) Keyed.Ordered :=
  .after fun items => returns_pure (Keyed.Ordered.ofList items)

/-- What holds of the parts of a report that have been read. -/
structure Sound (levels : Nat) (fields : ReportFields) : Prop where
  tree : ∀ tree ∈ fields.tree, Fits levels tree
  outlines : ∀ outlines ∈ fields.outlines, Keyed.Ordered outlines
  documents : ∀ documents ∈ fields.documents, Keyed.Ordered documents

theorem returns_reportMembers (levels fuel : Nat) (first : Bool) {fields : ReportFields} (sound : Sound levels fields) :
    Returns (reportMembers levels fuel first fields) (Sound levels) := by
  induction fuel generalizing first fields with
  | zero => exact returns_pure sound
  | succ fuel ih =>
    refine .after fun key => ?_
    split
    · exact returns_pure sound
    · split_ifs
      · refine (returns_setField (returns_directory levels)).bind fun field good => ?_
        exact ih false { sound with tree := good }
      · refine (returns_setField (returns_outlineMap levels)).bind fun field good => ?_
        exact ih false { sound with outlines := good }
      · refine (returns_setField (returns_documentMap levels)).bind fun field good => ?_
        exact ih false { sound with documents := good }
      · exact .after fun _ => ih false sound

theorem returns_report (levels : Nat) :
    Returns (report (levels + 1)) fun content => content.Ordered ∧ Fits levels content.tree := by
  refine returns_record fun less enough => ?_
  obtain rfl : less = levels := by omega
  constructor
  · refine (returns_fieldAt (returns_directory less)).bind fun tree fits => ?_
    refine (returns_fieldAt (returns_outlineMap less)).bind fun outlines outlinesOrdered => ?_
    refine (returns_fieldAt (returns_documentMap less)).bind fun documents documentsOrdered => ?_
    exact returns_pure ⟨⟨fits.1, outlinesOrdered, documentsOrdered⟩, fits⟩
  · have nothing : Sound less {} := ⟨by simp, by simp, by simp⟩
    refine .after fun progress => (returns_reportMembers less _ true nothing).bind fun fields sound => ?_
    refine (returns_requireField _ _).bind fun tree inTree => ?_
    refine (returns_requireField _ _).bind fun outlines inOutlines => ?_
    refine (returns_requireField _ _).bind fun documents inDocuments => ?_
    have fits := sound.tree tree inTree
    exact returns_pure ⟨⟨fits.1, sound.outlines _ inOutlines, sound.documents _ inDocuments⟩, fits⟩

/-- A report that was read from any text is read back from its own, which is written again as it is. -/
theorem ofJson_format_accepted (indent : Bytes) (blank : IsBlank indent) (text : String) (content : Report)
    (accepted : ofJson text = .ok content) :
    ofJson (content.format indent) = .ok content ∧ content.tree.depth ≤ 62 ∧
      (ofJson (content.format indent)).map (format indent) = .ok (content.format indent) := by
  obtain ⟨ordered, fits⟩ := (returns_report 126).of_run accepted
  have shallow : content.tree.depth ≤ 62 := by
    have := fits.2
    omega
  have read := ofJson_format_of_shallow blank ordered shallow
  refine ⟨read, shallow, ?_⟩
  rw [read]
  rfl

/-- A report in another form than it is written in: as a list, with fields in another order, with a
key given twice and an unknown field. -/
def foreignText : String :=
  "[[\x7b\"b\": \x7b\"files\": [\"\\u0078\"], \"size\": [1], \"directories\": \x7b\x7d\x7d," ++
    " \"a\": [\x7b\x7d, []]\x7d, []], \x7b\"m\": [[\"A\"], [], []]\x7d, \x7b\"d\": \"\", \"d\": \"/\"\x7d]"

def foreignReport : Report where
  tree := ⟨[("a", ⟨[], []⟩), ("b", ⟨[], ["x"]⟩)], []⟩
  outlines := [("m", ⟨["A"], [], []⟩)]
  documents := [("d", "/")]

theorem ofJson_format_accepted_foreign : ofJson foreignText = .ok foreignReport ∧
    ofJson (foreignReport.format [0x09]) = .ok foreignReport := by
  have accepted : ofJson foreignText = .ok foreignReport := by decide +kernel
  exact ⟨accepted, (ofJson_format_accepted [0x09] (by decide) foreignText foreignReport accepted).1⟩

end Reports

end Report

end SourceAtlas
