import SourceAtlas.Proofs.Ledger
import SourceAtlas.Proofs.Survey

/-! What a survey tells while it runs agrees with its summary and with its report. The notes about
single entries come from its stages; those that give a number each stand once between them. -/
namespace SourceAtlas

def Note.isDetail : Note → Bool
  | skipped _ | warned _ _ | outlined _ _ _ => true
  | _ => false

def headlines (notes : List Note) : List Note :=
  notes.filter fun note => !note.isDetail

theorem headlines_append (notes more : List Note) : headlines (notes ++ more) = headlines notes ++ headlines more :=
  List.filter_append notes more

theorem headlines_cons {note : Note} (general : note.isDetail = false) (notes : List Note) :
    headlines (note :: notes) = note :: headlines notes :=
  List.filter_cons_of_pos (by simp [general])

theorem count_headlines {note : Note} (general : note.isDetail = false) (notes : List Note) :
    (headlines notes).count note = notes.count note :=
  List.count_filter (by simp [general])

section Stages
variable (fs : FileSystem) (registry : Registry) (limit : Option Nat)

private theorem headlines_eq_nil {notes : List Note} (details : ∀ note ∈ notes, note.isDetail = true) :
    headlines notes = [] := by
  apply List.filter_eq_nil_iff.mpr
  intro note member
  simp [details note member]

theorem headlines_scan (root : Path) (follow : Bool) : headlines (scan fs root follow).notes = [] := by
  apply headlines_eq_nil
  intro note member
  obtain ⟨finding, -, told⟩ := List.mem_filterMap.mp member
  cases finding with
  | directory | file => cases told
  | directoryLink | failure | loop =>
    cases told
    rfl

theorem headlines_gatherOutlines (files : List SourceFile) :
    headlines (gatherOutlines fs registry limit files).notes = [] := by
  apply headlines_eq_nil
  intro note member
  obtain ⟨⟨file, result⟩, -, told⟩ := List.mem_flatMap.mp member
  cases result with
  | error problem =>
    rw [List.mem_singleton.mp told]
    rfl
  | ok found =>
    cases found with
    | none => cases told
    | some outline =>
      rw [List.mem_singleton.mp told]
      rfl

theorem headlines_gatherDocuments (files : List SourceFile) :
    headlines (gatherDocuments fs limit files).notes = [] := by
  apply headlines_eq_nil
  intro note member
  obtain ⟨⟨file, result⟩, -, told⟩ := List.mem_filterMap.mp member
  cases result with
  | ok text => cases told
  | error problem =>
    cases told
    rfl

end Stages

section Messages

theorem messages_warned (elapsed : String) (notes : List Note) :
    (notes.filter fun note => note.level = .warn).map (·.message elapsed) = (warnings notes).map (·.message) := by
  induction notes with
  | nil => rfl
  | cons note notes ih =>
    cases note with
    | warned path problem =>
      simp only [warnings, Note.level, Note.warning?, List.filter_cons, List.filterMap_cons, decide_true, if_true,
        List.map_cons] at ih ⊢
      rw [ih]
      rfl
    | scanning | skipped | found | outlined | outlinedAll | documented | saved | failed | finished => exact ih

theorem filter_error (notes : List Note) :
    (notes.filter fun note => note.level = .error) = (headlines notes).filter fun note => note.level = .error := by
  rw [headlines, List.filter_filter]
  apply List.filter_congr
  intro note _
  cases note <;> rfl

end Messages

section Surveys
variable (fs : FileSystem) (registry : Registry) (options : Options)

theorem headlines_analyze : headlines (analyze fs registry options).notes =
    [.scanning options.root, .found (analyze fs registry options).report.tree.fileCount,
      .outlinedAll (analyze fs registry options).report.outlines.length,
      .documented (analyze fs registry options).report.documents.length] := by
  have length : (surveyedFiles fs options).length = (scan fs options.root options.followLinks).tree.fileCount :=
    Directory.length_collectFrom _ _ [] _
  have told : (analyze fs registry options).notes =
      (.scanning options.root :: (scan fs options.root options.followLinks).notes) ++
      (.found (surveyedFiles fs options).length ::
        (gatherOutlines fs registry options.sizeLimit (surveyedFiles fs options)).notes) ++
      (.outlinedAll (analyze fs registry options).report.outlines.length ::
        (gatherDocuments fs options.sizeLimit (surveyedFiles fs options)).notes) ++
      [.documented (analyze fs registry options).report.documents.length] := rfl
  rw [told, headlines_append, headlines_append, headlines_append, headlines_cons rfl, headlines_scan,
    headlines_cons rfl, headlines_gatherOutlines, headlines_cons rfl, headlines_gatherDocuments, length]
  rfl

inductive Closes : (saved : Bool) → Note → Prop
  | saved (output : Path) : Closes true (.saved output)
  | failed (problem : Problem) : Closes false (.failed problem)

theorem Closes.general {saved : Bool} {outcome : Note} (closes : Closes saved outcome) :
    outcome.isDetail = false := by
  cases closes <;> rfl

def conclusion (warned : List Warning) : List Note :=
  if warned.isEmpty then [] else [.finished warned.length]

def stages : List ((Nat → Note) × (Summary → Nat)) :=
  [(.found, (·.files)), (.outlinedAll, (·.outlines)), (.documented, (·.documents))]

def announced (root : Path) (summary : Summary) (outcome : Note) : List Note :=
  [.scanning root, .found summary.files, .outlinedAll summary.outlines, .documented summary.documents, outcome] ++
    conclusion summary.warnings

section Announced
variable {root : Path} {summary : Summary} {saved : Bool} {outcome : Note} (closes : Closes saved outcome)

private theorem count_conclusion (note : Note) (warned : List Warning) : (conclusion warned).count note =
    if 0 < warned.length ∧ .finished warned.length = note then 1 else 0 := by
  cases warned with
  | nil => simp [conclusion]
  | cons warning rest => simp [conclusion, List.count_singleton]

include closes

/-- Each stage is told once, with its number in the summary. -/
theorem Closes.count_stage {stage : Nat → Note} {number : Summary → Nat} (among : (stage, number) ∈ stages)
    (count : Nat) : (announced root summary outcome).count (stage count) = if number summary = count then 1 else 0 := by
  simp only [stages, List.mem_cons, Prod.mk.injEq, List.not_mem_nil, or_false] at among
  rcases among with ⟨rfl, rfl⟩ | ⟨rfl, rfl⟩ | ⟨rfl, rfl⟩ <;> cases closes <;>
    simp [announced, count_conclusion, List.count_cons]

theorem Closes.count_finished (count : Nat) : (announced root summary outcome).count (.finished count) =
    if 0 < summary.warnings.length ∧ summary.warnings.length = count then 1 else 0 := by
  cases closes <;> simp [announced, count_conclusion]

theorem Closes.count_error : ((announced root summary outcome).filter fun note => note.level = .error).length =
    if saved then 0 else 1 := by
  have ending : (conclusion summary.warnings).filter (fun note => note.level = .error) = [] := by
    rw [conclusion]
    split <;> rfl
  rw [announced, List.filter_append, ending]
  cases closes <;> rfl

theorem Closes.warnings_eq_nil (warned : List Warning) : warnings (outcome :: conclusion warned) = [] := by
  rw [conclusion]
  cases closes <;> split <;> rfl

end Announced

theorem notes_survey : ∃ outcome, Closes (survey fs registry options).summary.saved outcome ∧
    (survey fs registry options).notes = (analyze fs registry options).notes ++
      (outcome :: conclusion (analyze fs registry options).warnings) := by
  cases written : fs.write options.output
      (Bytes.ofText ((analyze fs registry options).report.format Report.defaultIndent)) with
  | ok after =>
    refine ⟨.saved options.output, ?_, ?_⟩
    · simp only [survey, written]
      exact .saved options.output
    · simp only [survey, written, conclusion]
  | error fault =>
    refine ⟨.failed (.unsaved options.output fault.message), ?_, ?_⟩
    · simp only [survey, written]
      exact .failed _
    · simp only [survey, written, conclusion]

theorem headlines_survey : ∃ outcome, Closes (survey fs registry options).summary.saved outcome ∧
    headlines (survey fs registry options).notes =
      announced options.root (survey fs registry options).summary outcome := by
  obtain ⟨outcome, closes, told⟩ := notes_survey fs registry options
  have ending : headlines (conclusion (analyze fs registry options).warnings) =
      conclusion (analyze fs registry options).warnings := by
    rw [conclusion]
    split <;> rfl
  refine ⟨outcome, closes, ?_⟩
  rw [told, headlines_append, headlines_analyze, headlines_cons closes.general, ending]
  rfl

theorem warnings_survey :
    warnings (survey fs registry options).notes = (survey fs registry options).summary.warnings := by
  obtain ⟨outcome, closes, told⟩ := notes_survey fs registry options
  rw [told, warnings, List.filterMap_append, ← warnings, ← warnings, closes.warnings_eq_nil, List.append_nil]
  rfl

theorem getLast?_survey (some : 0 < (survey fs registry options).summary.warnings.length) :
    (survey fs registry options).notes.getLast? =
      .some (.finished (survey fs registry options).summary.warnings.length) := by
  obtain ⟨outcome, -, told⟩ := notes_survey fs registry options
  have ending : conclusion (survey fs registry options).summary.warnings =
      [.finished (survey fs registry options).summary.warnings.length] := by
    rw [conclusion, if_neg]
    simpa [List.length_pos_iff] using some
  have summarized : (survey fs registry options).summary.warnings = (analyze fs registry options).warnings := rfl
  rw [told, ← summarized, ending]
  simp

/-- The notes of a survey against its summary, and the summary against the report. -/
structure Tallies (elapsed : String) (report : Report) (completed : Completed) : Prop where
  warned : (completed.notes.filter fun note => note.level = .warn).map (·.message elapsed) =
    completed.summary.warnings.map (·.message)
  failed : (completed.notes.filter fun note => note.level = .error).length =
    if completed.summary.saved then 0 else 1
  found : ∀ count, completed.notes.count (.found count) = if completed.summary.files = count then 1 else 0
  files : completed.summary.files = report.tree.fileCount
  outlinedAll : ∀ count, completed.notes.count (.outlinedAll count) =
    if completed.summary.outlines = count then 1 else 0
  outlines : completed.summary.outlines = report.outlines.length ∧ (report.outlines.map (·.1)).Nodup
  documented : ∀ count, completed.notes.count (.documented count) =
    if completed.summary.documents = count then 1 else 0
  documents : completed.summary.documents = report.documents.length ∧ (report.documents.map (·.1)).Nodup
  finished : ∀ count, completed.notes.count (.finished count) =
    if 0 < completed.summary.warnings.length ∧ completed.summary.warnings.length = count then 1 else 0
  last : 0 < completed.summary.warnings.length →
    completed.notes.getLast? = some (.finished completed.summary.warnings.length)

theorem survey_tallies (elapsed : String) :
    Tallies elapsed (analyze fs registry options).report (survey fs registry options) := by
  obtain ⟨outcome, closes, headlined⟩ := headlines_survey fs registry options
  have counted {note : Note} (general : note.isDetail = false) : (survey fs registry options).notes.count note =
      (announced options.root (survey fs registry options).summary outcome).count note := by
    rw [← count_headlines general, headlined]
  exact {
    warned := by rw [messages_warned, warnings_survey]
    failed := by rw [filter_error, headlined, closes.count_error]
    found := fun count => (counted rfl).trans (closes.count_stage (.head _) count)
    files := rfl
    outlinedAll := fun count => (counted rfl).trans (closes.count_stage (.tail _ (.head _)) count)
    outlines := ⟨rfl, (Keyed.Ordered.ofList _).keys_nodup⟩
    documented := fun count => (counted rfl).trans (closes.count_stage (.tail _ (.tail _ (.head _))) count)
    documents := ⟨rfl, (Keyed.Ordered.ofList _).keys_nodup⟩
    finished := fun count => (counted rfl).trans (closes.count_finished count)
    last := getLast?_survey fs registry options }

end Surveys

end SourceAtlas
