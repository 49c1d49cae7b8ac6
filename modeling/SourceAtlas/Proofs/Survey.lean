import SourceAtlas.Proofs.Collection
import SourceAtlas.Survey

/-! A survey accounts for every collected file: it is in the report just if its text can be had
and its reader accepts it, and each failure is told once, in the order of the files. -/
namespace SourceAtlas
open FileSystem

section Texts
variable (fs : FileSystem) (limit : Option Nat) (path : Path)

/-- The text of a file that can be opened and is within the limit. -/
inductive HasText : String → Prop
  | intro {location : Location} {content : Bytes} {locked : Bool}
      (opened : fs.openEntry path = .ok (location, .file content locked))
      (within : ∀ most ∈ limit, content.length ≤ most) : HasText (Bytes.toText content)

/-- Why there is no text. The size is looked at before the file is opened. -/
inductive LacksText : Problem → Prop
  | tooLarge {location : Location} {entry : Entry} {most : Nat} (found : fs.status path = .ok (location, entry))
      (limited : limit = some most) (above : most < fs.sizeOf location entry) :
      LacksText (.tooLarge path (fs.sizeOf location entry) most)
  | unopened {fault : Fault}
      (within : ∀ location entry, fs.status path = .ok (location, entry) →
        ∀ most ∈ limit, fs.sizeOf location entry ≤ most)
      (closed : fs.openEntry path = .error fault) : LacksText (.unreadable path fault.message)
  | otherThanFile {location : Location} {entry : Entry} (opened : fs.openEntry path = .ok (location, entry))
      (within : ∀ most ∈ limit, fs.sizeOf location entry ≤ most)
      (other : ∀ content locked, entry ≠ .file content locked) :
      LacksText (.unreadable path Fault.isDirectory.message)

variable {fs limit path}

theorem LacksText.kind {problem : Problem} (lacks : LacksText fs limit path problem) :
    problem.kind = "read" ∨ problem.kind = "size" := by
  cases lacks with
  | tooLarge => exact .inr rfl
  | unopened => exact .inl rfl
  | otherThanFile => exact .inl rfl

theorem status_of_openEntry {found : Location × Entry} (opened : fs.openEntry path = .ok found) :
    fs.status path = .ok found := by
  unfold openEntry at opened
  cases reached : fs.status path with
  | error fault => simp [reached, bind, Except.bind] at opened
  | ok item =>
    rw [reached] at opened
    simp only [bind, Except.bind] at opened
    split at opened
    · cases opened
    · cases opened
    · cases opened
      rfl

private theorem read_of_openEntry {location : Location} {content : Bytes} {locked : Bool}
    (opened : fs.openEntry path = .ok (location, .file content locked)) : fs.read path = .ok content := by
  simp [FileSystem.read, opened, bind, Except.bind, pure, Except.pure]

private theorem size_of_status {location : Location} {entry : Entry} (found : fs.status path = .ok (location, entry)) :
    fs.size path = .ok (fs.sizeOf location entry) := by
  simp [FileSystem.size, found, bind, Except.bind, pure, Except.pure]

private theorem read_of_other {location : Location} {entry : Entry}
    (other : ∀ content locked, entry ≠ .file content locked) (opened : fs.openEntry path = .ok (location, entry)) :
    fs.read path = .error .isDirectory := by
  cases entry with
  | file content locked => exact absurd rfl (other content locked)
  | directory | link => simp [FileSystem.read, opened, bind, Except.bind, throw, throwThe, MonadExceptOf.throw]

private theorem readText_of_fits (fits : ∀ most ∈ limit, ∃ size, fs.size path = .ok size ∧ size ≤ most) :
    readText fs limit path = match fs.read path with
      | .ok content => .ok (Bytes.toText content)
      | .error fault => .error (.unreadable path fault.message) := by
  cases limit with
  | none =>
    unfold readText
    cases fs.read path <;> rfl
  | some most =>
    obtain ⟨size, measured, small⟩ := fits most rfl
    have notAbove := Nat.not_lt.mpr small
    simp only [readText, measured, Except.mapError, bind, Except.bind, notAbove, if_false, pure, Except.pure]
    cases fs.read path <;> rfl

theorem HasText.readText {text : String} (has : HasText fs limit path text) :
    readText fs limit path = .ok text := by
  obtain ⟨opened, within⟩ := has
  have measured := size_of_status (status_of_openEntry opened)
  rw [readText_of_fits fun most limited => ⟨_, measured, within most limited⟩, read_of_openEntry opened]

theorem LacksText.readText {problem : Problem} (lacks : LacksText fs limit path problem) :
    readText fs limit path = .error problem := by
  cases lacks with
  | tooLarge found limited above =>
    simp only [SourceAtlas.readText, size_of_status found, limited, above, bind, Except.bind, Except.mapError,
      if_true]
    rfl
  | @unopened fault within closed =>
    have unread : fs.read path = .error fault := by simp [FileSystem.read, closed, bind, Except.bind]
    cases reached : fs.status path with
    | error reason =>
      have same : fs.openEntry path = .error reason := by simp [openEntry, reached, bind, Except.bind]
      obtain rfl : fault = reason := by
        rw [closed] at same
        exact Except.error.inj same
      have unmeasured : fs.size path = .error fault := by simp [FileSystem.size, reached, bind, Except.bind]
      cases limit with
      | none => simp [SourceAtlas.readText, unread, bind, Except.bind, Except.mapError]
      | some most => simp [SourceAtlas.readText, unmeasured, bind, Except.bind, Except.mapError]
    | ok found =>
      have measured := size_of_status reached
      rw [readText_of_fits fun most limited => ⟨_, measured, within _ _ reached most limited⟩, unread]
  | @otherThanFile location entry opened within other =>
    have measured := size_of_status (status_of_openEntry opened)
    rw [readText_of_fits fun most limited => ⟨_, measured, within most limited⟩, read_of_other other opened]

private theorem text_or_problem (fs : FileSystem) (limit : Option Nat) (path : Path) :
    (∃ text, HasText fs limit path text) ∨ ∃ problem, LacksText fs limit path problem := by
  by_cases large : ∃ location entry most, fs.status path = .ok (location, entry) ∧
      limit = some most ∧ most < fs.sizeOf location entry
  · obtain ⟨location, entry, most, found, limited, above⟩ := large
    exact .inr ⟨_, .tooLarge found limited above⟩
  have within : ∀ location entry, fs.status path = .ok (location, entry) →
      ∀ most ∈ limit, fs.sizeOf location entry ≤ most := by
    intro location entry found most limited
    by_contra above
    exact large ⟨location, entry, most, found, limited, by omega⟩
  cases opened : fs.openEntry path with
  | error fault => exact .inr ⟨_, .unopened within opened⟩
  | ok found =>
    rcases found with ⟨location, entry⟩
    have small := within _ _ (status_of_openEntry opened)
    cases entry with
    | file content locked => exact .inl ⟨_, .intro opened small⟩
    | directory | link => exact .inr ⟨_, .otherThanFile opened small (by simp)⟩

theorem readText_eq_ok_iff {text : String} : readText fs limit path = .ok text ↔ HasText fs limit path text := by
  refine ⟨fun read => ?_, HasText.readText⟩
  rcases text_or_problem fs limit path with ⟨other, has⟩ | ⟨problem, lacks⟩
  · rw [has.readText] at read
    exact Except.ok.inj read ▸ has
  · rw [lacks.readText] at read
    cases read

theorem readText_eq_error_iff {problem : Problem} :
    readText fs limit path = .error problem ↔ LacksText fs limit path problem := by
  refine ⟨fun failed => ?_, LacksText.readText⟩
  rcases text_or_problem fs limit path with ⟨text, has⟩ | ⟨other, lacks⟩
  · rw [has.readText] at failed
    cases failed
  · rw [lacks.readText] at failed
    exact Except.error.inj failed ▸ lacks

end Texts

section Outlines
variable (fs : FileSystem) (registry : Registry) (limit : Option Nat) (file : SourceFile)

/-- The outline of a file in a language that is read. -/
inductive IsOutline : Outline → Prop
  | intro {text : String} {outline : Outline}
      (supported : (registry.forExtension file.extension?).isSupported = true)
      (has : HasText fs limit file.location text)
      (accepted : (registry.forExtension file.extension?).outline text file.location = .ok outline) :
      IsOutline outline

/-- Why a file in a language that is read has no outline. -/
inductive LacksOutline : Problem → Prop
  | unread {problem : Problem} (supported : (registry.forExtension file.extension?).isSupported = true)
      (lacks : LacksText fs limit file.location problem) : LacksOutline problem
  | rejected {text : String} {problem : Problem}
      (supported : (registry.forExtension file.extension?).isSupported = true)
      (has : HasText fs limit file.location text)
      (refused : (registry.forExtension file.extension?).outline text file.location = .error problem) :
      LacksOutline problem

variable {fs registry limit file}

/-- What a reader refuses is told as the reader itself tells it, whatever kind that is. -/
theorem LacksOutline.kind {problem : Problem} (lacks : LacksOutline fs registry limit file problem) :
    problem.kind ∈ ["read", "size"] ∨ ∃ text, HasText fs limit file.location text ∧
      (registry.forExtension file.extension?).outline text file.location = .error problem := by
  cases lacks with
  | unread _ lacks =>
    left
    rcases lacks.kind with same | same <;> simp [same]
  | rejected _ has refused => exact .inr ⟨_, has, refused⟩

theorem LacksOutline.supported {problem : Problem} (lacks : LacksOutline fs registry limit file problem) :
    (registry.forExtension file.extension?).isSupported = true := by
  cases lacks with
  | unread supported | rejected supported => exact supported

/-- The readers that come with the library. -/
inductive LanguageReader.Provided : LanguageReader → Prop
  | python : Provided .python
  | patterns (reader : PatternReader) : Provided (.patterns reader)
  | unsupported : Provided .unsupported

def Registry.Provided (registry : Registry) : Prop :=
  ∀ entry ∈ registry.readers, entry.2.Provided

theorem LanguageReader.Provided.kind {reader : LanguageReader} (provided : reader.Provided) {text : String}
    {path : Path} {problem : Problem} (refused : reader.outline text path = .error problem) :
    problem.kind = "parse" := by
  cases provided with
  | python =>
    simp only [LanguageReader.python] at refused
    generalize Python.outline text = result at refused
    cases result with
    | error place =>
      rw [← Except.error.inj refused]
      rfl
    | ok outline => cases refused
  | patterns reader => simp [LanguageReader.patterns] at refused
  | unsupported => simp [LanguageReader.unsupported] at refused

theorem Registry.Provided.forExtension {registry : Registry} (provided : registry.Provided) (extension : Option String) :
    (registry.forExtension extension).Provided := by
  rw [Registry.forExtension]
  cases found : extension.bind (Keyed.find? · registry.readers) with
  | none => exact .unsupported
  | some reader =>
    obtain ⟨known, -, stored⟩ := Option.bind_eq_some_iff.mp found
    exact provided _ (Keyed.mem_of_find? stored)

theorem Registry.provided_default : Registry.default.Provided := by
  have readers : Registry.default.readers = [("java", .patterns .java), ("js", .patterns .ecmascript),
      ("jsx", .patterns .ecmascript), ("py", .python), ("ts", .patterns .ecmascript),
      ("tsx", .patterns .ecmascript)] := rfl
  rw [Registry.Provided, readers]
  simp only [List.forall_mem_cons]
  exact ⟨.patterns _, .patterns _, .patterns _, .python, .patterns _, .patterns _, by simp⟩

theorem IsOutline.outlineFile {outline : Outline} (is : IsOutline fs registry limit file outline) :
    outlineFile fs registry limit file =
      .ok (some (outline, (registry.forExtension file.extension?).language)) := by
  obtain ⟨supported, has, accepted⟩ := is
  simp [SourceAtlas.outlineFile, supported, has.readText, accepted, bind, Except.bind, pure, Except.pure]

theorem LacksOutline.outlineFile {problem : Problem} (lacks : LacksOutline fs registry limit file problem) :
    outlineFile fs registry limit file = .error problem := by
  cases lacks with
  | unread supported lacks =>
    simp [SourceAtlas.outlineFile, supported, lacks.readText, bind, Except.bind]
  | rejected supported has refused =>
    simp [SourceAtlas.outlineFile, supported, has.readText, refused, bind, Except.bind]

private theorem outlineFile_cases (fs : FileSystem) (registry : Registry) (limit : Option Nat) (file : SourceFile) :
    outlineFile fs registry limit file = .ok none ∨ (∃ outline, IsOutline fs registry limit file outline) ∨
      ∃ problem, LacksOutline fs registry limit file problem := by
  cases supported : (registry.forExtension file.extension?).isSupported with
  | false =>
    left
    simp [outlineFile, supported, pure, Except.pure]
  | true =>
    right
    rcases text_or_problem fs limit file.location with ⟨text, has⟩ | ⟨problem, lacks⟩
    · cases result : (registry.forExtension file.extension?).outline text file.location with
      | error problem => exact .inr ⟨problem, .rejected supported has result⟩
      | ok outline => exact .inl ⟨outline, .intro supported has result⟩
    · exact .inr ⟨problem, .unread supported lacks⟩

theorem reportedOutline_eq_some_iff {outline : Outline} :
    reportedOutline (outlineFile fs registry limit file) = some outline ↔
      IsOutline fs registry limit file outline ∧ outline.isEmpty = false := by
  constructor
  · intro reported
    rcases outlineFile_cases fs registry limit file with none | ⟨other, is⟩ | ⟨problem, lacks⟩
    · rw [none] at reported
      cases reported
    · rw [is.outlineFile, reportedOutline] at reported
      split_ifs at reported with empty
      rw [← Option.some.inj reported]
      exact ⟨is, by simpa using empty⟩
    · rw [lacks.outlineFile] at reported
      cases reported
  · rintro ⟨is, nonempty⟩
    rw [is.outlineFile, reportedOutline, if_neg (by simp [nonempty])]

theorem outlineFile_eq_error_iff {problem : Problem} :
    outlineFile fs registry limit file = .error problem ↔ LacksOutline fs registry limit file problem := by
  refine ⟨fun failed => ?_, LacksOutline.outlineFile⟩
  rcases outlineFile_cases fs registry limit file with none | ⟨outline, is⟩ | ⟨other, lacks⟩
  · rw [none] at failed
    cases failed
  · rw [is.outlineFile] at failed
    cases failed
  · rw [lacks.outlineFile] at failed
    exact Except.error.inj failed ▸ lacks

end Outlines

section Failures

def toWarning (failure : SourceFile × Problem) : Warning :=
  Warning.ofProblem failure.1.location failure.2

/-- Each file that fails is told once, in the order of the files. -/
inductive Told (fails : SourceFile → Problem → Prop) : List SourceFile → List (SourceFile × Problem) → Prop
  | nil : Told fails [] []
  | silent {file : SourceFile} {files : List SourceFile} {told : List (SourceFile × Problem)}
      (fine : ∀ problem, ¬ fails file problem) (rest : Told fails files told) : Told fails (file :: files) told
  | failed {file : SourceFile} {files : List SourceFile} {told : List (SourceFile × Problem)} {problem : Problem}
      (failure : fails file problem) (rest : Told fails files told) :
      Told fails (file :: files) ((file, problem) :: told)

theorem Told.fails {fails : SourceFile → Problem → Prop} {files : List SourceFile}
    {told : List (SourceFile × Problem)} (account : Told fails files told) :
    ∀ failure ∈ told, fails failure.1 failure.2 := by
  induction account with
  | nil => simp
  | silent fine rest ih => exact ih
  | failed failure rest ih => exact List.forall_mem_cons.mpr ⟨failure, ih⟩

theorem Told.surveyed {fails : SourceFile → Problem → Prop} {files : List SourceFile}
    {told : List (SourceFile × Problem)} (account : Told fails files told) : ∀ failure ∈ told, failure.1 ∈ files := by
  induction account with
  | nil => simp
  | silent fine rest ih => exact fun failure inside => .tail _ (ih failure inside)
  | failed failure rest ih =>
    exact List.forall_mem_cons.mpr ⟨.head _, fun failure inside => .tail _ (ih failure inside)⟩

variable {α : Type}

def failures (attempt : SourceFile → Except Problem α) (files : List SourceFile) : List (SourceFile × Problem) :=
  files.filterMap fun file =>
    match attempt file with
    | .error problem => some (file, problem)
    | .ok _ => none

theorem told_failures {fails : SourceFile → Problem → Prop} {attempt : SourceFile → Except Problem α}
    (meaning : ∀ file problem, attempt file = .error problem ↔ fails file problem) (files : List SourceFile) :
    Told fails files (failures attempt files) := by
  induction files with
  | nil => exact .nil
  | cons file files ih =>
    cases result : attempt file with
    | error problem =>
      have told : failures attempt (file :: files) = (file, problem) :: failures attempt files := by
        simp [failures, result]
      rw [told]
      exact .failed ((meaning file problem).mp result) ih
    | ok value =>
      have told : failures attempt (file :: files) = failures attempt files := by simp [failures, result]
      rw [told]
      refine .silent (fun problem failure => ?_) ih
      rw [(meaning file problem).mpr failure] at result
      cases result

end Failures

section Accounts
variable (fs : FileSystem) (registry : Registry) (limit : Option Nat)

def LacksDocument (file : SourceFile) (problem : Problem) : Prop :=
  Documentation.isDocumentation file.name = true ∧ LacksText fs limit file.location problem

def readDocument (file : SourceFile) : Except Problem (Option String) :=
  if Documentation.isDocumentation file.name then (readText fs limit file.location).map some else .ok none

variable {fs limit} in
theorem readDocument_eq_error_iff (file : SourceFile) (problem : Problem) :
    readDocument fs limit file = .error problem ↔ LacksDocument fs limit file problem := by
  rw [LacksDocument, ← readText_eq_error_iff, readDocument]
  cases Documentation.isDocumentation file.name with
  | false => simp
  | true => cases readText fs limit file.location <;> simp [Except.map]

theorem warnings_gatherOutlines (files : List SourceFile) :
    warnings (gatherOutlines fs registry limit files).notes =
      (failures (outlineFile fs registry limit) files).map toWarning := by
  induction files with
  | nil => rfl
  | cons file files ih =>
    have first : warnings (gatherOutlines fs registry limit (file :: files)).notes =
        warnings (outlineNotes file (outlineFile fs registry limit file)) ++
          warnings (gatherOutlines fs registry limit files).notes := by
      simp [gatherOutlines, warnings, List.filterMap_append]
    rw [first, ih]
    cases result : outlineFile fs registry limit file with
    | error problem =>
      simp [failures, result, outlineNotes, warnings, Note.warning?, toWarning]
    | ok found =>
      have silent : warnings (outlineNotes file (.ok found)) = [] := by
        rcases found with _ | ⟨outline, language⟩ <;> rfl
      simp [failures, result, silent]

theorem warnings_gatherDocuments (files : List SourceFile) :
    warnings (gatherDocuments fs limit files).notes =
      (failures (readDocument fs limit) files).map toWarning := by
  induction files with
  | nil => rfl
  | cons file files ih =>
    cases documentation : Documentation.isDocumentation file.name with
    | false =>
      have first : gatherDocuments fs limit (file :: files) = gatherDocuments fs limit files := by
        simp [gatherDocuments, documentation]
      rw [first, ih]
      simp [failures, readDocument, documentation]
    | true =>
      cases result : readText fs limit file.location with
      | error problem =>
        have first : warnings (gatherDocuments fs limit (file :: files)).notes =
            toWarning (file, problem) :: warnings (gatherDocuments fs limit files).notes := by
          simp [gatherDocuments, documentation, result, warnings, Note.warning?, toWarning]
        rw [first, ih]
        simp [failures, readDocument, documentation, result, Except.map]
      | ok text =>
        have first : (gatherDocuments fs limit (file :: files)).notes = (gatherDocuments fs limit files).notes := by
          simp [gatherDocuments, documentation, result]
        rw [first, ih]
        simp [failures, readDocument, documentation, result, Except.map]

variable {files : List SourceFile} (distinct : ∀ file ∈ files, ∀ other ∈ files, file.key = other.key → file = other)
include distinct

section Entries
variable {α : Type} {value : SourceFile → Option α}

omit distinct in
private theorem mem_entries {entry : String × α} :
    entry ∈ files.filterMap (fun file => (value file).map (file.key, ·)) ↔
      ∃ file ∈ files, file.key = entry.1 ∧ value file = some entry.2 := by
  simp only [List.mem_filterMap, Option.map_eq_some_iff, Prod.ext_iff]
  constructor
  · rintro ⟨file, inside, found, holds, named, rfl⟩
    exact ⟨file, inside, named, holds⟩
  · rintro ⟨file, inside, named, holds⟩
    exact ⟨file, inside, entry.2, holds, named, rfl⟩

theorem entries_consistent : ∀ left ∈ files.filterMap (fun file => (value file).map (file.key, ·)),
    ∀ right ∈ files.filterMap (fun file => (value file).map (file.key, ·)), left.1 = right.1 → left = right := by
  intro left leftIn right rightIn same
  obtain ⟨file, inside, named, holds⟩ := mem_entries.mp leftIn
  obtain ⟨other, otherInside, otherNamed, otherHolds⟩ := mem_entries.mp rightIn
  obtain rfl := distinct file inside other otherInside (by rw [named, otherNamed, same])
  rw [holds] at otherHolds
  exact Prod.ext same (Option.some.inj otherHolds)

private theorem mem_ofList_files {key : String} {item : α} :
    (key, item) ∈ Keyed.ofList (files.filterMap fun file => (value file).map (file.key, ·)) ↔
      ∃ file ∈ files, file.key = key ∧ value file = some item := by
  rw [Keyed.mem_ofList (entries_consistent distinct), mem_entries]

end Entries

theorem mem_gatherOutlines (key : String) (outline : Outline) :
    (key, outline) ∈ (gatherOutlines fs registry limit files).entries ↔
      ∃ file ∈ files, file.key = key ∧ IsOutline fs registry limit file outline ∧ outline.isEmpty = false := by
  simp only [gatherOutlines, List.filterMap_map, Function.comp_def, mem_ofList_files distinct,
    reportedOutline_eq_some_iff]

theorem mem_gatherDocuments (key text : String) :
    (key, text) ∈ (gatherDocuments fs limit files).entries ↔
      ∃ file ∈ files, file.key = key ∧ Documentation.isDocumentation file.name = true ∧
        HasText fs limit file.location text := by
  have toOption {file : SourceFile} :
      (readText fs limit file.location).toOption = some text ↔ HasText fs limit file.location text := by
    rw [← readText_eq_ok_iff]
    cases readText fs limit file.location <;> simp [Except.toOption]
  have among : ∀ file ∈ files.filter (fun file => Documentation.isDocumentation file.name),
      ∀ other ∈ files.filter (fun file => Documentation.isDocumentation file.name),
      file.key = other.key → file = other := fun file inside other otherInside =>
    distinct file (List.mem_filter.mp inside).1 other (List.mem_filter.mp otherInside).1
  simp only [gatherDocuments, List.filterMap_map, Function.comp_def, mem_ofList_files among, toOption,
    List.mem_filter]
  constructor
  · rintro ⟨file, ⟨inside, documentation⟩, named, has⟩
    exact ⟨file, inside, named, documentation, has⟩
  · rintro ⟨file, inside, named, documentation, has⟩
    exact ⟨file, ⟨inside, documentation⟩, named, has⟩

end Accounts

def surveyedFiles (fs : FileSystem) (options : Options) : List SourceFile :=
  (scan fs options.root options.followLinks).tree.collect options.addressing options.baseDirectory

theorem outlines_analyze (fs : FileSystem) (registry : Registry) (options : Options) :
    (analyze fs registry options).report.outlines =
      (gatherOutlines fs registry options.sizeLimit (surveyedFiles fs options)).entries := rfl

theorem documents_analyze (fs : FileSystem) (registry : Registry) (options : Options) :
    (analyze fs registry options).report.documents =
      (gatherDocuments fs options.sizeLimit (surveyedFiles fs options)).entries := rfl

theorem warnings_analyze (fs : FileSystem) (registry : Registry) (options : Options) :
    (analyze fs registry options).warnings = warnings (scan fs options.root options.followLinks).notes ++
      (failures (outlineFile fs registry options.sizeLimit) (surveyedFiles fs options) ++
        failures (readDocument fs options.sizeLimit) (surveyedFiles fs options)).map toWarning := by
  rw [List.map_append, ← warnings_gatherOutlines, ← warnings_gatherDocuments]
  simp [Analysis.warnings, analyze, warnings, surveyedFiles, List.filterMap_append, List.filterMap_cons,
    Note.warning?]

/-- What a survey reports and tells about each file that it deals with. Behind what is told on the way to the files, only
files of a language that is read and documentation are told of. A text that a reader refuses is told as the reader tells
it; the readers of the library only ever say that it cannot be parsed. -/
theorem analyze_accounts (fs : FileSystem) (sound : fs.WellFormed) (registry : Registry) (options : Options) :
    (analyze fs registry options).report.tree = (scan fs options.root options.followLinks).tree ∧
    Keyed.Ordered (analyze fs registry options).report.outlines ∧
    (∀ key outline, (key, outline) ∈ (analyze fs registry options).report.outlines ↔
      ∃ file ∈ surveyedFiles fs options, file.key = key ∧
        IsOutline fs registry options.sizeLimit file outline ∧ outline.isEmpty = false) ∧
    Keyed.Ordered (analyze fs registry options).report.documents ∧
    (∀ key text, (key, text) ∈ (analyze fs registry options).report.documents ↔
      ∃ file ∈ surveyedFiles fs options, file.key = key ∧
        Documentation.isDocumentation file.name = true ∧ HasText fs options.sizeLimit file.location text) ∧
    ∃ outlining reading,
      (analyze fs registry options).warnings =
        warnings (scan fs options.root options.followLinks).notes ++ (outlining ++ reading).map toWarning ∧
      Told (LacksOutline fs registry options.sizeLimit) (surveyedFiles fs options) outlining ∧
      (∀ failure ∈ outlining, failure.2.kind ∈ ["read", "size"] ∨
        ∃ text, HasText fs options.sizeLimit failure.1.location text ∧
          (registry.forExtension failure.1.extension?).outline text failure.1.location = .error failure.2) ∧
      (registry.Provided → ∀ failure ∈ outlining, failure.2.kind ∈ ["read", "size", "parse"]) ∧
      Told (LacksDocument fs options.sizeLimit) (surveyedFiles fs options) reading ∧
      (∀ failure ∈ reading, failure.2.kind ∈ ["read", "size"]) ∧
      ∀ failure ∈ outlining ++ reading, failure.1 ∈ surveyedFiles fs options ∧
        ((registry.forExtension failure.1.extension?).isSupported = true ∨
          Documentation.isDocumentation failure.1.name = true) := by
  have distinct : ∀ file ∈ surveyedFiles fs options, ∀ other ∈ surveyedFiles fs options,
      file.key = other.key → file = other := fun file member other otherMember same =>
    (scan_unslashed sound options.root options.followLinks).collect_injective member otherMember same
  have outlining : Told (LacksOutline fs registry options.sizeLimit) (surveyedFiles fs options) _ :=
    told_failures (fun file problem => outlineFile_eq_error_iff) _
  have reading : Told (LacksDocument fs options.sizeLimit) (surveyedFiles fs options) _ :=
    told_failures readDocument_eq_error_iff _
  rw [outlines_analyze, documents_analyze]
  refine ⟨rfl, Keyed.Ordered.ofList _, ?_, Keyed.Ordered.ofList _, ?_, _, _,
    warnings_analyze fs registry options, outlining, ?_, ?_, reading, ?_, ?_⟩
  · exact mem_gatherOutlines fs registry options.sizeLimit distinct
  · exact mem_gatherDocuments fs options.sizeLimit distinct
  · exact fun failure inside => (outlining.fails failure inside).kind
  · intro provided failure inside
    rcases (outlining.fails failure inside).kind with same | ⟨text, -, refused⟩
    · exact List.mem_append_left ["parse"] same
    · simp [(provided.forExtension _).kind refused]
  · intro failure inside
    rcases (reading.fails failure inside).2.kind with same | same <;> simp [same]
  · intro failure inside
    rcases List.mem_append.mp inside with inside | inside
    · exact ⟨outlining.surveyed failure inside, .inl (outlining.fails failure inside).supported⟩
    · exact ⟨reading.surveyed failure inside, .inr (reading.fails failure inside).1⟩

/-- A directory with a documentation file, one that cannot be opened, and a file of no language. -/
def documentedSystem : FileSystem where
  top := .directory [(Path.ofText "p", .directory
    [(Path.ofText "README.md", .file (Bytes.ofText "# hé") false),
     (Path.ofText "notes.txt", .file [0xFF] false),
     (Path.ofText "readme.py", .file [0x78] true)] false)] false
  working := []

theorem analyze_accounts_documented :
    documentedSystem.WellFormed ∧
    ("README.md", "# hé") ∈ (analyze documentedSystem .default { root := Path.ofText "p" }).report.documents ∧
    Registry.default.Provided ∧
    ∃ outlining reading, (analyze documentedSystem .default { root := Path.ofText "p" }).warnings =
        List.map toWarning (outlining ++ reading) ∧
      ∀ failure ∈ outlining, failure.2.kind ∈ ["read", "size", "parse"] := by
  have sound : documentedSystem.WellFormed := by decide +kernel
  obtain ⟨-, -, -, -, documents, outlining, reading, told, -, -, kinds, -⟩ :=
    analyze_accounts documentedSystem sound .default { root := Path.ofText "p" }
  have unhindered : warnings (scan documentedSystem (Path.ofText "p") false).notes = [] := by decide +kernel
  refine ⟨sound, (documents "README.md" "# hé").mpr ?_, Registry.provided_default, outlining, reading, ?_,
    kinds Registry.provided_default⟩
  · refine ⟨⟨"README.md", "README.md", Path.ofText "p/README.md"⟩, by decide +kernel, rfl, by decide +kernel, ?_⟩
    have opened : documentedSystem.openEntry (Path.ofText "p/README.md") =
        .ok ([Path.ofText "p", Path.ofText "README.md"], .file (Bytes.ofText "# hé") false) := rfl
    have text : Bytes.toText (Bytes.ofText "# hé") = "# hé" := Bytes.toText_ofText _
    rw [← text]
    exact .intro opened (by decide +kernel)
  · rw [told, unhindered, List.nil_append]

/-- Refuses every text, and blames the way to it. -/
def refusingReader : LanguageReader where
  language := "refused"
  outline _ path := .error (.unwalkable path "refused")

/-- A directory `r` with a link to a file of no language, which is written as if the file were a directory. -/
def linkedSystem : FileSystem where
  top := .directory
    [(Path.ofText "k", .directory [(Path.ofText "a.txt", .file [] false)] false),
     (Path.ofText "r", .directory [(Path.ofText "a.txt", .link (Path.ofText "../k/a.txt/"))] false)] false
  working := []

/-- A reader from elsewhere brings in a kind of its own, and where links are followed, a file of no language can be told
of: on the way to it. -/
theorem analyze_tells_foreign_kinds :
    (warnings (scan documentedSystem (Path.ofText "p") false).notes = [] ∧
      (analyze documentedSystem (Registry.empty.register ["txt"] refusingReader) { root := Path.ofText "p" }).warnings.map
        (fun warning => (warning.path, warning.kind)) = [("p/notes.txt", "walk"), ("p/readme.py", "read")]) ∧
    linkedSystem.top.at? [Path.ofText "k", Path.ofText "a.txt"] = some (.file [] false) ∧
    (Registry.default.forPath (Path.ofText "r/a.txt")).isSupported = false ∧
    Documentation.isDocumentation "a.txt" = false ∧
    (analyze linkedSystem .default { root := Path.ofText "r", followLinks := true }).warnings.map
      (fun warning => (warning.path, warning.kind)) = [("r/a.txt", "walk")] := by
  refine ⟨⟨?_, ?_⟩, rfl, ?_, ?_, ?_⟩ <;> decide +kernel

end SourceAtlas
