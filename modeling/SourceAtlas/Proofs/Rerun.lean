import SourceAtlas.Proofs.Writing

/-! Surveys that are run again. A survey may scan its own report, but as long as it does not read
it, only the content of that one file can change after the first run, and nothing depends on it. -/
namespace SourceAtlas
open FileSystem

theorem FileSystem.Entry.put_self {top old : Entry} {target : Location} (stored : top.at? target = some old) :
    top.put target old = top := by
  have setSelf {name : Name} {child : Entry} {entries : List (Name × Entry)}
      (named : findNamed? name entries = some child) : setNamed name child entries = entries := by
    induction entries with
    | nil => cases named
    | cons item rest ih =>
      rcases item with ⟨other, entry⟩
      by_cases same : other = name
      · simp only [findNamed?, same, if_true, Option.some.injEq] at named
        simp [setNamed, same, named]
      · simp only [findNamed?, same, if_false] at named
        simp [setNamed, same, ih named]
  induction target generalizing top with
  | nil => simpa [at?, put] using stored.symm
  | cons name rest ih =>
    cases top with
    | file | link => cases stored
    | directory entries locked =>
      obtain ⟨child, named, below⟩ := Option.bind_eq_some_iff.mp stored
      rw [put_child named, ih below, setSelf named]

def isRead (registry : Registry) (file : SourceFile) : Bool :=
  (registry.forExtension file.extension?).isSupported || Documentation.isDocumentation file.name

section Reading
variable {target : Location} {fs other : FileSystem} (differ : DifferOnlyAt target fs other)
  {registry : Registry} (limit : Option Nat) {files : List SourceFile}
  (away : ∀ file ∈ files, isRead registry file = true → fs.leadsTo target file.location = false)
include differ away

theorem gatherOutlines_of_away :
    gatherOutlines other registry limit files = gatherOutlines fs registry limit files := by
  have each : ∀ file ∈ files, outlineFile other registry limit file = outlineFile fs registry limit file := by
    intro file inside
    unfold outlineFile
    cases supported : (registry.forExtension file.extension?).isSupported with
    | false => simp only [supported, Bool.not_false, if_true]
    | true => rw [differ.readText_eq (away file inside (by simp [isRead, supported]))]
  have results : (files.map fun file => (file, outlineFile other registry limit file)) =
      files.map fun file => (file, outlineFile fs registry limit file) :=
    List.map_congr_left fun file inside => by rw [each file inside]
  simp only [gatherOutlines, results]

theorem gatherDocuments_of_away : gatherDocuments other limit files = gatherDocuments fs limit files := by
  have results : ((files.filter fun file => Documentation.isDocumentation file.name).map fun file =>
        (file, readText other limit file.location)) =
      (files.filter fun file => Documentation.isDocumentation file.name).map fun file =>
        (file, readText fs limit file.location) := by
    refine List.map_congr_left fun file inside => ?_
    obtain ⟨member, documentation⟩ := List.mem_filter.mp inside
    rw [differ.readText_eq (away file member (by simp [isRead, documentation]))]
  simp only [gatherDocuments, results]

end Reading

theorem analyze_of_away {target : Location} {fs other : FileSystem} (differ : DifferOnlyAt target fs other)
    {registry : Registry} {options : Options}
    (away : ∀ file ∈ surveyedFiles fs options, isRead registry file = true →
      fs.leadsTo target file.location = false) :
    analyze other registry options = analyze fs registry options := by
  have scans := differ.scan_eq options.root options.followLinks
  have outlines := gatherOutlines_of_away differ options.sizeLimit away
  have documents := gatherDocuments_of_away differ options.sizeLimit away
  rw [surveyedFiles] at outlines documents
  simp only [analyze, scans, outlines, documents]

theorem survey_congr {fs other after : FileSystem} {registry : Registry} {options : Options}
    (same : analyze other registry options = analyze fs registry options)
    (written : fs.write options.output (savedBytes fs registry options) = .ok after)
    (again : other.write options.output (savedBytes fs registry options) = .ok after) :
    survey other registry options = survey fs registry options := by
  rw [savedBytes] at written again
  simp only [survey, same, written, again]

/-- A survey that writes over a file that it does not read comes to the same when it is run again. -/
theorem survey_again {fs : FileSystem} {registry : Registry} {options : Options} {location : Location}
    {content : Bytes} (unslashed : options.output.getLast? ≠ some Path.slash)
    (found : fs.status options.output = .ok (location, .file content false))
    (away : ∀ file ∈ surveyedFiles fs options, isRead registry file = true →
      fs.leadsTo location file.location = false) :
    survey (survey fs registry options).fs registry options = survey fs registry options ∧
      (survey fs registry options).summary.saved = true ∧
      (survey fs registry options).fs.status options.output =
        .ok (location, .file (savedBytes fs registry options) false) := by
  have target : IsTarget fs options.output location := .old found
  have written := write_of_target unslashed target (savedBytes fs registry options)
  obtain ⟨changed, saved⟩ := survey_of_write fs registry options written
  have same := analyze_of_away (differOnlyAt_put (status_at? found) (savedBytes fs registry options)) away
  have there := target.status (savedBytes fs registry options)
  -- The second run writes what the first has written, over that.
  have again := write_of_target unslashed (.old there) (savedBytes fs registry options)
  rw [Entry.put_self (status_at? there)] at again
  rw [changed]
  exact ⟨survey_congr same written again, saved, there⟩

theorem FileSystem.leadsTo_unique {fs : FileSystem} {path : Path} {location other : Location}
    (leads : fs.leadsTo location path = true) (leadsOther : fs.leadsTo other path = true) : location = other := by
  cases found : fs.status path with
  | error fault => simp [leadsTo, found] at leads
  | ok result =>
    simp only [leadsTo, found, decide_eq_true_eq] at leads leadsOther
    exact leads.symm.trans leadsOther

section Runs
variable (fs : FileSystem) (registry : Registry) (options : Options)

def surveys : Nat → Completed
  | 0 => survey fs registry options
  | runs + 1 => survey (surveys runs).fs registry options

/-- Once a report has been saved, and if no file that is read from then on leads to it, all surveys
after the first save the same bytes, come to the same and leave the same files. -/
theorem surveys_settle (saved : (survey fs registry options).summary.saved = true)
    (unread : ∀ file ∈ surveyedFiles (survey fs registry options).fs options, isRead registry file = true →
      ∀ location, (survey fs registry options).fs.leadsTo location options.output = true →
        (survey fs registry options).fs.leadsTo location file.location = false) (runs : Nat) :
    surveys fs registry options (runs + 1) = surveys fs registry options 1 ∧
      (surveys fs registry options (runs + 1)).summary.saved = true ∧
      (surveys fs registry options (runs + 1)).fs.read options.output =
        .ok (savedBytes (survey fs registry options).fs registry options) := by
  cases written : fs.write options.output (savedBytes fs registry options) with
  | error fault =>
    rw [(survey_of_fault fs registry options written).2] at saved
    cases saved
  | ok after =>
    obtain ⟨location, unslashed, leads, rfl⟩ := target_of_write written
    have changed := (survey_of_write fs registry options written).1
    have found := leads.status (savedBytes fs registry options)
    rw [← changed] at found
    have away := fun file inside read => unread file inside read location (by simp [leadsTo, found])
    obtain ⟨fixed, savedAgain, there⟩ := survey_again unslashed found away
    have settled : surveys fs registry options (runs + 1) = surveys fs registry options 1 := by
      induction runs with
      | zero => rfl
      | succ runs ih =>
        rw [surveys, ih]
        exact fixed
    rw [settled]
    refine ⟨rfl, savedAgain, ?_⟩
    have second : surveys fs registry options 1 = survey (survey fs registry options).fs registry options := rfl
    simp [second, FileSystem.read, openEntry, there, bind, Except.bind, pure, Except.pure]

theorem surveys_settle_inside :
    (survey documentedSystem .default insideOptions).summary.saved = true ∧
    (survey documentedSystem .default insideOptions).summary.files = 3 ∧
    (surveys documentedSystem .default insideOptions 1).summary.files = 4 ∧
    surveys documentedSystem .default insideOptions 3 = surveys documentedSystem .default insideOptions 1 := by
  have saved : (survey documentedSystem .default insideOptions).summary.saved = true := by decide +kernel
  have output : (survey documentedSystem .default insideOptions).fs.leadsTo
      [Path.ofText "p", Path.ofText "o"] insideOptions.output = true := by decide +kernel
  have unread : ∀ file ∈ surveyedFiles (survey documentedSystem .default insideOptions).fs insideOptions,
      isRead .default file = true → (survey documentedSystem .default insideOptions).fs.leadsTo
        [Path.ofText "p", Path.ofText "o"] file.location = false := by decide +kernel
  refine ⟨saved, by decide +kernel, by decide +kernel,
    (surveys_settle documentedSystem .default insideOptions saved ?_ 2).1⟩
  intro file inside read location there
  rw [leadsTo_unique there output]
  exact unread file inside read

end Runs

end SourceAtlas
