import SourceAtlas.Proofs.Skeleton
import SourceAtlas.Proofs.Survey

/-! What one file contains reaches a report only through the keys that open that file. -/
namespace SourceAtlas
open FileSystem

namespace FileSystem

/-- Two file systems with the same directories, links, locks and files, in which at most the
file at one location has another content. -/
structure DifferOnlyAt (target : Location) (fs other : FileSystem) : Prop where
  working : fs.working = other.working
  sizes : fs.directorySize = other.directorySize
  skeleton : fs.top.skeleton = other.top.skeleton
  contents : ∀ location, location ≠ target → ∀ content locked,
    fs.top.at? location = some (.file content locked) → other.top.at? location = some (.file content locked)

def leadsTo (fs : FileSystem) (target : Location) (path : Path) : Bool :=
  match fs.status path with
  | .ok (location, _) => decide (location = target)
  | .error _ => false

namespace DifferOnlyAt
variable {target : Location} {fs other : FileSystem} (differ : DifferOnlyAt target fs other)
include differ

theorem skeleton_eq : other.skeleton = fs.skeleton := by
  rw [FileSystem.skeleton, FileSystem.skeleton, differ.working, differ.sizes, differ.skeleton]

theorem scan_eq (root : Path) (follow : Bool) : scan other root follow = scan fs root follow := by
  rw [← scan_skeleton other, differ.skeleton_eq, scan_skeleton]

private theorem status_eq (path : Path) :
    (∃ fault, fs.status path = .error fault ∧ other.status path = .error fault) ∨
      ∃ location entry changed, fs.status path = .ok (location, entry) ∧
        other.status path = .ok (location, changed) ∧ changed.skeleton = entry.skeleton := by
  have same : (other.status path).map (fun found => (found.1, found.2.skeleton)) =
      (fs.status path).map fun found => (found.1, found.2.skeleton) := by
    rw [status, status, ← lookup_skeleton, ← lookup_skeleton, differ.skeleton_eq]
  generalize fs.status path = result at same ⊢
  generalize other.status path = otherResult at same ⊢
  rcases result with fault | ⟨location, entry⟩
  · rcases otherResult with otherFault | found
    · exact .inl ⟨fault, rfl, congrArg Except.error (Except.error.inj same)⟩
    · cases same
  · rcases otherResult with otherFault | ⟨otherLocation, changed⟩
    · cases same
    · obtain ⟨rfl, bones⟩ := Prod.mk.inj (Except.ok.inj same)
      exact .inr ⟨otherLocation, entry, changed, rfl, rfl, bones⟩

variable {path : Path} (away : fs.leadsTo target path = false)
include away

private theorem size_read_eq : other.size path = fs.size path ∧ other.read path = fs.read path := by
  rcases differ.status_eq path with ⟨fault, failed, otherFailed⟩ | ⟨location, entry, changed, found, otherFound, bones⟩
  · simp [FileSystem.size, FileSystem.read, openEntry, failed, otherFailed, bind, Except.bind]
  · have apart : location ≠ target := by simpa [leadsTo, found] using away
    cases entry with
    | file content locked =>
      -- Only here something of the content is seen, and away from the target it is the same file.
      have kept := differ.contents location apart content locked (status_at? found)
      rw [status_at? otherFound] at kept
      rw [Option.some.inj kept] at otherFound
      simp [FileSystem.size, sizeOf, FileSystem.read, openEntry, found, otherFound, bind, Except.bind]
    | directory entries locked =>
      cases changed with
      | file content otherLocked => cases bones
      | link link => cases bones
      | directory otherEntries otherLocked =>
        obtain rfl : otherLocked = locked := (Entry.directory.inj bones).2
        cases otherLocked <;>
          simp [FileSystem.size, sizeOf, differ.sizes, FileSystem.read, openEntry, found, otherFound, bind,
            Except.bind, pure, Except.pure, throw, throwThe, MonadExceptOf.throw]
    | link link =>
      cases changed with
      | file content otherLocked => cases bones
      | directory otherEntries otherLocked => cases bones
      | link otherLink =>
        simp [FileSystem.size, sizeOf, differ.sizes, FileSystem.read, openEntry, found, otherFound, bind,
          Except.bind, pure, Except.pure, throw, throwThe, MonadExceptOf.throw]

theorem readText_eq (limit : Option Nat) : readText other limit path = readText fs limit path := by
  obtain ⟨sizes, contents⟩ := differ.size_read_eq away
  unfold readText
  rw [sizes, contents]

end DifferOnlyAt

section Rewriting
variable {content new : Bytes} {locked : Bool}

private theorem skeletonOfAll_setNamed {name : Name} {child changed : Entry} {entries : List (Name × Entry)}
    (named : findNamed? name entries = some child) (same : changed.skeleton = child.skeleton) :
    Entry.skeletonOfAll (setNamed name changed entries) = Entry.skeletonOfAll entries := by
  induction entries with
  | nil => cases named
  | cons item rest ih =>
    rcases item with ⟨other, entry⟩
    by_cases equal : other = name
    · simp only [findNamed?, equal, if_true, Option.some.injEq] at named
      simp [setNamed, Entry.skeletonOfAll, equal, same, named]
    · simp only [findNamed?, equal, if_false] at named
      simp [setNamed, Entry.skeletonOfAll, equal, ih named]

private theorem skeleton_put {top : Entry} {target : Location}
    (found : top.at? target = some (.file content locked)) :
    (top.put target (.file new locked)).skeleton = top.skeleton := by
  induction target generalizing top with
  | nil =>
    rw [Option.some.inj found]
    rfl
  | cons name rest ih =>
    cases top with
    | file | link => cases found
    | directory entries open_ =>
      obtain ⟨child, named, below⟩ := Option.bind_eq_some_iff.mp found
      rw [Entry.put_child named, Entry.skeleton, Entry.skeleton, skeletonOfAll_setNamed named (ih below)]

private theorem at?_put {top : Entry} {target location : Location}
    (found : top.at? target = some (.file content locked)) (different : location ≠ target) {kept : Bytes}
    {closed : Bool} (stored : top.at? location = some (.file kept closed)) :
    (top.put target (.file new locked)).at? location = some (.file kept closed) := by
  induction target generalizing top location with
  | nil =>
    obtain rfl := Option.some.inj found
    cases location with
    | nil => exact absurd rfl different
    | cons name rest => cases stored
  | cons name rest ih =>
    cases top with
    | file | link => cases found
    | directory entries open_ =>
      obtain ⟨child, named, below⟩ := Option.bind_eq_some_iff.mp found
      rw [Entry.put_child named]
      cases location with
      | nil => cases stored
      | cons other more =>
        rw [Entry.at?] at stored ⊢
        by_cases same : other = name
        · subst other
          rw [named, Option.bind_some] at stored
          rw [findNamed?_setNamed_self, Option.bind_some]
          exact ih below (fun equal => different (by rw [equal])) stored
        · rwa [findNamed?_setNamed_of_ne _ _ same]

theorem differOnlyAt_put {fs : FileSystem} {target : Location}
    (found : fs.top.at? target = some (.file content locked)) (new : Bytes) :
    DifferOnlyAt target fs { fs with top := fs.top.put target (.file new locked) } where
  working := rfl
  sizes := rfl
  skeleton := (skeleton_put found).symm
  contents := fun _ different _ _ stored => at?_put found different stored

end Rewriting

end FileSystem

section Files
variable {target : Location} {fs other : FileSystem} (differ : DifferOnlyAt target fs other)
  {file : SourceFile} (away : fs.leadsTo target file.location = false)
include differ away

private theorem outlineFile_eq (registry : Registry) (limit : Option Nat) :
    outlineFile other registry limit file = outlineFile fs registry limit file := by
  unfold outlineFile
  rw [differ.readText_eq away]

private theorem readDocument_eq (limit : Option Nat) :
    readDocument other limit file = readDocument fs limit file := by
  rw [readDocument, readDocument, differ.readText_eq away]

end Files

section Lists
variable {α : Type}

private theorem find?_ofList_congr {key : String} {files : List SourceFile} {value changed : SourceFile → Option α}
    (agree : ∀ file ∈ files, file.key = key → changed file = value file) :
    Keyed.find? key (Keyed.ofList (files.filterMap fun file => (changed file).map (file.key, ·))) =
      Keyed.find? key (Keyed.ofList (files.filterMap fun file => (value file).map (file.key, ·))) := by
  induction files using List.reverseRecOn with
  | nil => rfl
  | append_singleton files file ih =>
    have before := ih fun other inside => agree other (List.mem_append_left _ inside)
    have last := agree file (List.mem_append_right _ List.mem_cons_self)
    have step (value : SourceFile → Option α) :
        Keyed.find? key (Keyed.ofList ((files ++ [file]).filterMap fun file => (value file).map (file.key, ·))) =
          if file.key = key ∧ (value file).isSome then value file
          else Keyed.find? key (Keyed.ofList (files.filterMap fun file => (value file).map (file.key, ·))) := by
      rw [List.filterMap_append]
      cases found : value file with
      | none => simp [found]
      | some item =>
        simp only [List.filterMap_cons, found, Option.map_some, List.filterMap_nil, Keyed.ofList_concat]
        by_cases same : file.key = key
        · simp [same, Keyed.find?_insert_self]
        · simp [same, Keyed.find?_insert_of_ne _ _ (Ne.symm same)]
    rw [step changed, step value, before]
    by_cases same : file.key = key
    · rw [last same]
    · simp [same]

def elsewhere (fs : FileSystem) (target : Location) (told : List (SourceFile × Problem)) :
    List (SourceFile × Problem) :=
  told.filter fun failure => !fs.leadsTo target failure.1.location

private theorem elsewhere_failures {fs : FileSystem} {target : Location}
    {attempt changed : SourceFile → Except Problem α} {files : List SourceFile}
    (agree : ∀ file ∈ files, fs.leadsTo target file.location = false → changed file = attempt file) :
    elsewhere fs target (failures changed files) = elsewhere fs target (failures attempt files) := by
  induction files with
  | nil => rfl
  | cons file files ih =>
    have rest := ih fun other inside => agree other (List.mem_cons_of_mem _ inside)
    have step (attempt : SourceFile → Except Problem α) :
        elsewhere fs target (failures attempt (file :: files)) =
          (if fs.leadsTo target file.location then [] else failures attempt [file]) ++
            elsewhere fs target (failures attempt files) := by
      cases result : attempt file with
      | error problem => cases away : fs.leadsTo target file.location <;> simp [elsewhere, failures, result, away]
      | ok value => simp [elsewhere, failures, result]
    rw [step changed, step attempt, rest]
    cases away : fs.leadsTo target file.location with
    | true => rfl
    | false =>
      have same := agree file List.mem_cons_self away
      simp [failures, List.filterMap_cons, same]

end Lists

section Entries
variable {target : Location} {fs other : FileSystem} (differ : DifferOnlyAt target fs other)
  {files : List SourceFile} {key : String}
  (away : ∀ file ∈ files, file.key = key → fs.leadsTo target file.location = false)
include differ away

private theorem find?_gatherOutlines (registry : Registry) (limit : Option Nat) :
    Keyed.find? key (gatherOutlines other registry limit files).entries =
      Keyed.find? key (gatherOutlines fs registry limit files).entries := by
  simp only [gatherOutlines, List.filterMap_map, Function.comp_def]
  apply find?_ofList_congr
  intro file inside named
  rw [outlineFile_eq differ (away file inside named)]

private theorem find?_gatherDocuments (limit : Option Nat) :
    Keyed.find? key (gatherDocuments other limit files).entries =
      Keyed.find? key (gatherDocuments fs limit files).entries := by
  simp only [gatherDocuments, List.filterMap_map, Function.comp_def]
  apply find?_ofList_congr
  intro file inside named
  rw [differ.readText_eq (away file (List.mem_filter.mp inside).1 named)]

end Entries

/-- A change of one file changes nothing that is found on the way to the files, and of what is
reported and told about them only what concerns files at paths that lead to the changed one. -/
theorem analyze_isolates (target : Location) (fs other : FileSystem) (differ : DifferOnlyAt target fs other)
    (registry : Registry) (options : Options) :
    (analyze other registry options).report.tree = (analyze fs registry options).report.tree ∧
    surveyedFiles other options = surveyedFiles fs options ∧
    (∀ key, (∀ file ∈ surveyedFiles fs options, file.key = key → fs.leadsTo target file.location = false) →
      Keyed.find? key (analyze other registry options).report.outlines =
        Keyed.find? key (analyze fs registry options).report.outlines ∧
      Keyed.find? key (analyze other registry options).report.documents =
        Keyed.find? key (analyze fs registry options).report.documents) ∧
    ∃ walking outlining reading otherOutlining otherReading,
      (walking = warnings (scan fs options.root options.followLinks).notes ∧
        walking = warnings (scan other options.root options.followLinks).notes) ∧
      (analyze fs registry options).warnings = walking ++ (outlining ++ reading).map toWarning ∧
      Told (LacksOutline fs registry options.sizeLimit) (surveyedFiles fs options) outlining ∧
      Told (LacksDocument fs options.sizeLimit) (surveyedFiles fs options) reading ∧
      (analyze other registry options).warnings = walking ++ (otherOutlining ++ otherReading).map toWarning ∧
      Told (LacksOutline other registry options.sizeLimit) (surveyedFiles fs options) otherOutlining ∧
      Told (LacksDocument other options.sizeLimit) (surveyedFiles fs options) otherReading ∧
      elsewhere fs target otherOutlining = elsewhere fs target outlining ∧
      elsewhere fs target otherReading = elsewhere fs target reading := by
  have scans := differ.scan_eq options.root options.followLinks
  have files : surveyedFiles other options = surveyedFiles fs options := by
    rw [surveyedFiles, surveyedFiles, scans]
  refine ⟨congrArg Scan.tree scans, files, ?_, ?_⟩
  · intro key away
    simp only [outlines_analyze, documents_analyze, files]
    exact ⟨find?_gatherOutlines differ away registry options.sizeLimit,
      find?_gatherDocuments differ away options.sizeLimit⟩
  · have warned := warnings_analyze other registry options
    rw [scans, files] at warned
    refine ⟨_, _, _, _, _, ⟨rfl, by rw [scans]⟩, warnings_analyze fs registry options,
      told_failures (fun _ _ => outlineFile_eq_error_iff) _, told_failures readDocument_eq_error_iff _,
      warned, told_failures (fun _ _ => outlineFile_eq_error_iff) _, told_failures readDocument_eq_error_iff _, ?_, ?_⟩
    · exact elsewhere_failures fun file _ away => outlineFile_eq differ away registry options.sizeLimit
    · exact elsewhere_failures fun file _ away => readDocument_eq differ away options.sizeLimit

/-- A directory `p` with two source files, of which the first has a content of its choice. -/
def pairedSystem (content : String) : FileSystem where
  top := .directory [(Path.ofText "p", .directory
    [(Path.ofText "a.js", .file (Bytes.ofText content) false),
     (Path.ofText "b.js", .file (Bytes.ofText "class B{}") false)] false)] false
  working := []

/-- The first file is outlined; then it grows over the limit and is told of instead. -/
theorem analyze_isolates_grown :
    DifferOnlyAt [Path.ofText "p", Path.ofText "a.js"] (pairedSystem "class A{}") (pairedSystem "class Again{}") ∧
    IsOutline (pairedSystem "class A{}") .default (some 9) ⟨"a.js", "a.js", Path.ofText "p/a.js"⟩ ⟨["A"], [], []⟩ ∧
    LacksOutline (pairedSystem "class Again{}") .default (some 9) ⟨"a.js", "a.js", Path.ofText "p/a.js"⟩
      (.tooLarge (Path.ofText "p/a.js") 13 9) ∧
    Keyed.find? "b.js" (analyze (pairedSystem "class Again{}") .default
        { root := Path.ofText "p", maxFileSize := 9 }).report.outlines =
      Keyed.find? "b.js" (analyze (pairedSystem "class A{}") .default
        { root := Path.ofText "p", maxFileSize := 9 }).report.outlines := by
  have differ : DifferOnlyAt [Path.ofText "p", Path.ofText "a.js"] (pairedSystem "class A{}")
      (pairedSystem "class Again{}") :=
    differOnlyAt_put (show (pairedSystem "class A{}").top.at? [Path.ofText "p", Path.ofText "a.js"] =
      some (.file (Bytes.ofText "class A{}") false) from rfl) (Bytes.ofText "class Again{}")
  have isolated := analyze_isolates _ _ _ differ .default { root := Path.ofText "p", maxFileSize := 9 }
  have opened : (pairedSystem "class A{}").openEntry (Path.ofText "p/a.js") =
      .ok ([Path.ofText "p", Path.ofText "a.js"], .file (Bytes.ofText "class A{}") false) := rfl
  have found : (pairedSystem "class Again{}").status (Path.ofText "p/a.js") =
      .ok ([Path.ofText "p", Path.ofText "a.js"], .file (Bytes.ofText "class Again{}") false) := rfl
  refine ⟨differ, ?_, .unread (by decide +kernel) (.tooLarge found rfl (by decide +kernel)),
    (isolated.2.2.1 "b.js" (by decide +kernel)).1⟩
  exact .intro (by decide +kernel) (.intro opened (by decide +kernel)) (by decide +kernel)

end SourceAtlas
