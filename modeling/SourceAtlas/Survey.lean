import SourceAtlas.Documentation
import SourceAtlas.Log
import SourceAtlas.Registry
import SourceAtlas.Report.Writing
import SourceAtlas.Scan

/-! A survey: scans a directory, outlines the source files, gathers the documentation and
saves the report. A file that fails is left out with a warning. -/
namespace SourceAtlas

def readText (fs : FileSystem) (limit : Option Nat) (path : Path) : Except Problem String := do
  if let some limit := limit then
    let size ← (fs.size path).mapError fun fault => .unreadable path fault.message
    if limit < size then throw (.tooLarge path size limit)
  let content ← (fs.read path).mapError fun fault => .unreadable path fault.message
  return Bytes.toText content

def outlineFile (fs : FileSystem) (registry : Registry) (limit : Option Nat)
    (file : SourceFile) : Except Problem (Option (Outline × String)) := do
  let reader := registry.forExtension file.extension?
  if !reader.isSupported then return none
  let text ← readText fs limit file.location
  let outline ← reader.outline text file.location
  return some (outline, reader.language)

/-- Entries of a report and what was told about them. -/
structure Gathered (α : Type) where
  entries : List (String × α)
  notes : List Note

/-- The outline that goes into the report. One with nothing in it does not. -/
def reportedOutline (result : Except Problem (Option (Outline × String))) : Option Outline :=
  match result with
  | .ok (some (outline, _)) => if outline.isEmpty then none else some outline
  | _ => none

def outlineNotes (file : SourceFile) (result : Except Problem (Option (Outline × String))) :
    List Note :=
  match result with
  | .ok (some (outline, language)) => [.outlined file.key outline language]
  | .ok none => []
  | .error problem => [.warned file.location problem]

def gatherOutlines (fs : FileSystem) (registry : Registry) (limit : Option Nat)
    (files : List SourceFile) : Gathered Outline :=
  let results := files.map fun file => (file, outlineFile fs registry limit file)
  { entries := Keyed.ofList (results.filterMap fun (file, result) =>
      (reportedOutline result).map fun outline => (file.key, outline))
    notes := results.flatMap fun (file, result) => outlineNotes file result }

def gatherDocuments (fs : FileSystem) (limit : Option Nat) (files : List SourceFile) :
    Gathered String :=
  let results := (files.filter fun file => Documentation.isDocumentation file.name).map
    fun file => (file, readText fs limit file.location)
  { entries := Keyed.ofList (results.filterMap fun (file, result) =>
      result.toOption.map fun text => (file.key, text))
    notes := results.filterMap fun (file, result) =>
      match result with
      | .ok _ => none
      | .error problem => some (.warned file.location problem) }

/-- A report and what was told while it was made. -/
structure Analysis where
  report : Report
  notes : List Note

namespace Analysis

def warnings (analysis : Analysis) : List Warning :=
  SourceAtlas.warnings analysis.notes

end Analysis

def analyze (fs : FileSystem) (registry : Registry) (options : Options) : Analysis :=
  let scan := scan fs options.root options.followLinks
  let files := scan.tree.collect options.addressing options.baseDirectory
  let outlines := gatherOutlines fs registry options.sizeLimit files
  let documents := gatherDocuments fs options.sizeLimit files
  { report := ⟨scan.tree, outlines.entries, documents.entries⟩
    notes := .scanning options.root :: scan.notes ++ .found files.length :: outlines.notes ++
      .outlinedAll outlines.entries.length :: documents.notes ++
      [.documented documents.entries.length] }

structure Summary where
  files : Nat
  outlines : Nat
  documents : Nat
  warnings : List Warning
  saved : Bool
deriving DecidableEq

/-- A survey that has ended: its summary, what was told, and the files after it. -/
structure Completed where
  summary : Summary
  notes : List Note
  fs : FileSystem

/-- Makes a report and saves it. Saving may fail; the survey does not. -/
def survey (fs : FileSystem) (registry : Registry) (options : Options) : Completed :=
  let analysis := analyze fs registry options
  let warnings := analysis.warnings
  let text := analysis.report.format Report.defaultIndent
  let (after, saved, outcome) := match fs.write options.output (Bytes.ofText text) with
    | .ok after => (after, true, Note.saved options.output)
    | .error fault => (fs, false, Note.failed (.unsaved options.output fault.message))
  { summary :=
      { files := analysis.report.tree.fileCount
        outlines := analysis.report.outlines.length
        documents := analysis.report.documents.length
        warnings
        saved }
    notes := analysis.notes ++
      outcome :: if warnings.isEmpty then [] else [.finished warnings.length]
    fs := after }

end SourceAtlas
