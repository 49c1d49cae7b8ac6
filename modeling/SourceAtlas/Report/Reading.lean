import SourceAtlas.Json.Reading
import SourceAtlas.Report

/-! Reads reports from JSON. A record is an object, or a list of its fields in their
order; other members of an object are passed over. -/
namespace SourceAtlas.Report
open SourceAtlas.Json

section Records

def setField {α : Type} (name : String) (old : Option α) (value : Reader α) :
    Reader (Option α) := do
  if old.isSome then Reader.reject ("duplicate field `" ++ name ++ "`")
  Reader.colon
  return some (← value)

def requireField {α : Type} (name : String) : Option α → Reader α
  | some value => return value
  | none => Reader.reject ("missing field `" ++ name ++ "`")

def skipField : Reader Unit := do
  Reader.colon
  Reader.ignored

def fieldAt {α : Type} (record : String) (count index : Nat) (value : Reader α) : Reader α := do
  if ← Reader.hasElement (index = 0) then value
  else
    Reader.reject ("invalid length " ++ toString index ++ ", expected struct " ++ record ++
      " with " ++ toString count ++ " elements")

def record {α : Type} (name : String) (levels : Nat) (asList asObject : (levels : Nat) → Reader α) :
    Reader α := do
  let start ← Reader.valueStart
  if start == Reader.byteOf '[' then
    Reader.deeper levels fun levels => do
      Reader.skip
      Reader.withPlace (Reader.endedBy (asList levels) Reader.endList)
  else if start == Reader.byteOf '\x7b' then
    Reader.deeper levels fun levels => do
      Reader.skip
      Reader.withPlace (Reader.endedBy (asObject levels) Reader.endObject)
  else Reader.unexpected ("struct " ++ name)

def texts (levels : Nat) : Reader (List String) :=
  Reader.list levels fun _ => Reader.string

end Records

section Directories

/-- The fields of a directory, as far as they have been read. -/
structure DirectoryFields where
  directories : Option (List (String × Directory)) := none
  files : Option (List String) := none

def directoryMembers (directories : Reader (List (String × Directory)))
    (files : Reader (List String)) :
    (fuel : Nat) → (first : Bool) → DirectoryFields → Reader DirectoryFields
  | 0, _, fields => return fields
  | fuel + 1, first, fields => do
    match ← Reader.key? first with
    | none => return fields
    | some "directories" =>
      let value ← setField "directories" fields.directories directories
      directoryMembers directories files fuel false { fields with directories := value }
    | some "files" =>
      let value ← setField "files" fields.files files
      directoryMembers directories files fuel false { fields with files := value }
    | some _ =>
      skipField
      directoryMembers directories files fuel false fields

def directoryFromList (directories : Reader (List (String × Directory)))
    (files : Reader (List String)) : Reader Directory := do
  let directories ← fieldAt "DirectoryNode" 2 0 directories
  let files ← fieldAt "DirectoryNode" 2 1 files
  return ⟨Keyed.ofList directories, files⟩

def directoryFromMembers (directories : Reader (List (String × Directory)))
    (files : Reader (List String)) : Reader Directory := do
  let fuel := (← get).rest.length + 1
  let fields ← directoryMembers directories files fuel true {}
  let directories ← requireField "directories" fields.directories
  let files ← requireField "files" fields.files
  return ⟨Keyed.ofList directories, files⟩

def directory : (levels : Nat) → Reader Directory
  | 0 => record "DirectoryNode" 0 (fun _ => return .empty) (fun _ => return .empty)
  | 1 =>
    let subdirectories : Reader (List (String × Directory)) :=
      Reader.object 0 fun _ => return .empty
    record "DirectoryNode" 1
      (fun _ => directoryFromList subdirectories (texts 0))
      (fun _ => directoryFromMembers subdirectories (texts 0))
  | levels + 2 =>
    let subdirectories : Reader (List (String × Directory)) :=
      Reader.object (levels + 1) fun _ => directory levels
    record "DirectoryNode" (levels + 2)
      (fun _ => directoryFromList subdirectories (texts (levels + 1)))
      (fun _ => directoryFromMembers subdirectories (texts (levels + 1)))

end Directories

section Outlines

/-- The fields of an outline, as far as they have been read. -/
structure OutlineFields where
  classes : Option (List String) := none
  functions : Option (List String) := none
  imports : Option (List String) := none

def outlineMembers (levels : Nat) :
    (fuel : Nat) → (first : Bool) → OutlineFields → Reader OutlineFields
  | 0, _, fields => return fields
  | fuel + 1, first, fields => do
    match ← Reader.key? first with
    | none => return fields
    | some "classes" =>
      let value ← setField "classes" fields.classes (texts levels)
      outlineMembers levels fuel false { fields with classes := value }
    | some "functions" =>
      let value ← setField "functions" fields.functions (texts levels)
      outlineMembers levels fuel false { fields with functions := value }
    | some "imports" =>
      let value ← setField "imports" fields.imports (texts levels)
      outlineMembers levels fuel false { fields with imports := value }
    | some _ =>
      skipField
      outlineMembers levels fuel false fields

def outline (levels : Nat) : Reader Outline :=
  record "FileRecord" levels
    (fun levels => do
      let classes ← fieldAt "FileRecord" 3 0 (texts levels)
      let functions ← fieldAt "FileRecord" 3 1 (texts levels)
      let imports ← fieldAt "FileRecord" 3 2 (texts levels)
      return { classes, functions, imports })
    (fun levels => do
      let fields ← outlineMembers levels ((← get).rest.length + 1) true {}
      let classes ← requireField "classes" fields.classes
      let functions ← requireField "functions" fields.functions
      let imports ← requireField "imports" fields.imports
      return { classes, functions, imports })

end Outlines

/-- The fields of a report, as far as they have been read. -/
structure ReportFields where
  tree : Option Directory := none
  outlines : Option (List (String × Outline)) := none
  documents : Option (List (String × String)) := none

def outlineMap (levels : Nat) : Reader (List (String × Outline)) :=
  return Keyed.ofList (← Reader.object levels outline)

def documentMap (levels : Nat) : Reader (List (String × String)) :=
  return Keyed.ofList (← Reader.object levels fun _ => Reader.string)

def reportMembers (levels : Nat) :
    (fuel : Nat) → (first : Bool) → ReportFields → Reader ReportFields
  | 0, _, fields => return fields
  | fuel + 1, first, fields => do
    match ← Reader.key? first with
    | none => return fields
    | some key =>
      if key = structureTitle then
        let value ← setField structureTitle fields.tree (directory levels)
        reportMembers levels fuel false { fields with tree := value }
      else if key = outlinesTitle then
        let value ← setField outlinesTitle fields.outlines (outlineMap levels)
        reportMembers levels fuel false { fields with outlines := value }
      else if key = documentsTitle then
        let value ← setField documentsTitle fields.documents (documentMap levels)
        reportMembers levels fuel false { fields with documents := value }
      else
        skipField
        reportMembers levels fuel false fields

def report (levels : Nat) : Reader Report :=
  record "AnalysisReport" levels
    (fun levels => do
      let tree ← fieldAt "AnalysisReport" 3 0 (directory levels)
      let outlines ← fieldAt "AnalysisReport" 3 1 (outlineMap levels)
      let documents ← fieldAt "AnalysisReport" 3 2 (documentMap levels)
      return { tree, outlines, documents })
    (fun levels => do
      let fields ← reportMembers levels ((← get).rest.length + 1) true {}
      let tree ← requireField structureTitle fields.tree
      let outlines ← requireField outlinesTitle fields.outlines
      let documents ← requireField documentsTitle fields.documents
      return { tree, outlines, documents })

def ofJson (text : String) : Except ReadError Report :=
  Reader.run report text

end SourceAtlas.Report
