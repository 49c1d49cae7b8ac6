import SourceAtlas.Json.Writing
import SourceAtlas.Report

/-! Writes reports as JSON. -/
namespace SourceAtlas
open SourceAtlas.Json

def textList (texts : List String) : Value :=
  .list (texts.map .text)

namespace Directory

mutual

def toJson : Directory → Value
  | ⟨directories, files⟩ =>
    .object [("directories", .object (toJsonAll directories)), ("files", textList files)]

def toJsonAll : List (String × Directory) → List (String × Value)
  | [] => []
  | (name, directory) :: rest => (name, directory.toJson) :: toJsonAll rest

end

end Directory

def Outline.toJson (outline : Outline) : Value :=
  .object [
    ("classes", textList outline.classes),
    ("functions", textList outline.functions),
    ("imports", textList outline.imports)]

namespace Report

def toJson (report : Report) : Value :=
  .object [
    (structureTitle, report.tree.toJson),
    (outlinesTitle, .object (report.outlines.map fun (key, outline) => (key, outline.toJson))),
    (documentsTitle, .object (report.documents.map fun (key, text) => (key, .text text)))]

def defaultIndent : Bytes := Bytes.ofText "    "

/-- A report as text with a line end. An indentation that is no text is replaced. -/
def format (indent : Bytes) (report : Report) : String :=
  Bytes.toText (report.toJson.render indent 0 ++ [0x0A])

end Report

end SourceAtlas
