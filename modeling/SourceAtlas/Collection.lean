import SourceAtlas.Directory
import SourceAtlas.Options

/-! The files of a directory tree as a list, each with its key in the report and the
place where it is opened. -/
namespace SourceAtlas

structure SourceFile where
  key : String
  name : String
  location : Path
deriving DecidableEq

namespace SourceFile

def extension? (file : SourceFile) : Option String :=
  (Path.ofText file.name).extension?.bind Bytes.toText?

/-- A file below a base directory, in a directory that is given by the names on the way
to it. -/
def locate (addressing : Addressing) (base : Path) (parents : List String) (name : String) :
    SourceFile :=
  match addressing with
  | .relative =>
    { key := "/".intercalate (parents ++ [name])
      name
      location := (parents ++ [name]).foldl (fun path part => path.join (Path.ofText part)) base }
  | .fileName => { key := name, name, location := base.join (Path.ofText name) }

end SourceFile

namespace Directory

mutual

def collectFrom (addressing : Addressing) (base : Path) (parents : List String) :
    Directory → List SourceFile
  | ⟨directories, files⟩ =>
    files.map (SourceFile.locate addressing base parents) ++
      collectFromAll addressing base parents directories

def collectFromAll (addressing : Addressing) (base : Path) (parents : List String) :
    List (String × Directory) → List SourceFile
  | [] => []
  | (name, directory) :: rest =>
    collectFrom addressing base (parents ++ [name]) directory ++
      collectFromAll addressing base parents rest

end

def collect (addressing : Addressing) (base : Path) (directory : Directory) : List SourceFile :=
  collectFrom addressing base [] directory

end Directory

end SourceAtlas
