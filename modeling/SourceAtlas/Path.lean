import SourceAtlas.Bytes

/-! Paths of files. A path is any bytes; slashes divide it. -/
namespace SourceAtlas

abbrev Path := Bytes

namespace Path

def slash : UInt8 := 0x2F

def dot : UInt8 := 0x2E

def display (path : Path) : String :=
  Bytes.toText path

def ofText (text : String) : Path :=
  Bytes.ofText text

def isAbsolute (path : Path) : Bool :=
  path.head? == some slash

/-- A path as seen from another. An absolute one stays as it is; otherwise a slash is put
in between unless there is one or nothing is in front. -/
def join (base path : Path) : Path :=
  if path.isAbsolute then path
  else if base.isEmpty || base.getLast? == some slash then base ++ path
  else base ++ slash :: path

def split (path : Path) : List Path :=
  path.splitOn slash

/-- The parts of a path that name something: empty ones and single dots do not. -/
def parts (path : Path) : List Path :=
  path.split.filter fun part => !part.isEmpty && part != [dot]

def fileName? (path : Path) : Option Path :=
  match path.parts.getLast? with
  | some name => if name == [dot, dot] then none else some name
  | none => none

/-- What follows the last dot of the file name. A dot at the start of the name does not
count. -/
def extension? (path : Path) : Option Path :=
  match path.fileName? with
  | none => none
  | some name =>
    let after := (name.reverse.takeWhile (· != dot)).reverse
    if name.length ≤ after.length + 1 then none else some after

end Path

end SourceAtlas
