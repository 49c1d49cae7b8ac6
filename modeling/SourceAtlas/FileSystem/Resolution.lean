import SourceAtlas.FileSystem.Entry
import SourceAtlas.FileSystem.Fault

/-! How a path leads to an entry. Paths start at the top or at the working directory and
go through symbolic links. -/
namespace SourceAtlas

/-- What is stored, the directory that relative paths start from, and the sizes that directories
are said to have, which differ from one kind of storage to another. -/
structure FileSystem where
  top : FileSystem.Entry
  working : FileSystem.Location
  directorySize : FileSystem.Location → Nat := fun _ => 4096

namespace FileSystem

/-- Where a path leads: to an entry, or to a name that is free in a directory. -/
inductive Place where
  | occupied (location : Location)
  | vacant (parent : Location) (name : Name)
deriving DecidableEq

def maxNameLength : Nat := 255

def maxLinks : Nat := 40

def here : Name := [Path.dot]

def parent : Name := [Path.dot, Path.dot]

/-- The steps that a path asks for. Several slashes count as one; the empty name at the
end stands for a slash there, which asks for a directory. -/
def steps (path : Path) : List Name :=
  path.split.filter (!·.isEmpty) ++ if path.getLast? == some Path.slash then [[]] else []

/-- Takes steps from a directory. At a link, `jump` goes on with its directory, its target
and the steps that are left; a link at the very end is only entered if `enter` says so. -/
def walkSteps (top : Entry) (enter : Bool)
    (jump : Location → Path → List Name → Except Fault Place) :
    List Name → Location → Except Fault Place
  | [], location => .ok (.occupied location)
  | name :: rest, location =>
    match top.at? location with
    | some (.directory entries locked) =>
      if name.isEmpty then walkSteps top enter jump rest location
      else if locked then .error .denied
      else if name = here then walkSteps top enter jump rest location
      else if name = parent then walkSteps top enter jump rest location.dropLast
      else if maxNameLength < name.length then .error .nameTooLong
      else
        match findNamed? name entries with
        | some (.link target) =>
          if rest.isEmpty && !enter then .ok (.occupied (location ++ [name]))
          else jump location target rest
        | some _ => walkSteps top enter jump rest (location ++ [name])
        | none => if rest.isEmpty then .ok (.vacant location name) else .error .missing
    | _ => .error .notDirectory

def walkThrough (top : Entry) (enter : Bool) :
    Nat → List Name → Location → Except Fault Place
  | 0 => walkSteps top enter fun _ _ _ => .error .tooManyLinks
  | links + 1 => walkSteps top enter fun location target rest =>
    walkThrough top enter links (steps target ++ rest)
      (if target.isAbsolute then [] else location)

variable (fs : FileSystem)

def walkFrom (path : Path) (enter : Bool) (steps : List Name) : Except Fault Place :=
  if path.contains 0 then .error .nulByte
  else if path.isEmpty then .error .missing
  else walkThrough fs.top enter maxLinks steps (if path.isAbsolute then [] else fs.working)

def resolve (enter : Bool) (path : Path) : Except Fault Place :=
  fs.walkFrom path enter (steps path)

def lookup (enter : Bool) (path : Path) : Except Fault (Location × Entry) :=
  match fs.resolve enter path with
  | .error fault => .error fault
  | .ok (.vacant _ _) => .error .missing
  | .ok (.occupied location) =>
    match fs.top.at? location with
    | some entry => .ok (location, entry)
    | none => .error .missing

end FileSystem

end SourceAtlas
