import SourceAtlas.FileSystem.Access

/-! A walk through a directory and all that is below it. The entries of a directory are
taken in the order of their names, so the order in which the system lists them does not
show. -/
namespace SourceAtlas

/-- What a walk comes across, with its path and the names that lead to it from the root. -/
inductive Finding where
  | directory (path : Path) (names : List FileSystem.Name)
  | file (path : Path) (names : List FileSystem.Name)
  | directoryLink (path : Path) (names : List FileSystem.Name)
  | failure (path : Path) (names : List FileSystem.Name) (reason : String)
  | loop (path : Path) (names : List FileSystem.Name) (ancestor : Path)
deriving DecidableEq

namespace Walk
open FileSystem

structure Stage where
  path : Path
  location : Location
deriving DecidableEq

abbrev LinkRule := List Stage → Path → List Name → List Finding

def failureAt (path : Path) (names : List Name) (fault : Fault) : Finding :=
  .failure path names ("IO error for operation on " ++ path.display ++ ": " ++ fault.message)

section Descent
variable (fs : FileSystem) (onLink : LinkRule)

mutual

def visit (stages : List Stage) (path : Path) (names : List Name) (location : Location) :
    Entry → List Finding
  | .file _ _ => [.file path names]
  | .link _ => onLink stages path names
  | .directory entries _ =>
    .directory path names ::
      match fs.list path with
      | .error fault => [failureAt path names fault]
      | .ok _ =>
        (sortNamed (visitAll (⟨path, location⟩ :: stages) path names location entries)).flatMap
          (·.2)

def visitAll (stages : List Stage) (path : Path) (names : List Name) (location : Location) :
    List (Name × Entry) → List (Name × List Finding)
  | [] => []
  | (name, entry) :: rest =>
    (name, visit stages (path.join name) (names ++ [name]) (location ++ [name]) entry) ::
      visitAll stages path names location rest

end

end Descent

section Links
variable (fs : FileSystem)

def passLink : LinkRule := fun _ path names =>
  if fs.isDirectory path then [.directoryLink path names] else [.file path names]

/-- Follows links. One that leads to a directory in which the walk already is ends there;
as each other one leads to a further directory, the number of directories bounds how many
are followed one inside the other. -/
def followLink (root : Path) : Nat → LinkRule
  | depth, stages, path, names =>
    match fs.status path with
    | .error fault => [failureAt path names fault]
    | .ok (location, .directory entries locked) =>
      match fs.openEntry path with
      | .error fault => [.failure root [] fault.message]
      | .ok _ =>
        match stages.find? (·.location = location) with
        | some stage => [.loop path names stage.path]
        | none =>
          match depth with
          | 0 => []
          | depth + 1 =>
            visit fs (followLink root depth) stages path names location
              (.directory entries locked)
    | .ok _ => [.file path names]

end Links

end Walk

namespace FileSystem
open Walk
variable (fs : FileSystem)

/-- All that a walk from a root finds. A root that is a link is always entered. -/
def walk (root : Path) (follow : Bool) : List Finding :=
  match fs.linkStatus root with
  | .error fault => [failureAt root [] fault]
  | .ok (location, entry) =>
    if follow then
      visit fs (followLink fs root fs.top.directoryCount) [] root [] location entry
    else
      match entry with
      | .link _ =>
        match fs.status root with
        | .error fault => [failureAt root [] fault]
        | .ok (location, entry) => visit fs (passLink fs) [] root [] location entry
      | _ => visit fs (passLink fs) [] root [] location entry

end FileSystem

end SourceAtlas
