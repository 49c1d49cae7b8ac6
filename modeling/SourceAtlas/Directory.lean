import SourceAtlas.Keyed

/-! A directory as it is reported: its subdirectories by name and the names of its
files. -/
namespace SourceAtlas

/-- Subdirectories are in the order of their names, files in that of their discovery. -/
structure Directory where
  directories : List (String × Directory)
  files : List String
deriving Inhabited

namespace Directory

def empty : Directory := ⟨[], []⟩

def isEmpty (directory : Directory) : Bool :=
  directory.files.isEmpty && directory.directories.isEmpty

def get (directory : Directory) : List String → Directory
  | [] => directory
  | name :: rest => ((Keyed.find? name directory.directories).getD empty).get rest

/-- Changes the directory at a path. It and those on the way are made where missing. -/
def modify (change : Directory → Directory) : List String → Directory → Directory
  | [], directory => change directory
  | name :: rest, directory =>
    let child := (Keyed.find? name directory.directories).getD empty
    { directory with
      directories := Keyed.insert name (modify change rest child) directory.directories }

def ensure (path : List String) (directory : Directory) : Directory :=
  modify id path directory

def addFile (path : List String) (file : String) (directory : Directory) : Directory :=
  modify (fun target => { target with files := target.files ++ [file] }) path directory

/-- Removes the directory at a path if it is there and has nothing in it. The directory
itself is never removed. -/
def removeEmpty? : List String → Directory → Option Directory
  | [], _ => none
  | [name], directory =>
    match Keyed.find? name directory.directories with
    | some child =>
      if child.isEmpty then
        some { directory with directories := Keyed.erase name directory.directories }
      else none
    | none => none
  | name :: rest, directory =>
    match Keyed.find? name directory.directories with
    | some child =>
      (removeEmpty? rest child).map fun child =>
        { directory with directories := Keyed.insert name child directory.directories }
    | none => none

mutual

def fileCount : Directory → Nat
  | ⟨directories, files⟩ => files.length + fileCountOfAll directories

def fileCountOfAll : List (String × Directory) → Nat
  | [] => 0
  | (_, directory) :: rest => fileCount directory + fileCountOfAll rest

end

mutual

def same : Directory → Directory → Bool
  | ⟨directories, files⟩, ⟨otherDirectories, otherFiles⟩ =>
    files = otherFiles && sameAll directories otherDirectories

def sameAll : List (String × Directory) → List (String × Directory) → Bool
  | [], [] => true
  | (name, directory) :: rest, (otherName, otherDirectory) :: otherRest =>
    name = otherName && same directory otherDirectory && sameAll rest otherRest
  | _, _ => false

end

mutual

theorem same_iff : ∀ left right : Directory, same left right = true ↔ left = right
  | ⟨directories, files⟩, ⟨otherDirectories, otherFiles⟩ => by
    simp [same, sameAll_iff directories otherDirectories, and_comm]

theorem sameAll_iff : ∀ left right : List (String × Directory),
    sameAll left right = true ↔ left = right
  | [], [] => by simp [sameAll]
  | [], _ :: _ => by simp [sameAll]
  | _ :: _, [] => by simp [sameAll]
  | (name, directory) :: rest, (otherName, otherDirectory) :: otherRest => by
    simp [sameAll, same_iff directory otherDirectory, sameAll_iff rest otherRest]

end

instance : DecidableEq Directory :=
  fun left right => decidable_of_iff _ (same_iff left right)

end Directory

end SourceAtlas
