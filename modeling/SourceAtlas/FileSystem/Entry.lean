import SourceAtlas.Path

/-! The content of a file system as a value. -/
namespace SourceAtlas.FileSystem

abbrev Name := Bytes

/-- The names that lead from the top of a file system to an entry. No two entries have
the same location, so it also tells directories apart. -/
abbrev Location := List Name

/-- A file, a directory or a symbolic link. What is locked can be seen and not opened. The
entries of a directory are in the order in which the system lists them. -/
inductive Entry where
  | file (content : Bytes) (locked : Bool)
  | directory (entries : List (Name × Entry)) (locked : Bool)
  | link (target : Path)
deriving Inhabited

section Named
variable {α : Type}

def findNamed? (name : Name) : List (Name × α) → Option α
  | [] => none
  | (other, value) :: rest => if other = name then some value else findNamed? name rest

/-- Gives a name to a value. What had the name before is replaced in its place. -/
def setNamed (name : Name) (value : α) : List (Name × α) → List (Name × α)
  | [] => [(name, value)]
  | (other, old) :: rest =>
    if other = name then (name, value) :: rest else (other, old) :: setNamed name value rest

def insertNamed (item : Name × α) : List (Name × α) → List (Name × α)
  | [] => [item]
  | other :: rest =>
    if item.1 ≤ other.1 then item :: other :: rest else other :: insertNamed item rest

def sortNamed (items : List (Name × α)) : List (Name × α) :=
  items.foldr insertNamed []

end Named

namespace Entry

def at? : Location → Entry → Option Entry
  | [], entry => some entry
  | name :: rest, directory entries _ => (findNamed? name entries).bind (at? rest)
  | _ :: _, _ => none

/-- Sets what is at a location. Nothing changes if no directory leads there. -/
def put (top : Entry) (location : Location) (entry : Entry) : Entry :=
  match location, top with
  | [], _ => entry
  | [name], directory entries locked => directory (setNamed name entry entries) locked
  | name :: rest, directory entries locked =>
    match findNamed? name entries with
    | some child => directory (setNamed name (child.put rest entry) entries) locked
    | none => directory entries locked
  | _ :: _, top => top

def remove : Location → Entry → Entry
  | [name], directory entries locked =>
    directory (entries.filter fun entry => entry.1 != name) locked
  | name :: rest, directory entries locked =>
    match findNamed? name entries with
    | some child => directory (setNamed name (remove rest child) entries) locked
    | none => directory entries locked
  | _, entry => entry

def lock : Entry → Entry
  | file content _ => file content true
  | directory entries _ => directory entries true
  | link target => link target

mutual

def directoryCount : Entry → Nat
  | file _ _ => 0
  | directory entries _ => directoryCountOfAll entries + 1
  | link _ => 0

def directoryCountOfAll : List (Name × Entry) → Nat
  | [] => 0
  | (_, entry) :: rest => directoryCount entry + directoryCountOfAll rest

end

end Entry

end SourceAtlas.FileSystem
