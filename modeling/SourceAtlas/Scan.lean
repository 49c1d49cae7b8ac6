import SourceAtlas.Directory
import SourceAtlas.Log
import SourceAtlas.Walk

/-! The tree of directories and files that a walk finds. -/
namespace SourceAtlas

structure Scan where
  tree : Directory
  notes : List Note

namespace Finding

/-- What a finding changes in a tree. A directory that turns out not to be readable is
taken out again. -/
def addTo (tree : Directory) : Finding → Directory
  | directory _ names => tree.ensure (names.map Bytes.toText)
  | file _ names =>
    match (names.map Bytes.toText).getLast? with
    | some name => tree.addFile (names.map Bytes.toText).dropLast name
    | none => tree
  | directoryLink _ _ => tree
  | failure _ names _ => (tree.removeEmpty? (names.map Bytes.toText)).getD tree
  | loop _ _ _ => tree

def note? : Finding → Option Note
  | directoryLink path _ => some (.skipped path)
  | failure path _ reason => some (.warned path (.unwalkable path reason))
  | loop path _ ancestor =>
    some (.warned path (.unwalkable path ("symlink loop back to " ++ ancestor.display)))
  | _ => none

end Finding

def scan (fs : FileSystem) (root : Path) (follow : Bool) : Scan :=
  let findings := fs.walk root follow
  { tree := findings.foldl Finding.addTo Directory.empty
    notes := findings.filterMap Finding.note? }

end SourceAtlas
