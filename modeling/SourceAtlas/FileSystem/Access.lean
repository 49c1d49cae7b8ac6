import SourceAtlas.FileSystem.Resolution

/-! Reading, listing, writing and arranging files. -/
namespace SourceAtlas.FileSystem
variable (fs : FileSystem)

def status (path : Path) : Except Fault (Location × Entry) :=
  fs.lookup true path

/-- What a path leads to; a link at its end is seen itself. -/
def linkStatus (path : Path) : Except Fault (Location × Entry) :=
  fs.lookup false path

def isDirectory (path : Path) : Bool :=
  match fs.status path with
  | .ok (_, .directory _ _) => true
  | _ => false

def openEntry (path : Path) : Except Fault (Location × Entry) := do
  match ← fs.status path with
  | (_, .file _ true) => throw .denied
  | (_, .directory _ true) => throw .denied
  | found => return found

def list (path : Path) : Except Fault (List (Name × Entry)) := do
  match ← fs.openEntry path with
  | (_, .directory entries _) => return entries
  | _ => throw .notDirectory

def sizeOf (location : Location) : Entry → Nat
  | .file content _ => content.length
  | _ => fs.directorySize location

def size (path : Path) : Except Fault Nat := do
  let (location, entry) ← fs.status path
  return fs.sizeOf location entry

def read (path : Path) : Except Fault Bytes := do
  match ← fs.openEntry path with
  | (_, .file content _) => return content
  | _ => throw .isDirectory

/-- Where a file is written. A path that ends in a slash cannot name a file. -/
def target (path : Path) : Except Fault Location := do
  if path.getLast? == some Path.slash then
    let _ ← fs.walkFrom path true ((steps path).dropLast.dropLast ++ [here])
    throw .isDirectory
  match ← fs.resolve true path with
  | .vacant parent name => return parent ++ [name]
  | .occupied location =>
    match fs.top.at? location with
    | some (.file _ false) => return location
    | some (.file _ true) => throw .denied
    | _ => throw .isDirectory

def write (path : Path) (content : Bytes) : Except Fault FileSystem := do
  let location ← fs.target path
  return { fs with top := fs.top.put location (.file content false) }

def fillDirectory (path : Path) : Except Fault FileSystem := do
  match ← fs.resolve true path with
  | .vacant parent name =>
    return { fs with top := fs.top.put (parent ++ [name]) (.directory [] false) }
  | .occupied _ => return fs

def beginnings (path : Path) : List Path :=
  (path.zipIdx.filter fun (byte, index) => byte == Path.slash && 0 < index).map fun (_, index) =>
    path.take index

def makeDirectory (path : Path) : Except Fault FileSystem := do
  let fs ← (beginnings path ++ [path]).foldlM fillDirectory fs
  if fs.isDirectory path then return fs else throw .occupied

def makeParent (path : Path) : Except Fault FileSystem :=
  match (beginnings path).getLast? with
  | some parent => fs.makeDirectory parent
  | none => .ok fs

/-- Makes a symbolic link. Any target is accepted. -/
def makeLink (path : Path) (target : Path) : Except Fault FileSystem := do
  match ← fs.resolve false path with
  | .vacant parent name => return { fs with top := fs.top.put (parent ++ [name]) (.link target) }
  | .occupied _ => throw .occupied

def lock (path : Path) : Except Fault FileSystem := do
  let (location, entry) ← fs.status path
  return { fs with top := fs.top.put location entry.lock }

def remove (path : Path) : Except Fault FileSystem := do
  let (location, _) ← fs.linkStatus path
  return { fs with top := fs.top.remove location }

end SourceAtlas.FileSystem
