import SourceAtlas.FileSystem.Access

/-! Files that come as a tape archive: blocks of 512 bytes, a header for each entry and
then its content. -/
namespace SourceAtlas.FileSystem.Archive

def blockSize : Nat := 512

structure Header where
  name : Path
  mode : Nat
  size : Nat
  kind : UInt8
  target : Path

def field (block : Bytes) (start length : Nat) : Bytes :=
  ((block.drop start).take length).takeWhile (· != 0)

def octal (digits : Bytes) : Nat :=
  (digits.filter fun byte => 0x30 ≤ byte && byte ≤ 0x37).foldl
    (fun number byte => 8 * number + (byte.toNat - 0x30)) 0

def header? (block : Bytes) : Option Header :=
  if block.length < blockSize || block.all (· == 0) then none
  else
    let name := field block 0 100
    let directory := field block 345 155
    let isExtended := field block 257 6 == Bytes.ofText "ustar"
    some
      { name := if isExtended && !directory.isEmpty then Path.join directory name else name
        mode := octal (field block 100 8)
        size := octal (field block 124 12)
        kind := (block.drop 156).headD 0
        target := field block 157 100 }

/-- Adds what a header describes. An entry whose owner may not read it is locked. Kinds
other than files, directories and links are passed over. -/
def add (fs : FileSystem) (header : Header) (content : Bytes) : Except Fault FileSystem := do
  let path := header.name
  let locked := header.mode / 0o400 % 2 = 0
  let added ←
    if header.kind == 0x35 then fs.makeDirectory path
    else if header.kind == 0x32 then
      return ← (← fs.makeParent path).makeLink path header.target
    else if header.kind == 0 || header.kind == 0x30 then
      (← fs.makeParent path).write path content
    else return fs
  if locked then added.lock path else return added

/-- Names that do not fit into a header come as the content of an entry before it. -/
structure LongNames where
  name : Option Path := none
  target : Option Path := none

/-- Reads entries to the end of an archive. Entries that cannot be added are left out. -/
def readFrom (fs : FileSystem) (long : LongNames) (bytes : Bytes) : FileSystem :=
  match header? (bytes.take blockSize) with
  | none => fs
  | some header =>
    if bytes.length < blockSize then fs
    else
      let content := (bytes.drop blockSize).take header.size
      let blocks := (header.size + blockSize - 1) / blockSize
      let rest := bytes.drop (blockSize * (blocks + 1))
      if header.kind == 0x4C then
        readFrom fs { long with name := some (content.takeWhile (· != 0)) } rest
      else if header.kind == 0x4B then
        readFrom fs { long with target := some (content.takeWhile (· != 0)) } rest
      else
        let header := { header with
          name := long.name.getD header.name
          target := long.target.getD header.target }
        readFrom ((add fs header content).toOption.getD fs) {} rest
termination_by bytes.length
decreasing_by
  all_goals
    simp only [List.length_drop, blockSize] at *
    have : 512 ≤ 512 * ((header.size + 512 - 1) / 512 + 1) := by omega
    omega

def read (bytes : Bytes) : FileSystem :=
  readFrom { top := .directory [] false, working := [] } {} bytes

end SourceAtlas.FileSystem.Archive
