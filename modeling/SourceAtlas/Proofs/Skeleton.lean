import SourceAtlas.Proofs.Walk
import SourceAtlas.Scan

/-! What files contain has no effect on where paths lead and on what a scan finds. -/
namespace SourceAtlas

namespace FileSystem

namespace Entry

mutual

def skeleton : Entry → Entry
  | .file _ locked => .file [] locked
  | .directory entries locked => .directory (skeletonOfAll entries) locked
  | .link target => .link target

def skeletonOfAll : List (Name × Entry) → List (Name × Entry)
  | [] => []
  | (name, entry) :: rest => (name, entry.skeleton) :: skeletonOfAll rest

end

theorem skeletonOfAll_eq (entries : List (Name × Entry)) :
    skeletonOfAll entries = entries.map fun item => (item.1, item.2.skeleton) := by
  induction entries with
  | nil => rfl
  | cons item rest ih => rw [skeletonOfAll, ih, List.map_cons]

theorem findNamed?_skeletonOfAll (name : Name) (entries : List (Name × Entry)) :
    findNamed? name (skeletonOfAll entries) = (findNamed? name entries).map skeleton := by
  rw [skeletonOfAll_eq, findNamed?_map]

theorem at?_skeleton (location : Location) (entry : Entry) :
    entry.skeleton.at? location = (entry.at? location).map skeleton := by
  induction location generalizing entry with
  | nil => rfl
  | cons name rest ih =>
    cases entry with
    | file content locked => rfl
    | link target => rfl
    | directory entries locked =>
      rw [skeleton, at?, at?, findNamed?_skeletonOfAll]
      cases findNamed? name entries with
      | none => rfl
      | some child => exact ih child

theorem directoryCount_skeleton (entry : Entry) : entry.skeleton.directoryCount = entry.directoryCount := by
  induction entry using Entry.below_induction with
  | file content locked => rfl
  | link target => rfl
  | directory entries locked ih =>
    have all : directoryCountOfAll (skeletonOfAll entries) = directoryCountOfAll entries := by
      induction entries with
      | nil => rfl
      | cons item rest tail =>
        rw [List.forall_mem_cons] at ih
        rw [skeletonOfAll, directoryCountOfAll, directoryCountOfAll, ih.1, tail ih.2]
    rw [skeleton, directoryCount, directoryCount, all]

end Entry

theorem move_skeleton (top : Entry) (name : Name) (location : Location) :
    move top.skeleton name location = move top name location := by
  rw [move, move, Entry.at?_skeleton]
  cases top.at? location with
  | none => rfl
  | some entry =>
    cases entry with
    | file content locked => rfl
    | link target => rfl
    | directory entries locked =>
      simp only [Option.map_some, Entry.skeleton, Entry.findNamed?_skeletonOfAll]
      cases findNamed? name entries with
      | none => rfl
      | some child => cases child <;> rfl

theorem walkThrough_skeleton (top : Entry) (enter : Bool) (links : Nat) (names : List Name)
    (location : Location) :
    walkThrough top.skeleton enter links names location = walkThrough top enter links names location :=
  walkThrough_congr (move_skeleton top) enter links names location

def skeleton (fs : FileSystem) : FileSystem :=
  { fs with top := fs.top.skeleton }

variable (fs : FileSystem) (path : Path)

theorem resolve_skeleton (enter : Bool) : fs.skeleton.resolve enter path = fs.resolve enter path := by
  simp only [resolve, walkFrom, skeleton, walkThrough_skeleton]

theorem lookup_skeleton (enter : Bool) :
    fs.skeleton.lookup enter path =
      (fs.lookup enter path).map fun found => (found.1, found.2.skeleton) := by
  rw [lookup, lookup, resolve_skeleton]
  cases fs.resolve enter path with
  | error fault => rfl
  | ok place =>
    cases place with
    | vacant parent name => rfl
    | occupied location =>
      simp only [skeleton, Entry.at?_skeleton]
      cases fs.top.at? location <;> rfl

theorem isDirectory_skeleton : fs.skeleton.isDirectory path = fs.isDirectory path := by
  rw [isDirectory, isDirectory, status, lookup_skeleton, ← status]
  rcases fs.status path with fault | ⟨location, entry⟩
  · rfl
  · cases entry <;> rfl

theorem openEntry_skeleton :
    fs.skeleton.openEntry path = (fs.openEntry path).map fun found => (found.1, found.2.skeleton) := by
  rw [openEntry, openEntry, status, lookup_skeleton, ← status]
  rcases fs.status path with fault | ⟨location, entry⟩
  · rfl
  · cases entry with
    | link target => rfl
    | file content locked => cases locked <;> rfl
    | directory entries locked => cases locked <;> rfl

theorem list_skeleton : fs.skeleton.list path = (fs.list path).map Entry.skeletonOfAll := by
  rw [list, list, openEntry_skeleton]
  rcases fs.openEntry path with fault | ⟨location, entry⟩
  · rfl
  · cases entry <;> rfl

end FileSystem

namespace Walk
open FileSystem
variable (fs : FileSystem)

theorem visit_skeleton (onLink : LinkRule) (entry : Entry) (stages : List Stage) (path : Path)
    (names : List Name) (location : Location) :
    visit fs.skeleton onLink stages path names location entry.skeleton =
      visit fs onLink stages path names location entry := by
  induction entry using Entry.below_induction generalizing stages path names location with
  | file content locked => rw [Entry.skeleton, visit, visit]
  | link target => rw [Entry.skeleton, visit, visit]
  | directory entries locked ih =>
    have below : visitAll fs.skeleton onLink (⟨path, location⟩ :: stages) path names location
          (Entry.skeletonOfAll entries) =
        visitAll fs onLink (⟨path, location⟩ :: stages) path names location entries := by
      rw [visitAll_eq, visitAll_eq, Entry.skeletonOfAll_eq, List.map_map]
      exact List.map_congr_left fun item inside => by rw [Function.comp_apply, ih item inside]
    rw [Entry.skeleton, visit, visit, list_skeleton, below]
    cases fs.list path <;> rfl

theorem passLink_skeleton : passLink fs.skeleton = passLink fs := by
  funext stages path names
  rw [passLink, passLink, isDirectory_skeleton]

theorem followLink_skeleton (root : Path) (depth : Nat) :
    followLink fs.skeleton root depth = followLink fs root depth := by
  induction depth using Nat.strongRecOn with
  | ind depth ih =>
    funext stages path names
    rw [followLink, followLink, status, lookup_skeleton, ← status, openEntry_skeleton]
    rcases fs.status path with fault | ⟨location, entry⟩
    · rfl
    · cases entry with
      | file content locked => rfl
      | link target => rfl
      | directory entries locked =>
        cases depth with
        | zero => cases fs.openEntry path <;> rfl
        | succ depth =>
          have inside : visit fs.skeleton (followLink fs.skeleton root depth) stages path names location
                (.directory (Entry.skeletonOfAll entries) locked) =
              visit fs (followLink fs root depth) stages path names location (.directory entries locked) := by
            rw [ih depth depth.lt_succ_self]
            exact visit_skeleton fs _ (.directory entries locked) stages path names location
          cases fs.openEntry path with
          | error fault => rfl
          | ok found => simp only [Except.map, Entry.skeleton, inside]

end Walk

open FileSystem Walk

theorem FileSystem.walk_skeleton (fs : FileSystem) (root : Path) (follow : Bool) :
    fs.skeleton.walk root follow = fs.walk root follow := by
  rw [walk, walk, linkStatus, lookup_skeleton, ← linkStatus, status, lookup_skeleton, ← status]
  rcases fs.linkStatus root with fault | ⟨location, entry⟩
  · rfl
  · have count : fs.skeleton.top.directoryCount = fs.top.directoryCount := Entry.directoryCount_skeleton fs.top
    cases follow with
    | true => simp only [Except.map, if_true, followLink_skeleton, count, visit_skeleton]
    | false =>
      simp only [Except.map, passLink_skeleton, visit_skeleton, Bool.false_eq_true, if_false]
      cases entry with
      | file content locked => rfl
      | directory entries locked => rfl
      | link target =>
        rcases fs.status root with fault | ⟨location, entry⟩
        · rfl
        · simp only [Entry.skeleton, visit_skeleton]

theorem scan_skeleton (fs : FileSystem) (root : Path) (follow : Bool) :
    scan fs.skeleton root follow = scan fs root follow := by
  rw [scan, scan, walk_skeleton]

end SourceAtlas
