import SourceAtlas.Scan
import SourceAtlas.Proofs.Resolution
import SourceAtlas.Proofs.Utf8
import Mathlib.Data.List.Nodup
import Mathlib.Data.List.Perm.Basic

/-! The listing of a directory, said without a walk: which of its entries are files, which
are directories that are entered, and which only give a warning. -/
namespace SourceAtlas.Listing
open FileSystem Walk

section Entries
variable (fs : FileSystem) (root : Path) (follow : Bool)

def Listable (path : Path) : Prop :=
  ∃ entries, fs.list path = .ok entries

/-- Whether an entry is listed as a file: it is no directory, and no link to one. A link that is
followed also has to lead somewhere. -/
def IsFile (path : Path) : Entry → Prop
  | .file _ _ => True
  | .directory _ _ => False
  | .link _ => fs.isDirectory path = false ∧ (follow = true → ∃ found, fs.status path = .ok found)

/-- Whether an entry is listed as a directory, and where that one is. A link has to be followed
and must not lead back to a directory on the way. -/
def IsEntered (stages : List Stage) (path : Path) (location : Location) : Entry → Prop
  | .file _ _ => False
  | .directory _ _ => Listable fs path ∧ ∃ found, fs.status path = .ok (location, found)
  | .link _ => follow = true ∧ Listable fs path ∧ (∃ found, fs.status path = .ok (location, found)) ∧
      ∀ stage ∈ stages, stage.location ≠ location

def unwalkable (path : Path) (reason : String) : Warning :=
  Warning.ofProblem path (.unwalkable path reason)

def operationFailed (path : Path) (fault : Fault) : String :=
  "IO error for operation on " ++ path.display ++ ": " ++ fault.message

/-- The warning that an entry gives: a directory that cannot be listed or, where links are
followed, a link that leads nowhere, to such a directory, or back to one on the way. -/
inductive Warns (stages : List Stage) (path : Path) : Entry → Warning → Prop
  | unlistable {entries : List (Name × Entry)} {locked : Bool} {fault : Fault}
      (failed : fs.list path = .error fault) :
      Warns stages path (.directory entries locked) (unwalkable path (operationFailed path fault))
  | unresolved {target : Path} {fault : Fault} (followed : follow = true)
      (failed : fs.status path = .error fault) :
      Warns stages path (.link target) (unwalkable path (operationFailed path fault))
  | unopened {target : Path} {fault : Fault} (followed : follow = true)
      (found : fs.isDirectory path = true) (failed : fs.list path = .error fault) :
      Warns stages path (.link target) (unwalkable root fault.message)
  | loops {target : Path} {location : Location} {entry : Entry} {stage : Stage}
      (followed : follow = true) (listable : Listable fs path)
      (found : fs.status path = .ok (location, entry))
      (back : stages.find? (·.location = location) = some stage) :
      Warns stages path (.link target)
        (unwalkable path ("symlink loop back to " ++ stage.path.display))

variable {fs root follow} {stages : List Stage} {path : Path} {location : Location} {entry : Entry}

theorem Listable.isDirectory (listable : Listable fs path) : fs.isDirectory path = true := by
  obtain ⟨entries, listed⟩ := listable
  obtain ⟨location, found⟩ := status_of_list listed
  exact isDirectory_of_status found

theorem IsEntered.listable (entered : IsEntered fs follow stages path location entry) :
    Listable fs path := by
  cases entry with
  | file content locked => exact entered.elim
  | directory entries locked => exact entered.1
  | link target => exact entered.2.1

theorem IsEntered.status (entered : IsEntered fs follow stages path location entry) :
    ∃ entries, fs.status path = .ok (location, .directory entries false) := by
  obtain ⟨entries, listed⟩ := entered.listable
  obtain ⟨other, found⟩ := status_of_list listed
  have leads : ∃ found, fs.status path = .ok (location, found) := by
    cases entry with
    | file content locked => exact entered.elim
    | directory entries locked => exact entered.2
    | link target => exact entered.2.2.1
  obtain ⟨found', same⟩ := leads
  rw [found] at same
  simp only [Except.ok.injEq, Prod.mk.injEq] at same
  exact ⟨entries, by rw [found, same.1]⟩

theorem IsEntered.location_unique {other : Location} (entered : IsEntered fs follow stages path location entry)
    (again : IsEntered fs follow stages path other entry) : location = other := by
  obtain ⟨entries, found⟩ := entered.status
  obtain ⟨others, same⟩ := again.status
  rw [found] at same
  simp only [Except.ok.injEq, Prod.mk.injEq] at same
  exact same.1

theorem IsFile.not_entered (file : IsFile fs follow path entry) :
    ¬ IsEntered fs follow stages path location entry := by
  intro entered
  cases entry with
  | file content locked => exact entered
  | directory entries locked => exact file
  | link target =>
    have leads := entered.listable.isDirectory
    rw [file.1] at leads
    cases leads

theorem IsFile.not_warns {warning : Warning} (file : IsFile fs follow path entry) :
    ¬ Warns fs root follow stages path entry warning := by
  intro warns
  cases warns with
  | unlistable failed => exact file
  | unresolved followed failed =>
    obtain ⟨found, resolved⟩ := file.2 followed
    rw [failed] at resolved
    cases resolved
  | unopened followed found failed =>
    rw [file.1] at found
    cases found
  | loops followed listable found back =>
    have leads := listable.isDirectory
    rw [file.1] at leads
    cases leads

theorem IsEntered.not_warns {warning : Warning} (entered : IsEntered fs follow stages path location entry) :
    ¬ Warns fs root follow stages path entry warning := by
  intro warns
  obtain ⟨entries, listed⟩ := entered.listable
  obtain ⟨others, found⟩ := entered.status
  cases warns with
  | unlistable failed => rw [listed] at failed; cases failed
  | unresolved followed failed => rw [found] at failed; cases failed
  | unopened followed leads failed => rw [listed] at failed; cases failed
  | loops followed listable again back =>
    rw [found] at again
    simp only [Except.ok.injEq, Prod.mk.injEq] at again
    have here := List.find?_some back
    exact entered.2.2.2 _ (List.mem_of_find?_eq_some back) (by simpa [again.1] using here)

theorem Warns.unique {first second : Warning} (warns : Warns fs root follow stages path entry first)
    (again : Warns fs root follow stages path entry second) : first = second := by
  cases warns with
  | unlistable failed =>
    cases again with
    | unlistable other => rw [failed] at other; cases other; rfl
  | unresolved followed failed =>
    cases again with
    | unresolved _ other => rw [failed] at other; cases other; rfl
    | unopened _ found _ =>
      obtain ⟨_, _, _, resolved⟩ := status_of_isDirectory found
      rw [failed] at resolved; cases resolved
    | loops _ _ found _ => rw [failed] at found; cases found
  | unopened followed found failed =>
    cases again with
    | unresolved _ other =>
      obtain ⟨_, _, _, resolved⟩ := status_of_isDirectory found
      rw [other] at resolved; cases resolved
    | unopened _ _ other => rw [failed] at other; cases other; rfl
    | loops _ listable _ _ =>
      obtain ⟨entries, listed⟩ := listable
      rw [failed] at listed; cases listed
  | loops followed listable found back =>
    cases again with
    | unresolved _ other => rw [found] at other; cases other
    | unopened _ _ other =>
      obtain ⟨entries, listed⟩ := listable
      rw [other] at listed; cases listed
    | loops _ _ other back' =>
      rw [found] at other
      simp only [Except.ok.injEq, Prod.mk.injEq] at other
      rw [← other.1, back] at back'
      cases back'
      rfl

end Entries

/-- The listing of the directory at a path, which `stages` leads to, and the warnings about it
and what is below it. Names are in the order of their bytes; `told` gives the warnings about
one entry and what is below that. -/
inductive IsListing (fs : FileSystem) (root : Path) (follow : Bool) :
    List Stage → Path → Directory → List Warning → Prop
  | intro {stages : List Stage} {path : Path} {entries order : List (Name × Entry)} {node : Directory}
      {told : Name × Entry → List Warning}
      (listed : fs.list path = .ok entries)
      (filesAscend : (node.files.map Bytes.ofText).Pairwise (· < ·))
      (files : ∀ text, text ∈ node.files ↔ ∃ name entry, (name, entry) ∈ entries ∧
        text = Bytes.toText name ∧ IsFile fs follow (path.join name) entry)
      (directoriesAscend : (node.directories.map fun child => Bytes.ofText child.1).Pairwise (· < ·))
      (directories : ∀ text, (∃ child, (text, child) ∈ node.directories) ↔
        ∃ name entry location, (name, entry) ∈ entries ∧ text = Bytes.toText name ∧
          IsEntered fs follow stages (path.join name) location entry)
      (below : ∀ name entry location child, (name, entry) ∈ entries →
        IsEntered fs follow stages (path.join name) location entry →
        (Bytes.toText name, child) ∈ node.directories →
        IsListing fs root follow (⟨path.join name, location⟩ :: stages) (path.join name) child
          (told (name, entry)))
      (warned : ∀ name entry warning, (name, entry) ∈ entries →
        Warns fs root follow stages (path.join name) entry warning → told (name, entry) = [warning])
      (silent : ∀ name entry, (name, entry) ∈ entries →
        (∀ location, ¬ IsEntered fs follow stages (path.join name) location entry) →
        (∀ warning, ¬ Warns fs root follow stages (path.join name) entry warning) → told (name, entry) = [])
      (ordered : order.Perm entries ∧ order.Pairwise fun left right => left.1 < right.1) :
      IsListing fs root follow stages path node (order.flatMap told)

def isLink (fs : FileSystem) (path : Path) : Bool :=
  match fs.linkStatus path with
  | .ok (_, .link _) => true
  | _ => false

/-- The listing of a root. It is empty, with one warning, where the root leads nowhere or to a
directory that cannot be listed, and empty without one where it leads to something else. -/
def IsRootListing (fs : FileSystem) (root : Path) (follow : Bool) (node : Directory)
    (warnings : List Warning) : Prop :=
  match fs.status root with
  | .error fault => node = .empty ∧ warnings = [unwalkable root (operationFailed root fault)]
  | .ok (location, .directory _ _) =>
    match fs.list root with
    | .ok _ => IsListing fs root follow [⟨root, location⟩] root node warnings
    | .error fault => node = .empty ∧ warnings = [unwalkable root
        (if follow && isLink fs root then fault.message else operationFailed root fault)]
  | .ok _ => node = .empty ∧ warnings = []

section Unique
variable {fs : FileSystem} {root : Path} {follow : Bool}

private theorem eq_of_ascending {α : Type} (key : α → Bytes) {left right : List α}
    (leftAscends : (left.map key).Pairwise (· < ·)) (rightAscends : (right.map key).Pairwise (· < ·))
    (same : ∀ item, item ∈ left ↔ item ∈ right) : left = right := by
  have ascending : ∀ {items : List α}, (items.map key).Pairwise (· < ·) →
      items.Pairwise (fun first second => key first < key second) ∧ items.Nodup := by
    intro items ascends
    have pairs := List.pairwise_map.mp ascends
    have different {first second : α} (less : key first < key second) : first ≠ second := by
      rintro rfl
      exact List.lt_irrefl _ less
    exact ⟨pairs, pairs.imp different⟩
  obtain ⟨leftPairs, leftNodup⟩ := ascending leftAscends
  obtain ⟨rightPairs, rightNodup⟩ := ascending rightAscends
  have permuted : left.Perm right := (List.perm_ext_iff_of_nodup leftNodup rightNodup).mpr same
  have asymmetric (first second : α) (_ : first ∈ left) (_ : second ∈ right) (less : key first < key second)
      (greater : key second < key first) : first = second :=
    absurd greater (List.lt_asymm less)
  exact permuted.eq_of_pairwise asymmetric leftPairs rightPairs

theorem IsListing.unique {stages : List Stage} {path : Path} {left right : Directory}
    {leftTold rightTold : List Warning} (first : IsListing fs root follow stages path left leftTold)
    (second : IsListing fs root follow stages path right rightTold) :
    left = right ∧ leftTold = rightTold := by
  induction first generalizing right rightTold with
  | @intro stages path entries order left told listed filesAscend files directoriesAscend directories
      below warned silent ordered ih =>
    cases second with
    | @intro _ _ entries' order' _ told' listed' filesAscend' files' directoriesAscend' directories'
        below' warned' silent' ordered' =>
      obtain rfl : entries = entries' := by
        rw [listed] at listed'
        exact Except.ok.inj listed'
      -- What is entered has one listing by induction, and what is not entered has only warnings.
      have agree : ∀ name entry location child child', (name, entry) ∈ entries →
          IsEntered fs follow stages (path.join name) location entry →
          (Bytes.toText name, child) ∈ left.directories →
          (Bytes.toText name, child') ∈ right.directories →
          child = child' ∧ told (name, entry) = told' (name, entry) :=
        fun name entry location child child' member entered inLeft inRight =>
          ih name entry location child member entered inLeft
            (below' name entry location child' member entered inRight)
      have sameFiles : left.files = right.files :=
        eq_of_ascending Bytes.ofText filesAscend filesAscend' fun text =>
          (files text).trans (files' text).symm
      have sameMembers : ∀ item, item ∈ left.directories ↔ item ∈ right.directories := by
        rintro ⟨text, child⟩
        constructor
        · intro inLeft
          obtain ⟨name, entry, location, member, rfl, entered⟩ := (directories text).mp ⟨child, inLeft⟩
          obtain ⟨child', inRight⟩ := (directories' _).mpr ⟨name, entry, location, member, rfl, entered⟩
          rwa [(agree name entry location child child' member entered inLeft inRight).1]
        · intro inRight
          obtain ⟨name, entry, location, member, rfl, entered⟩ := (directories' text).mp ⟨child, inRight⟩
          obtain ⟨child', inLeft⟩ := (directories _).mpr ⟨name, entry, location, member, rfl, entered⟩
          rwa [← (agree name entry location child' child member entered inLeft inRight).1]
      have sameDirectories : left.directories = right.directories :=
        eq_of_ascending (fun child : String × Directory => Bytes.ofText child.1) directoriesAscend
          directoriesAscend' sameMembers
      have sameTold : ∀ item ∈ entries, told item = told' item := by
        rintro ⟨name, entry⟩ member
        by_cases entered : ∃ location, IsEntered fs follow stages (path.join name) location entry
        · obtain ⟨location, entered⟩ := entered
          obtain ⟨child, inLeft⟩ := (directories _).mpr ⟨name, entry, location, member, rfl, entered⟩
          obtain ⟨child', inRight⟩ := (directories' _).mpr ⟨name, entry, location, member, rfl, entered⟩
          exact (agree name entry location child child' member entered inLeft inRight).2
        · by_cases warns : ∃ warning, Warns fs root follow stages (path.join name) entry warning
          · obtain ⟨warning, warns⟩ := warns
            rw [warned name entry warning member warns, warned' name entry warning member warns]
          · rw [silent name entry member (not_exists.mp entered) (not_exists.mp warns),
              silent' name entry member (not_exists.mp entered) (not_exists.mp warns)]
      have sameOrder : order = order' :=
        eq_of_ascending (·.1) (List.pairwise_map.mpr ordered.2) (List.pairwise_map.mpr ordered'.2) fun _ =>
          (ordered.1.trans ordered'.1.symm).mem_iff
      refine ⟨?_, ?_⟩
      · rcases left with ⟨leftDirectories, leftFiles⟩
        rcases right with ⟨rightDirectories, rightFiles⟩
        simp only at sameFiles sameDirectories
        rw [sameFiles, sameDirectories]
      · rw [← sameOrder]
        exact List.flatMap_congr fun item member => sameTold item (ordered.1.subset member)

theorem IsRootListing.unique {left right : Directory} {leftTold rightTold : List Warning}
    (first : IsRootListing fs root follow left leftTold)
    (second : IsRootListing fs root follow right rightTold) : left = right ∧ leftTold = rightTold := by
  unfold IsRootListing at first second
  cases found : fs.status root with
  | error fault =>
    simp only [found] at first second
    exact ⟨first.1.trans second.1.symm, first.2.trans second.2.symm⟩
  | ok result =>
    obtain ⟨location, entry⟩ := result
    cases entry with
    | directory entries locked =>
      simp only [found] at first second
      cases listed : fs.list root with
      | ok entries =>
        simp only [listed] at first second
        exact first.unique second
      | error fault =>
        simp only [listed] at first second
        exact ⟨first.1.trans second.1.symm, first.2.trans second.2.symm⟩
    | file content locked | link target =>
      simp only [found] at first second
      exact ⟨first.1.trans second.1.symm, first.2.trans second.2.symm⟩

end Unique

end SourceAtlas.Listing
