import SourceAtlas.Proofs.Collection
import SourceAtlas.Proofs.Ledger
import SourceAtlas.Proofs.Scan

/-! What becomes of the names of entries in a scanned tree. The tree keeps the texts that names
are read as. Names that are texts keep their order and their paths; others are only stood in
for, and files can then change places, share a key or be opened somewhere else. -/
namespace SourceAtlas
open FileSystem Walk

namespace Finding
open Directory

def path : Finding → Path
  | directory path _ | file path _ | directoryLink path _ | failure path _ _ | loop path _ _ => path

def change? : Finding → Option Change
  | directory _ names => some (.enter (names.map Bytes.toText))
  | file _ names =>
    (names.map Bytes.toText).getLast?.map fun name => .push (names.map Bytes.toText).dropLast name
  | failure _ names _ => some (.remove (names.map Bytes.toText))
  | directoryLink _ _ | loop _ _ _ => none

theorem addTo_eq (tree : Directory) (finding : Finding) :
    finding.addTo tree = (finding.change?.map (Change.apply tree)).getD tree := by
  cases finding with
  | directory path names | directoryLink path names | failure path names reason | loop path names ancestor =>
    rfl
  | file path names =>
    rw [addTo, change?]
    cases (names.map Bytes.toText).getLast? <;> rfl

theorem foldl_addTo (findings : List Finding) (tree : Directory) :
    findings.foldl addTo tree = (findings.filterMap change?).foldl Change.apply tree := by
  induction findings generalizing tree with
  | nil => rfl
  | cons finding rest ih =>
    rw [List.foldl_cons, ih, addTo_eq, List.filterMap_cons]
    cases finding.change? <;> rfl

/-- The files among findings, with their paths and the names that lead to them. A root that is a
file is none of them. -/
def listed (findings : List Finding) : List (Path × List Name) :=
  findings.filterMap fun
    | file path names => if names = [] then none else some (path, names)
    | _ => none

/-- What the tree has of the names that lead to a file: the texts of its directories and its own. -/
def entryOf (names : List Name) : List String × String :=
  ((names.map Bytes.toText).dropLast, (names.map Bytes.toText).getLastD "")

theorem mem_listed {findings : List Finding} {item : Path × List Name} :
    item ∈ listed findings ↔ .file item.1 item.2 ∈ findings ∧ item.2 ≠ [] := by
  rcases item with ⟨path, names⟩
  simp only [listed, List.mem_filterMap]
  constructor
  · rintro ⟨finding, member, chosen⟩
    cases finding with
    | file other others =>
      by_cases none : others = []
      · simp [none] at chosen
      · simp only [none, if_false, Option.some.injEq, Prod.mk.injEq] at chosen
        exact ⟨chosen.1 ▸ chosen.2 ▸ member, chosen.2 ▸ none⟩
    | directory | directoryLink | failure | loop => cases chosen
  · rintro ⟨member, nonempty⟩
    exact ⟨_, member, by simp [nonempty]⟩

theorem added_eq (findings : List Finding) (ledger : Ledger) :
    ((findings.filterMap change?).foldl Ledger.record ledger).added =
      ledger.added ++ (listed findings).map fun item => entryOf item.2 := by
  induction findings generalizing ledger with
  | nil => simp [listed]
  | cons finding rest ih =>
    cases finding with
    | directory | directoryLink | failure | loop => exact ih _
    | file path names =>
      cases last : (names.map Bytes.toText).getLast? with
      | none =>
        have nothing : names = [] := by simpa using last
        subst nothing
        exact ih ledger
      | some name =>
        have something : names ≠ [] := by
          rintro rfl
          cases last
        have entry : entryOf names = ((names.map Bytes.toText).dropLast, name) := by
          rw [entryOf, List.getLastD_eq_getLast?, last, Option.getD_some]
        simp only [List.filterMap_cons, change?, last, Option.map_some, List.foldl_cons, ih, Ledger.record,
          listed, something, if_false, List.map_cons, entry, List.append_assoc, List.singleton_append]

theorem tracks_scan (fs : FileSystem) (root : Path) (follow : Bool) :
    ((((fs.walk root follow).filterMap change?).foldl Ledger.record .start).Tracks
      (scan fs root follow).tree) := by
  have tracks := Ledger.tracks_foldl ((fs.walk root follow).filterMap change?) Ledger.tracks_start
  rwa [← foldl_addTo] at tracks

end Finding

section Paths

def Reached (root : Path) (findings : List Finding) : Prop :=
  ∀ finding ∈ findings, finding.path = finding.names.foldl Path.join root

variable {fs : FileSystem} {root : Path}

private theorem reached_single {finding : Finding} (here : finding.path = finding.names.foldl Path.join root) :
    Reached root [finding] := by
  intro other member
  rw [List.mem_singleton.mp member]
  exact here

theorem visit_reached {onLink : LinkRule}
    (rule : ∀ stages path names, path = names.foldl Path.join root → Reached root (onLink stages path names))
    (entry : Entry) (stages : List Stage) {path : Path} {names : List Name}
    (here : path = names.foldl Path.join root) (location : Location) :
    Reached root (visit fs onLink stages path names location entry) := by
  induction entry using Entry.below_induction generalizing stages path names location with
  | file content locked =>
    rw [visit]
    exact reached_single here
  | link target =>
    rw [visit]
    exact rule stages path names here
  | directory entries locked ih =>
    intro finding member
    rw [visit] at member
    rcases List.mem_cons.mp member with rfl | below
    · exact here
    cases listed : fs.list path with
    | error fault =>
      rw [listed] at below
      rw [List.mem_singleton.mp below]
      exact here
    | ok found =>
      rw [listed, visitAll_eq] at below
      obtain ⟨visited, inSorted, inside⟩ := List.mem_flatMap.mp below
      obtain ⟨item, member, rfl⟩ := List.mem_map.mp ((sortNamed_perm _).mem_iff.mp inSorted)
      have further : path.join item.1 = (names ++ [item.1]).foldl Path.join root := by
        rw [List.foldl_append, here]
        rfl
      exact ih item member _ further _ finding inside

theorem passLink_reached (stages : List Stage) (path : Path) (names : List Name)
    (here : path = names.foldl Path.join root) : Reached root (passLink fs stages path names) := by
  rw [passLink]
  split
  · exact reached_single here
  · exact reached_single here

theorem followLink_reached (depth : Nat) (stages : List Stage) (path : Path) (names : List Name)
    (here : path = names.foldl Path.join root) : Reached root (followLink fs root depth stages path names) := by
  induction depth using Nat.strongRecOn generalizing stages path names with
  | ind depth ih =>
    rw [followLink]
    split
    · exact reached_single here
    · split
      · exact reached_single rfl
      · split
        · exact reached_single here
        · cases depth with
          | zero => exact fun finding member => absurd member List.not_mem_nil
          | succ depth => exact visit_reached (ih depth depth.lt_succ_self) _ stages here _
    · exact reached_single here

theorem walk_reached (fs : FileSystem) (root : Path) (follow : Bool) : Reached root (fs.walk root follow) := by
  have here : root = ([] : List Name).foldl Path.join root := rfl
  rw [FileSystem.walk]
  split
  · exact reached_single here
  · split
    · exact visit_reached (followLink_reached _) _ _ here _
    · split
      · split
        · exact reached_single here
        · exact visit_reached passLink_reached _ _ here _
      · exact visit_reached passLink_reached _ _ here _

end Paths

section Joining

/-- Bytes that can stand between slashes in a path. -/
structure Segment (bytes : Bytes) : Prop where
  nonempty : bytes ≠ []
  noSlash : Path.slash ∉ bytes

theorem Segment.relative {bytes : Bytes} (segment : Segment bytes) : Path.isAbsolute bytes = false := by
  cases bytes with
  | nil => exact absurd rfl segment.nonempty
  | cons byte rest =>
    have different : byte ≠ Path.slash := fun equal => segment.noSlash (by simp [equal])
    simp [Path.isAbsolute, different]

def separator (path : Path) : Bytes :=
  if path.isEmpty || path.getLast? == some Path.slash then [] else [Path.slash]

theorem join_of_relative {bytes : Bytes} (relative : Path.isAbsolute bytes = false) (path : Path) :
    path.join bytes = path ++ separator path ++ bytes := by
  unfold Path.join separator
  rw [relative]
  split_ifs <;> simp_all

theorem Segment.join_eq {bytes : Bytes} (segment : Segment bytes) (path : Path) :
    path.join bytes = path ++ separator path ++ bytes :=
  join_of_relative segment.relative path

theorem Segment.separator_join {bytes : Bytes} (segment : Segment bytes) (path : Path) :
    separator (path.join bytes) = [Path.slash] := by
  have last : bytes.getLast? ≠ some Path.slash := fun equal =>
    segment.noSlash (List.mem_of_getLast? equal)
  rw [segment.join_eq, separator, List.getLast?_append_of_ne_nil _ segment.nonempty]
  simp [last, segment.nonempty]

theorem foldl_join_eq (path : Path) (first : Bytes) (rest : List Bytes)
    (segments : ∀ bytes ∈ first :: rest, Segment bytes) :
    (first :: rest).foldl Path.join path = path ++ separator path ++ [Path.slash].intercalate (first :: rest) := by
  have segment := segments first List.mem_cons_self
  induction rest generalizing path first with
  | nil => simp [segment.join_eq]
  | cons second rest ih =>
    have others : ∀ bytes ∈ second :: rest, Segment bytes := fun bytes member =>
      segments bytes (List.mem_cons_of_mem _ member)
    rw [List.foldl_cons, ih _ _ others (others second List.mem_cons_self), segment.separator_join,
      segment.join_eq]
    simp [List.intercalate_cons_cons]

theorem foldl_join_injective (path : Path) {parts others : List Bytes}
    (segments : ∀ bytes ∈ parts, Segment bytes) (otherSegments : ∀ bytes ∈ others, Segment bytes)
    (same : parts.foldl Path.join path = others.foldl Path.join path) : parts = others := by
  have longer {first : Bytes} {rest : List Bytes} (clean : ∀ bytes ∈ first :: rest, Segment bytes) :
      (first :: rest).foldl Path.join path ≠ path := by
    rw [foldl_join_eq path first rest clean, List.append_assoc]
    intro equal
    have nothing := List.append_right_eq_self.mp equal
    have nonempty := (clean first List.mem_cons_self).nonempty
    cases rest <;> simp [List.intercalate_cons_cons, nonempty] at nothing
  cases parts with
  | nil =>
    cases others with
    | nil => rfl
    | cons other more => exact absurd same.symm (longer otherSegments)
  | cons first rest =>
    cases others with
    | nil => exact absurd same (longer segments)
    | cons other more =>
      rw [foldl_join_eq path first rest segments, foldl_join_eq path other more otherSegments] at same
      have joined := List.append_cancel_left same
      have split {pieces : List Bytes} (some : pieces ≠ []) (clean : ∀ piece ∈ pieces, Segment piece) :
          ([Path.slash].intercalate pieces).splitOn Path.slash = pieces :=
        List.splitOn_intercalate _ (fun piece member => (clean piece member).noSlash) some
      rw [← split (List.cons_ne_nil first rest) segments, joined,
        split (List.cons_ne_nil other more) otherSegments]

theorem FileSystem.ProperName.segment {name : Name} (proper : ProperName name) : Segment name :=
  ⟨proper.nonempty, proper.noSlash⟩

end Joining

section Names

theorem segment_ofText {text : String} (nonempty : text ≠ "") (unslashed : Unslashed text) : Segment (Bytes.ofText text) where
  nonempty := by
    intro nothing
    have read := Bytes.toText_ofText text
    rw [nothing] at read
    exact nonempty (read.symm.trans (Bytes.toText_ofText ""))
  noSlash slash := unslashed (Bytes.mem_of_mem_ofText (by decide) slash)

theorem segment_toText {name : Name} (proper : ProperName name) :
    Segment (Bytes.ofText (Bytes.toText name)) := by
  refine segment_ofText (Bytes.toText_ne_empty proper.nonempty) fun slash => ?_
  exact proper.noSlash (Bytes.mem_of_mem_toText (by decide) (by decide) slash)

def addressed (root : Path) (names : List Name) : SourceFile :=
  SourceFile.locate .relative root (Finding.entryOf names).1 (Finding.entryOf names).2

theorem entryOf_append {names : List Name} (nonempty : names ≠ []) :
    (Finding.entryOf names).1 ++ [(Finding.entryOf names).2] = names.map Bytes.toText := by
  have some : names.map Bytes.toText ≠ [] := by simpa using nonempty
  rw [Finding.entryOf, List.getLastD_eq_getLast?, List.getLast?_eq_some_getLast some, Option.getD_some,
    List.dropLast_append_getLast]

theorem key_addressed (root : Path) {names : List Name} (nonempty : names ≠ []) :
    (addressed root names).key = "/".intercalate (names.map Bytes.toText) := by
  rw [addressed, SourceFile.locate, entryOf_append nonempty]

theorem location_addressed (root : Path) {names : List Name} (nonempty : names ≠ []) :
    (addressed root names).location =
      (names.map fun name => Bytes.ofText (Bytes.toText name)).foldl Path.join root := by
  rw [addressed, SourceFile.locate, entryOf_append nonempty, List.foldl_map, List.foldl_map]
  rfl

theorem location_addressed_eq_iff (root : Path) {names : List Name} (nonempty : names ≠ [])
    (proper : ∀ name ∈ names, ProperName name) :
    (addressed root names).location = names.foldl Path.join root ↔ ∀ name ∈ names, Bytes.IsText name := by
  rw [location_addressed root nonempty]
  constructor
  · intro same name member
    have equal : (names.map fun name => Bytes.ofText (Bytes.toText name)) = names.map id := by
      rw [List.map_id]
      refine foldl_join_injective root ?_ (fun name inside => (proper name inside).segment) same
      intro bytes inside
      obtain ⟨name, member, rfl⟩ := List.mem_map.mp inside
      exact segment_toText (proper name member)
    exact ⟨_, List.map_inj_left.mp equal name member⟩
  · intro texts
    have equal : (names.map fun name => Bytes.ofText (Bytes.toText name)) = names.map id :=
      List.map_inj_left.mpr fun name member => (texts name member).ofText_toText
    rw [equal, List.map_id]

end Names

section Order
open Listing
variable {fs : FileSystem} {root : Path} {follow : Bool}

theorem listing_files_ascend (way : List String) {stages : List Stage} {path : Path} {node child : Directory}
    {warned : List Warning} (listing : IsListing fs root follow stages path node warned)
    (there : node.at? way = some child) : (child.files.map Bytes.ofText).Pairwise (· < ·) := by
  induction way generalizing stages path node warned with
  | nil =>
    cases there
    cases listing with
    | intro _ filesAscend => exact filesAscend
  | cons name rest ih =>
    obtain ⟨next, found, further⟩ := Option.bind_eq_some_iff.mp there
    have member := Keyed.mem_of_find? found
    cases listing with
    | intro _ _ _ _ directories below =>
      obtain ⟨raw, entry, location, inside, rfl, entered⟩ := (directories name).mp ⟨next, member⟩
      exact ih (below raw entry location next inside entered member) further

theorem rootListing_files_ascend {way : List String} {node child : Directory} {warned : List Warning}
    (listing : IsRootListing fs root follow node warned) (there : node.at? way = some child) :
    (child.files.map Bytes.ofText).Pairwise (· < ·) := by
  have nothing (empty : node = .empty) : (child.files.map Bytes.ofText).Pairwise (· < ·) := by
    subst empty
    cases way with
    | nil =>
      cases there
      exact List.Pairwise.nil
    | cons name rest => cases there
  unfold IsRootListing at listing
  split at listing
  · exact nothing listing.1
  · split at listing
    · exact listing_files_ascend way listing there
    · exact nothing listing.1
  · exact nothing listing.1

/-- Every directory of a scanned tree has the texts of the files that the walk lists there, in the
order of the walk. Where names are texts, that is the order of the texts, each once. -/
theorem scanned_files (fs : FileSystem) (sound : fs.WellFormed) (root : Path) (follow : Bool)
    (way : List String) (node : Directory) (there : (scan fs root follow).tree.at? way = some node) :
    node.files = (((Finding.listed (fs.walk root follow)).map fun item => Finding.entryOf item.2).filter
        fun entry => entry.1 = way).map (·.2) ∧
      (fs.Textual → (node.files.map Bytes.ofText).Pairwise (· < ·)) := by
  constructor
  · have files := (Finding.tracks_scan fs root follow).describes.files_eq way node there
    rw [files, Directory.Ledger.addedAt, Finding.added_eq]
    rfl
  · exact fun textual => rootListing_files_ascend (walk_meets sound textual root follow) there

/-- A directory `r` with a file whose name is one character and one whose name is no text. -/
def astralSystem : FileSystem where
  top := .directory [([0x72], .directory [
    ([0xF0, 0x9F, 0x98, 0x80], .file [] false), ([0xFF], .file [] false)] false)] false
  working := []

theorem scanned_files_astral : astralSystem.WellFormed ∧
    (scan astralSystem [0x72] false).tree.at? [] = some ⟨[], ["😀", "\uFFFD"]⟩ ∧
    ["😀", "\uFFFD"] = (((Finding.listed (astralSystem.walk [0x72] false)).map fun item =>
      Finding.entryOf item.2).filter fun entry => entry.1 = []).map (·.2) := by
  have sound : astralSystem.WellFormed := by decide
  have there : (scan astralSystem [0x72] false).tree.at? [] = some ⟨[], ["😀", "\uFFFD"]⟩ := by decide +kernel
  exact ⟨sound, there, (scanned_files astralSystem sound [0x72] false [] _ there).1⟩

/-- The order of the names is not that of the texts they are read as. -/
theorem scanned_files_unsorted : astralSystem.WellFormed ∧
    ∃ node, (scan astralSystem [0x72] false).tree.at? [] = some node ∧
      ¬ (node.files.map Bytes.ofText).Pairwise (· ≤ ·) := by
  refine ⟨by decide, ⟨[], ["😀", "\uFFFD"]⟩, by decide +kernel, by decide⟩

end Order

section Keys
variable {fs : FileSystem} {root : Path} {follow : Bool}

theorem listed_proper (sound : fs.WellFormed) {item : Path × List Name}
    (member : item ∈ Finding.listed (fs.walk root follow)) :
    item.2 ≠ [] ∧ (∀ name ∈ item.2, ProperName name) ∧ item.1 = item.2.foldl Path.join root := by
  obtain ⟨found, nonempty⟩ := Finding.mem_listed.mp member
  exact ⟨nonempty, walk_properlyNamed sound root follow _ found, walk_reached fs root follow _ found⟩

theorem collect_scan_perm (fs : FileSystem) (root : Path) (follow : Bool) :
    ((scan fs root follow).tree.collect .relative root).Perm
      ((Finding.listed (fs.walk root follow)).map fun item => addressed root item.2) := by
  have collected := (Finding.tracks_scan fs root follow).collect_perm .relative root
  rw [Finding.added_eq, List.map_append, List.map_map] at collected
  exact collected

theorem keys_nodup_iff (sound : fs.WellFormed) :
    (((scan fs root follow).tree.collect .relative root).map (·.key)).Nodup ↔
      ((Finding.listed (fs.walk root follow)).map fun item => item.2.map Bytes.toText).Nodup := by
  have keys : ((Finding.listed (fs.walk root follow)).map fun item => addressed root item.2).map (·.key) =
      ((Finding.listed (fs.walk root follow)).map fun item => item.2.map Bytes.toText).map
        fun texts => "/".intercalate texts := by
    rw [List.map_map, List.map_map]
    exact List.map_congr_left fun item member => key_addressed root (listed_proper sound member).1
  rw [((collect_scan_perm fs root follow).map (·.key)).nodup_iff, keys]
  refine ⟨List.Nodup.of_map _, fun distinct => distinct.map_on ?_⟩
  intro texts member others otherMember same
  have unslashed {texts : List String}
      (member : texts ∈ (Finding.listed (fs.walk root follow)).map fun item => item.2.map Bytes.toText) :
      texts ≠ [] ∧ ∀ text ∈ texts, Unslashed text := by
    obtain ⟨item, inside, rfl⟩ := List.mem_map.mp member
    obtain ⟨nonempty, proper, _⟩ := listed_proper sound inside
    refine ⟨by simpa using nonempty, ?_⟩
    intro text inTexts slash
    obtain ⟨name, inNames, rfl⟩ := List.mem_map.mp inTexts
    exact (proper name inNames).noSlash (Bytes.mem_of_mem_toText (by decide) (by decide) slash)
  exact intercalate_injective (unslashed member).1 (unslashed otherMember).1 (unslashed member).2
    (unslashed otherMember).2 same

theorem texts_nodup (sound : fs.WellFormed) (textual : fs.Textual) :
    ((Finding.listed (fs.walk root follow)).map fun item => item.2.map Bytes.toText).Nodup := by
  have tracks := Finding.tracks_scan fs root follow
  have each (way : List String) :
      ((((fs.walk root follow).filterMap Finding.change?).foldl Directory.Ledger.record .start).addedAt way).Nodup := by
    by_cases there : ∃ node, (scan fs root follow).tree.at? way = some node
    · obtain ⟨node, found⟩ := there
      have ascend := rootListing_files_ascend (Listing.walk_meets sound textual root follow) found
      rw [← tracks.describes.files_eq way node found]
      refine (List.pairwise_map.mp ascend).imp ?_
      rintro file other less rfl
      exact List.lt_irrefl _ less
    · rw [tracks.describes.present_iff] at there
      rw [(tracks.absent way there).2]
      exact List.nodup_nil
  have added := Directory.Ledger.nodup_added each
  rw [Finding.added_eq] at added
  refine List.Nodup.of_map (fun texts => (texts.dropLast, texts.getLastD "")) ?_
  rw [List.map_map]
  exact added

/-- Files below a root are collected once each, under the texts of their names. Keys tell them
apart exactly if these texts do, and a file is opened where the walk found it exactly if its
names are texts; so both is the case where all names are texts. -/
theorem relative_addressing (fs : FileSystem) (sound : fs.WellFormed) (root : Path) (follow : Bool) :
    ((scan fs root follow).tree.collect .relative root).Perm
        ((Finding.listed (fs.walk root follow)).map fun item => addressed root item.2) ∧
      ((((scan fs root follow).tree.collect .relative root).map (·.key)).Nodup ↔
        ((Finding.listed (fs.walk root follow)).map fun item => item.2.map Bytes.toText).Nodup) ∧
      (∀ item ∈ Finding.listed (fs.walk root follow),
        (addressed root item.2).location = item.1 ↔ ∀ name ∈ item.2, Bytes.IsText name) ∧
      (fs.Textual → (((scan fs root follow).tree.collect .relative root).map (·.key)).Nodup ∧
        (((scan fs root follow).tree.collect .relative root).map (·.location)).Perm
          ((Finding.listed (fs.walk root follow)).map (·.1))) := by
  have opened (item) (member : item ∈ Finding.listed (fs.walk root follow)) :
      (addressed root item.2).location = item.1 ↔ ∀ name ∈ item.2, Bytes.IsText name := by
    obtain ⟨nonempty, proper, reached⟩ := listed_proper sound member
    rw [reached]
    exact location_addressed_eq_iff root nonempty proper
  refine ⟨collect_scan_perm fs root follow, keys_nodup_iff sound, opened, fun textual => ⟨?_, ?_⟩⟩
  · exact (keys_nodup_iff sound).mpr (texts_nodup sound textual)
  · have locations : ((Finding.listed (fs.walk root follow)).map fun item => addressed root item.2).map
        (·.location) = (Finding.listed (fs.walk root follow)).map (·.1) := by
      rw [List.map_map]
      refine List.map_congr_left fun item member => (opened item member).mpr fun name inside => ?_
      exact ⟨_, walk_textual textual root follow _ (Finding.mem_listed.mp member).1 name inside⟩
    rw [← locations]
    exact (collect_scan_perm fs root follow).map (·.location)

/-- A directory `r` with two files whose names are no texts. -/
def strangeSystem : FileSystem where
  top := .directory [([0x72], .directory [([0xFE], .file [] false), ([0xFF], .file [] false)] false)] false
  working := []

theorem relative_addressing_strange : strangeSystem.WellFormed ∧
    ((scan strangeSystem [0x72] false).tree.collect .relative [0x72]).Perm
      ((Finding.listed (strangeSystem.walk [0x72] false)).map fun item => addressed [0x72] item.2) := by
  have sound : strangeSystem.WellFormed := by decide
  exact ⟨sound, (relative_addressing strangeSystem sound [0x72] false).1⟩

/-- Two files share a key, and both are opened where neither of them is. -/
theorem relative_addressing_collides : strangeSystem.WellFormed ∧
    ((scan strangeSystem [0x72] false).tree.collect .relative [0x72]).map (·.key) = ["\uFFFD", "\uFFFD"] ∧
    ∀ file ∈ (scan strangeSystem [0x72] false).tree.collect .relative [0x72],
      strangeSystem.read file.location = .error .missing := by
  decide +kernel

end Keys

end SourceAtlas
