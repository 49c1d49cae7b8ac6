import SourceAtlas.Proofs.Outcome
import SourceAtlas.Proofs.Walk

/-! A scan builds the listing of its root. -/
namespace SourceAtlas.Listing
open FileSystem Walk

section Visits
variable {fs : FileSystem} {root : Path} {follow : Bool}

theorem visit_directory (onLink : LinkRule) {stages : List Stage} {path : Path} (names : List Name)
    {location : Location} {entries : List (Name × Entry)}
    (found : fs.status path = .ok (location, .directory entries false)) :
    visit fs onLink stages path names location (.directory entries false) =
      .directory path names :: (sortNamed entries).flatMap fun item =>
        visit fs onLink (⟨path, location⟩ :: stages) (path.join item.1) (names ++ [item.1])
          (location ++ [item.1]) item.2 := by
  rw [visit, list_of_status found]
  simp only [Bool.false_eq_true, if_false, visitAll_eq]
  rw [sortNamed_map, List.flatMap_map]

def Meets (fs : FileSystem) (root : Path) (follow : Bool) (stages : List Stage) (path : Path)
    (names : List Name) (name : Name) (entry : Entry) (findings : List Finding) : Prop :=
  ∃ outcome, IsOutcome fs root follow stages path entry outcome (told findings) ∧
    Settle findings names name outcome

def MeetsLinks (fs : FileSystem) (root : Path) (follow : Bool) (onLink : LinkRule)
    (holds : List Stage → Prop) : Prop :=
  ∀ stages path names name target, holds stages →
    Meets fs root follow stages path names name (.link target) (onLink stages path (names ++ [name]))

theorem listing_of_visits (sound : fs.WellFormed) (textual : fs.Textual) {stages : List Stage}
    {path : Path} {location : Location} {entries : List (Name × Entry)} (names : List Name)
    (found : fs.status path = .ok (location, .directory entries false))
    {findings : Name × Entry → List Finding}
    (each : ∀ item ∈ entries,
      Meets fs root follow stages (path.join item.1) names item.1 item.2 (findings item)) :
    ∃ node, IsListing fs root follow stages path node (told ((sortNamed entries).flatMap findings)) ∧
      ∀ tree, ((sortNamed entries).flatMap findings).foldl Finding.addTo
          (Directory.putAt (names.map Bytes.toText) .empty tree) =
        Directory.putAt (names.map Bytes.toText) node tree := by
  have stored := status_at? found
  have total : ∀ item, ∃ outcome, item ∈ entries →
      IsOutcome fs root follow stages (path.join item.1) item.2 outcome (told (findings item)) ∧
        Settle (findings item) names item.1 outcome := by
    intro item
    by_cases member : item ∈ entries
    · obtain ⟨outcome, is, settles⟩ := each item member
      exact ⟨outcome, fun _ => ⟨is, settles⟩⟩
    · exact ⟨.absent, fun inside => absurd inside member⟩
  choose outcome meets using total
  refine ⟨assemble outcome (fun item => Bytes.toText item.1) (sortNamed entries) .empty, ?_, ?_⟩
  · rw [told_flatMap]
    exact listing_of_outcomes sound textual found fun item member => (meets item member).1
  · intro tree
    refine settle_all ?_ (texts_distinct sound textual stored) (fun _ _ => rfl) tree
    exact fun item member => (meets item ((sortNamed_perm entries).subset member)).2

theorem meets_directory (sound : fs.WellFormed) (textual : fs.Textual) (onLink : LinkRule)
    {stages : List Stage} {path : Path} {names : List Name} {name : Name} {location : Location}
    {entries : List (Name × Entry)} {entry : Entry}
    (found : fs.status path = .ok (location, .directory entries false))
    (entered : IsEntered fs follow stages path location entry)
    (each : ∀ item ∈ entries, Meets fs root follow (⟨path, location⟩ :: stages) (path.join item.1)
      (names ++ [name]) item.1 item.2 (visit fs onLink (⟨path, location⟩ :: stages) (path.join item.1)
        (names ++ [name] ++ [item.1]) (location ++ [item.1]) item.2)) :
    Meets fs root follow stages path names name entry
      (visit fs onLink stages path (names ++ [name]) location (.directory entries false)) := by
  obtain ⟨node, listing, inside⟩ := listing_of_visits sound textual (names ++ [name]) found each
  rw [visit_directory onLink _ found]
  exact ⟨.directory node, .directory entered listing, settle_directory path inside⟩

theorem visit_meets (sound : fs.WellFormed) (textual : fs.Textual) {onLink : LinkRule}
    {holds : List Stage → Prop} (keeps : ∀ stage stages, holds stages → holds (stage :: stages))
    (links : MeetsLinks fs root follow onLink holds) (entry : Entry) {stages : List Stage}
    {path : Path} {names : List Name} {name : Name} {location : Location} (holding : holds stages)
    (found : (∀ target, entry ≠ .link target) → fs.status path = .ok (location, entry)) :
    Meets fs root follow stages path names name entry
      (visit fs onLink stages path (names ++ [name]) location entry) := by
  induction entry using Entry.below_induction generalizing stages path names name location with
  | file content locked =>
    rw [visit]
    exact ⟨.file, .file trivial, settle_file path⟩
  | link target =>
    rw [visit]
    exact links stages path names name target holding
  | directory entries locked ih =>
    have found := found (by simp)
    have stored := status_at? found
    cases locked with
    | true =>
      have failed := list_of_status found
      simp only [if_true] at failed
      rw [visit, failed]
      exact ⟨.absent, .warned (.unlistable failed), settle_unlistable path path _⟩
    | false =>
      have entered : IsEntered fs follow stages path location (.directory entries false) :=
        ⟨⟨entries, list_of_status found⟩, _, found⟩
      refine meets_directory sound textual onLink found entered ?_
      rintro ⟨child, entry⟩ member
      refine ih (child, entry) member (keeps _ _ holding) fun solid => ?_
      exact status_join found (sound.proper stored member)
        (findNamed?_of_mem (sound.distinct stored) member) solid

theorem passLink_meets : MeetsLinks fs root false (passLink fs) fun _ => True := by
  intro stages path names name target _
  unfold passLink
  split_ifs with leads
  · refine ⟨.absent, .passed ?_ ?_ ?_, settle_directoryLink path⟩
    · rintro ⟨not, _⟩
      rw [leads] at not
      cases not
    · rintro location ⟨followed, _⟩
      cases followed
    · rintro warning warns
      cases warns <;> contradiction
  · exact ⟨.file, .file ⟨by simpa using leads, by simp⟩, settle_file path⟩

/-- Links can be followed so often inside one another: the directories that links have led to
are on the way, each once. -/
def WithinDepth (fs : FileSystem) (depth : Nat) (stages : List Stage) : Prop :=
  ∃ followed : List Location, followed.Nodup ∧
    (∀ location ∈ followed, ∃ stage ∈ stages, stage.location = location) ∧
    (∀ location ∈ followed, ∃ entries locked, fs.top.at? location = some (.directory entries locked)) ∧
    fs.top.directoryCount ≤ followed.length + depth

theorem WithinDepth.cons {depth : Nat} (stage : Stage) (stages : List Stage)
    (within : WithinDepth fs depth stages) : WithinDepth fs depth (stage :: stages) := by
  obtain ⟨followed, distinct, onWay, stored, enough⟩ := within
  refine ⟨followed, distinct, ?_, stored, enough⟩
  intro location member
  obtain ⟨stage, inside, same⟩ := onWay location member
  exact ⟨stage, List.mem_cons_of_mem _ inside, same⟩

theorem WithinDepth.enter {depth : Nat} {stages : List Stage} {location : Location}
    {entries : List (Name × Entry)} {locked : Bool} (within : WithinDepth fs depth stages)
    (here : fs.top.at? location = some (.directory entries locked))
    (new : ∀ stage ∈ stages, stage.location ≠ location) (path : Path) :
    ∃ left, depth = left + 1 ∧ WithinDepth fs left (⟨path, location⟩ :: stages) := by
  obtain ⟨followed, distinct, onWay, stored, enough⟩ := within
  have further : (location :: followed).Nodup := by
    refine List.nodup_cons.mpr ⟨fun member => ?_, distinct⟩
    obtain ⟨stage, inside, same⟩ := onWay location member
    exact new stage inside same
  have directories : ∀ other ∈ location :: followed, ∃ entries locked,
      fs.top.at? other = some (.directory entries locked) := by
    intro other member
    rcases List.mem_cons.mp member with rfl | old
    · exact ⟨entries, locked, here⟩
    · exact stored other old
  have bound := Entry.length_le_directoryCount further directories
  simp only [List.length_cons] at bound
  obtain ⟨left, rfl⟩ : ∃ left, depth = left + 1 := ⟨depth - 1, by omega⟩
  refine ⟨left, rfl, location :: followed, further, ?_, directories, by simp only [List.length_cons]; omega⟩
  intro other member
  rcases List.mem_cons.mp member with rfl | old
  · exact ⟨_, List.mem_cons_self .., rfl⟩
  · obtain ⟨stage, inside, same⟩ := onWay other old
    exact ⟨stage, List.mem_cons_of_mem _ inside, same⟩

theorem followLink_meets (sound : fs.WellFormed) (textual : fs.Textual) (depth : Nat) :
    MeetsLinks fs root true (followLink fs root depth) (WithinDepth fs depth) := by
  induction depth using Nat.strongRecOn with
  | ind depth ih =>
    intro stages path names name target within
    rw [followLink]
    cases found : fs.status path with
    | error fault =>
      exact ⟨.absent, .warned (.unresolved rfl found), settle_failure path _⟩
    | ok result =>
      obtain ⟨location, entry⟩ := result
      cases entry with
      | file content locked | link onward =>
        exact ⟨.file, .file ⟨by simp [isDirectory, found], fun _ => ⟨_, found⟩⟩, settle_file path⟩
      | directory entries locked =>
        have stored := status_at? found
        have leads := isDirectory_of_status found
        have listed := list_of_status found
        simp only [openEntry_of_status found]
        cases locked with
        | true =>
          exact ⟨.absent, .warned (.unopened rfl leads (by simpa using listed)), settle_failure_root root _⟩
        | false =>
          have listable : Listable fs path := ⟨entries, by simpa using listed⟩
          simp only [Bool.false_eq_true, if_false]
          cases back : stages.find? (·.location = location) with
          | some stage =>
            exact ⟨.absent, .warned (.loops rfl listable found back), settle_loop path stage.path⟩
          | none =>
            have new : ∀ stage ∈ stages, stage.location ≠ location := by
              simpa using List.find?_eq_none.mp back
            -- One more directory on the way, so the depth cannot have been used up before it.
            obtain ⟨left, rfl, within'⟩ := within.enter stored new path
            refine meets_directory sound textual _ found ⟨rfl, listable, ⟨_, found⟩, new⟩ ?_
            rintro ⟨child, entry⟩ member
            refine visit_meets sound textual WithinDepth.cons (ih left (Nat.lt_succ_self _)) entry within'
              fun solid => ?_
            exact status_join found (sound.proper stored member)
              (findNamed?_of_mem (sound.distinct stored) member) solid

end Visits

section Roots
variable {fs : FileSystem} {root : Path} {follow : Bool}

def MeetsRoot (fs : FileSystem) (root : Path) (follow : Bool) (findings : List Finding) : Prop :=
  IsRootListing fs root follow (findings.foldl Finding.addTo .empty) (told findings)

theorem meetsRoot_unresolved {fault : Fault} (failed : fs.status root = .error fault) :
    MeetsRoot fs root follow [failureAt root [] fault] := by
  unfold MeetsRoot IsRootListing
  rw [failed]
  exact ⟨rfl, rfl⟩

theorem meetsRoot_file {location : Location} {entry : Entry}
    (found : fs.status root = .ok (location, entry))
    (solid : ∀ entries locked, entry ≠ .directory entries locked) :
    MeetsRoot fs root follow [.file root []] := by
  unfold MeetsRoot IsRootListing
  rw [found]
  cases entry with
  | directory entries locked => exact absurd rfl (solid entries locked)
  | file content locked | link target => exact ⟨rfl, rfl⟩

theorem meetsRoot_unopened {location : Location} {entries : List (Name × Entry)} {fault : Fault}
    {locked : Bool} (found : fs.status root = .ok (location, .directory entries locked))
    (failed : fs.list root = .error fault) (followed : (follow && isLink fs root) = true) :
    MeetsRoot fs root follow [.failure root [] fault.message] := by
  unfold MeetsRoot IsRootListing
  simp only [found, failed, followed]
  exact ⟨rfl, rfl⟩

theorem meetsRoot_unlistable {location : Location} {entries : List (Name × Entry)} {fault : Fault}
    {locked : Bool} (found : fs.status root = .ok (location, .directory entries locked))
    (failed : fs.list root = .error fault) (notFollowed : (follow && isLink fs root) = false) :
    MeetsRoot fs root follow [.directory root [], failureAt root [] fault] := by
  unfold MeetsRoot IsRootListing
  simp only [found, failed, notFollowed]
  exact ⟨rfl, rfl⟩

theorem meetsRoot_visit (sound : fs.WellFormed) (textual : fs.Textual) {onLink : LinkRule}
    {holds : List Stage → Prop} (keeps : ∀ stage stages, holds stages → holds (stage :: stages))
    (links : MeetsLinks fs root follow onLink holds) {location : Location}
    {entries : List (Name × Entry)} (holding : holds [⟨root, location⟩])
    (found : fs.status root = .ok (location, .directory entries false)) :
    MeetsRoot fs root follow (visit fs onLink [] root [] location (.directory entries false)) := by
  have stored := status_at? found
  have each : ∀ item ∈ entries, Meets fs root follow [⟨root, location⟩] (root.join item.1) [] item.1
      item.2 (visit fs onLink [⟨root, location⟩] (root.join item.1) ([] ++ [item.1])
        (location ++ [item.1]) item.2) := by
    rintro ⟨name, entry⟩ member
    refine visit_meets sound textual keeps links entry holding fun solid => ?_
    exact status_join found (sound.proper stored member)
      (findNamed?_of_mem (sound.distinct stored) member) solid
  obtain ⟨node, listing, inside⟩ := listing_of_visits sound textual [] found each
  have listed := list_of_status found
  have built := inside .empty
  simp only [List.map_nil, Directory.putAt_nil] at built
  unfold MeetsRoot IsRootListing
  simp only [found, listed, Bool.false_eq_true, if_false]
  rw [visit_directory onLink [] found]
  have start : Finding.addTo .empty (.directory root []) = .empty := rfl
  rw [List.foldl_cons, start, built]
  exact listing

theorem meetsRoot_passing (sound : fs.WellFormed) (textual : fs.Textual) {location : Location}
    {entry : Entry} (found : fs.status root = .ok (location, entry)) :
    MeetsRoot fs root false (visit fs (passLink fs) [] root [] location entry) := by
  cases entry with
  | file content locked =>
    rw [visit]
    exact meetsRoot_file found (by simp)
  | link target =>
    have other : fs.isDirectory root = false := by simp [isDirectory, found]
    rw [visit, passLink, if_neg (by simp [other])]
    exact meetsRoot_file found (by simp)
  | directory entries locked =>
    cases locked with
    | true =>
      have failed := list_of_status found
      simp only [if_true] at failed
      rw [visit, failed]
      exact meetsRoot_unlistable found failed rfl
    | false => exact meetsRoot_visit sound textual (fun _ _ _ => trivial) passLink_meets trivial found

theorem withinDepth_all (stages : List Stage) : WithinDepth fs fs.top.directoryCount stages :=
  ⟨[], List.nodup_nil, by simp, by simp, by simp⟩

theorem meetsRoot_link (sound : fs.WellFormed) (textual : fs.Textual) (linked : isLink fs root = true) :
    MeetsRoot fs root true (followLink fs root fs.top.directoryCount [] root []) := by
  rw [followLink]
  cases found : fs.status root with
  | error fault => exact meetsRoot_unresolved found
  | ok result =>
    obtain ⟨location, entry⟩ := result
    cases entry with
    | file content locked | link onward => exact meetsRoot_file found (by simp)
    | directory entries locked =>
      simp only [openEntry_of_status found]
      cases locked with
      | true => exact meetsRoot_unopened found (by simpa using list_of_status found) (by simpa using linked)
      | false =>
        obtain ⟨left, equal, within⟩ := (withinDepth_all []).enter (status_at? found) (by simp) root
        simp only [Bool.false_eq_true, if_false, List.find?_nil, equal]
        exact meetsRoot_visit sound textual WithinDepth.cons (followLink_meets sound textual left) within
          found

theorem meetsRoot_following (sound : fs.WellFormed) (textual : fs.Textual) {location : Location}
    {entry : Entry} (linkFound : fs.linkStatus root = .ok (location, entry))
    (found : fs.status root = .ok (location, entry)) :
    MeetsRoot fs root true
      (visit fs (followLink fs root fs.top.directoryCount) [] root [] location entry) := by
  cases entry with
  | file content locked =>
    rw [visit]
    exact meetsRoot_file found (by simp)
  | link target =>
    rw [visit]
    exact meetsRoot_link sound textual (by simp [isLink, linkFound])
  | directory entries locked =>
    cases locked with
    | true =>
      have failed := list_of_status found
      simp only [if_true] at failed
      rw [visit, failed]
      exact meetsRoot_unlistable found failed (by simp [isLink, linkFound])
    | false =>
      exact meetsRoot_visit sound textual WithinDepth.cons (followLink_meets sound textual _)
        (withinDepth_all _) found

theorem walk_meets (sound : fs.WellFormed) (textual : fs.Textual) (root : Path) (follow : Bool) :
    MeetsRoot fs root follow (fs.walk root follow) := by
  unfold FileSystem.walk
  rcases status_or_link fs root with ⟨location, target, linked⟩ | same
  · rw [linked]
    cases follow with
    | true =>
      simp only [if_true, visit]
      exact meetsRoot_link sound textual (by simp [isLink, linked])
    | false =>
      simp only [Bool.false_eq_true, if_false]
      cases found : fs.status root with
      | error fault => exact meetsRoot_unresolved found
      | ok result => exact meetsRoot_passing sound textual found
  · cases found : fs.status root with
    | error fault =>
      rw [found] at same
      rw [← same]
      exact meetsRoot_unresolved found
    | ok result =>
      obtain ⟨location, entry⟩ := result
      rw [found] at same
      rw [← same]
      cases follow with
      | true => exact meetsRoot_following sound textual same.symm found
      | false =>
        simp only [Bool.false_eq_true, if_false]
        cases entry <;> exact meetsRoot_passing sound textual found

/-- A scan returns the listing of its root, whatever is locked, leads nowhere or leads back, and
with it one warning about each directory and link that fails. -/
theorem scan_lists_root (fs : FileSystem) (sound : fs.WellFormed) (textual : fs.Textual) (root : Path)
    (follow : Bool) (tree : Directory) (warned : List Warning) :
    IsRootListing fs root follow tree warned ↔
      tree = (scan fs root follow).tree ∧ warned = warnings (scan fs root follow).notes := by
  have meets := walk_meets sound textual root follow
  constructor
  · exact fun listing => listing.unique meets
  · rintro ⟨rfl, rfl⟩
    exact meets

/-- A directory `r` with a file, two directories that can be listed, a locked one, a link that
leads nowhere and one that leads back. -/
def troubledSystem : FileSystem where
  top := .directory [
    ([0x72], .directory [
      ([0x7A], .file [] false),
      ([0x65], .directory [] false),
      ([0x6B], .directory [([0x78], .file [] false)] true),
      ([0x62], .link [0x6E]),
      ([0x6C], .link [0x2E]),
      ([0x61], .directory [([0xC3, 0xA9], .file [] false)] false)] false)] false
  working := []

theorem scan_lists_root_troubled : troubledSystem.WellFormed ∧ troubledSystem.Textual ∧
    IsRootListing troubledSystem [0x72] true
      ⟨[("a", ⟨[], ["é"]⟩), ("e", ⟨[], []⟩)], ["z"]⟩
      [⟨"r/b", "walk", "failed to walk r/b: IO error for operation on r/b: " ++
          "No such file or directory (os error 2)"⟩,
        ⟨"r/k", "walk", "failed to walk r/k: IO error for operation on r/k: " ++
          "Permission denied (os error 13)"⟩,
        ⟨"r/l", "walk", "failed to walk r/l: symlink loop back to r"⟩] := by
  have sound : troubledSystem.WellFormed := by decide
  have textual : troubledSystem.Textual := by decide +kernel
  refine ⟨sound, textual, (scan_lists_root troubledSystem sound textual [0x72] true _ _).mpr ⟨?_, ?_⟩⟩
  · decide +kernel
  · decide +kernel

end Roots

end SourceAtlas.Listing
