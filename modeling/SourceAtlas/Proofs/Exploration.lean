import SourceAtlas.Proofs.Scan

/-! A walk that follows links, said without a bound on how many of them it follows. The bounded
walk is one, and there is no other. -/
namespace SourceAtlas.Walk
open FileSystem Listing

/-- Where a walk is: the directories that it is in, innermost first, and the entry it comes to. -/
structure Position where
  stages : List Stage
  path : Path
  names : List Name
  location : Location
  entry : Entry

namespace Position

def child (here : Position) (item : Name × Entry) : Position :=
  ⟨⟨here.path, here.location⟩ :: here.stages, here.path.join item.1, here.names ++ [item.1],
    here.location ++ [item.1], item.2⟩

def through (here : Position) (location : Location) (entries : List (Name × Entry)) (locked : Bool) : Position :=
  { here with location, entry := .directory entries locked }

def findings (fs : FileSystem) (onLink : LinkRule) (here : Position) : List Finding :=
  visit fs onLink here.stages here.path here.names here.location here.entry

end Position

section Judgments
variable (fs : FileSystem) (root : Path)

/-- What a walk finds at a position and below it. -/
inductive Explores : Position → List Finding → Prop
  | file {here : Position} {content : Bytes} {locked : Bool} (is : here.entry = .file content locked) :
      Explores here [.file here.path here.names]
  | unlistable {here : Position} {entries : List (Name × Entry)} {locked : Bool} {fault : Fault}
      (is : here.entry = .directory entries locked) (failed : fs.list here.path = .error fault) :
      Explores here [.directory here.path here.names, failureAt here.path here.names fault]
  | directory {here : Position} {entries : List (Name × Entry)} {locked : Bool}
      {found : Name × Entry → List Finding} (is : here.entry = .directory entries locked)
      (listed : fs.list here.path = .ok entries)
      (below : ∀ item ∈ entries, Explores (here.child item) (found item)) :
      Explores here (.directory here.path here.names :: (sortNamed entries).flatMap found)
  | unresolved {here : Position} {target : Path} {fault : Fault} (is : here.entry = .link target)
      (failed : fs.status here.path = .error fault) : Explores here [failureAt here.path here.names fault]
  | linkedFile {here : Position} {target : Path} {location : Location} {entry : Entry}
      (is : here.entry = .link target) (leads : fs.status here.path = .ok (location, entry))
      (other : ∀ entries locked, entry ≠ .directory entries locked) :
      Explores here [.file here.path here.names]
  | unopened {here : Position} {target : Path} {location : Location} {entries : List (Name × Entry)}
      {locked : Bool} {fault : Fault} (is : here.entry = .link target)
      (leads : fs.status here.path = .ok (location, .directory entries locked))
      (failed : fs.openEntry here.path = .error fault) :
      Explores here [.failure root [] fault.message]
  | loops {here : Position} {target : Path} {location : Location} {entries : List (Name × Entry)}
      {locked : Bool} {opened : Location × Entry} {stage : Stage} (is : here.entry = .link target)
      (leads : fs.status here.path = .ok (location, .directory entries locked))
      (opens : fs.openEntry here.path = .ok opened)
      (back : here.stages.find? (·.location = location) = some stage) :
      Explores here [.loop here.path here.names stage.path]
  | follows {here : Position} {target : Path} {location : Location} {entries : List (Name × Entry)}
      {locked : Bool} {opened : Location × Entry} {found : List Finding} (is : here.entry = .link target)
      (leads : fs.status here.path = .ok (location, .directory entries locked))
      (opens : fs.openEntry here.path = .ok opened)
      (new : here.stages.find? (·.location = location) = none)
      (below : Explores (here.through location entries locked) found) : Explores here found

def ExploresRoot (found : List Finding) : Prop :=
  match fs.linkStatus root with
  | .error fault => found = [failureAt root [] fault]
  | .ok (location, entry) => Explores fs root ⟨[], root, [], location, entry⟩ found

/-- The positions that a walk from the root comes to. -/
inductive Visited : Position → Prop
  | start {location : Location} {entry : Entry} (found : fs.linkStatus root = .ok (location, entry)) :
      Visited ⟨[], root, [], location, entry⟩
  | child {here : Position} {entries : List (Name × Entry)} {locked : Bool} {item : Name × Entry}
      (visited : Visited here) (is : here.entry = .directory entries locked)
      (listed : fs.list here.path = .ok entries) (member : item ∈ entries) : Visited (here.child item)
  | through {here : Position} {target : Path} {location : Location} {entries : List (Name × Entry)}
      {locked : Bool} {opened : Location × Entry} (visited : Visited here) (is : here.entry = .link target)
      (leads : fs.status here.path = .ok (location, .directory entries locked))
      (opens : fs.openEntry here.path = .ok opened)
      (new : here.stages.find? (·.location = location) = none) :
      Visited (here.through location entries locked)

end Judgments

variable {fs : FileSystem} {root : Path} {here : Position}

section Positions

/-- A walk comes to an entry by its own path, or to a directory by a link that leads to none of
the directories that it is in. -/
theorem Visited.arrives (sound : fs.WellFormed) (visited : Visited fs root here) :
    fs.linkStatus here.path = .ok (here.location, here.entry) ∨
      isLink fs here.path = true ∧ fs.status here.path = .ok (here.location, here.entry) ∧
        (∃ entries locked, here.entry = .directory entries locked) ∧
        here.stages.find? (·.location = here.location) = none := by
  induction visited with
  | start found => exact .inl found
  | @child here entries locked item visited is listed member ih =>
    have found : fs.status here.path = .ok (here.location, here.entry) := by
      rcases ih with linked | ⟨_, found, _⟩
      · exact status_of_linkStatus linked (by simp [is])
      · exact found
    rw [directory_of_list listed found] at found
    have stored := status_at? found
    exact .inl (linkStatus_join found (sound.proper stored member)
      (findNamed?_of_mem (sound.distinct stored) member))
  | @through here target location entries locked opened visited is leads opens new ih =>
    refine .inr ⟨?_, leads, ⟨entries, locked, rfl⟩, new⟩
    rcases ih with linked | ⟨_, _, ⟨entries, locked, directory⟩, _⟩
    · rw [is] at linked
      simp [isLink, Position.through, linked]
    · rw [is] at directory
      cases directory

theorem Visited.status (sound : fs.WellFormed) (visited : Visited fs root here)
    (solid : ∀ target, here.entry ≠ .link target) :
    fs.status here.path = .ok (here.location, here.entry) := by
  rcases visited.arrives sound with linked | ⟨_, found, _⟩
  · exact status_of_linkStatus linked solid
  · exact found

end Positions

section Existence

theorem explores_directory (sound : fs.WellFormed) (onLink : LinkRule) {entries : List (Name × Entry)}
    {locked : Bool} (visited : Visited fs root here) (is : here.entry = .directory entries locked)
    (each : ∀ item ∈ entries, Visited fs root (here.child item) →
      Explores fs root (here.child item) ((here.child item).findings fs onLink)) :
    Explores fs root here (here.findings fs onLink) := by
  have found := visited.status sound (by simp [is])
  rw [is] at found
  have listed := list_of_status found
  rw [Position.findings, is]
  cases locked with
  | true =>
    simp only [if_true] at listed
    rw [visit, listed]
    exact .unlistable is listed
  | false =>
    simp only [Bool.false_eq_true, if_false] at listed
    rw [visit_directory onLink _ found]
    exact .directory is listed fun item member => each item member (visited.child is listed member)

theorem visit_explores (sound : fs.WellFormed) {onLink : LinkRule} {holds : List Stage → Prop}
    (keeps : ∀ stage stages, holds stages → holds (stage :: stages))
    (links : ∀ here target, Visited fs root here → here.entry = .link target → holds here.stages →
      Explores fs root here (onLink here.stages here.path here.names))
    (visited : Visited fs root here) (holding : holds here.stages) :
    Explores fs root here (here.findings fs onLink) := by
  generalize is : here.entry = entry
  induction entry using Entry.below_induction generalizing here with
  | file content locked =>
    rw [Position.findings, is, visit]
    exact .file is
  | link target =>
    rw [Position.findings, is, visit]
    exact links here target visited is holding
  | directory entries locked ih =>
    refine explores_directory sound onLink visited is fun item member comes => ?_
    exact ih item member comes (keeps _ _ holding) rfl

theorem followLink_explores (sound : fs.WellFormed) (depth : Nat) {target : Path}
    (visited : Visited fs root here) (is : here.entry = .link target)
    (within : WithinDepth fs depth here.stages) :
    Explores fs root here (followLink fs root depth here.stages here.path here.names) := by
  induction depth using Nat.strongRecOn generalizing here target with
  | ind depth ih =>
    rw [followLink]
    cases leads : fs.status here.path with
    | error fault => exact .unresolved is leads
    | ok result =>
      obtain ⟨location, entry⟩ := result
      cases entry with
      | file content locked | link onward => exact .linkedFile is leads (by simp)
      | directory entries locked =>
        cases opens : fs.openEntry here.path with
        | error fault => exact .unopened is leads opens
        | ok opened =>
          simp only
          cases back : here.stages.find? (·.location = location) with
          | some stage => exact .loops is leads opens back
          | none =>
            have new : ∀ stage ∈ here.stages, stage.location ≠ location := by
              simpa using List.find?_eq_none.mp back
            -- The directory is one more on the way, so the depth was not used up before it.
            obtain ⟨left, rfl, deeper⟩ := within.enter (status_at? leads) new here.path
            refine .follows is leads opens back ?_
            refine explores_directory sound (followLink fs root left) (visited.through is leads opens back) rfl
              fun item member comes => ?_
            exact visit_explores sound WithinDepth.cons
              (fun _ _ comes is within => ih left left.lt_succ_self comes is within) comes deeper

theorem walk_explores (sound : fs.WellFormed) (root : Path) : ExploresRoot fs root (fs.walk root true) := by
  unfold ExploresRoot FileSystem.walk
  cases found : fs.linkStatus root with
  | error fault => rfl
  | ok result =>
    exact visit_explores sound WithinDepth.cons
      (fun _ _ visited is within => followLink_explores sound _ visited is within) (.start found)
      (withinDepth_all _)

end Existence

section Uniqueness
variable {found other : List Finding}

theorem Explores.of_file {content : Bytes} {locked : Bool} (explores : Explores fs root here found)
    (is : here.entry = .file content locked) : found = [.file here.path here.names] := by
  cases explores with
  | file | linkedFile => rfl
  | unlistable also | directory also | unresolved also | unopened also | loops also | follows also =>
    rw [is] at also
    cases also

theorem Explores.of_directory {entries : List (Name × Entry)} {locked : Bool}
    (explores : Explores fs root here found) (is : here.entry = .directory entries locked) :
    match fs.list here.path with
    | .error fault => found = [.directory here.path here.names, failureAt here.path here.names fault]
    | .ok listed => ∃ each : Name × Entry → List Finding,
        (∀ item ∈ listed, Explores fs root (here.child item) (each item)) ∧
          found = .directory here.path here.names :: (sortNamed listed).flatMap each := by
  cases explores with
  | unlistable also failed => rw [failed]
  | directory also listed below =>
    rw [listed]
    exact ⟨_, below, rfl⟩
  | file also | unresolved also | linkedFile also | unopened also | loops also | follows also =>
    rw [is] at also
    cases also

theorem Explores.of_link {target : Path} (explores : Explores fs root here found)
    (is : here.entry = .link target) :
    match fs.status here.path with
    | .error fault => found = [failureAt here.path here.names fault]
    | .ok (location, .directory entries locked) =>
      match fs.openEntry here.path with
      | .error fault => found = [.failure root [] fault.message]
      | .ok _ =>
        match here.stages.find? (·.location = location) with
        | some stage => found = [.loop here.path here.names stage.path]
        | none => Explores fs root (here.through location entries locked) found
    | .ok _ => found = [.file here.path here.names] := by
  cases explores with
  | unresolved also failed => rw [failed]
  | @linkedFile _ _ location entry also leads solid =>
    rw [leads]
    cases entry with
    | directory entries locked => exact absurd rfl (solid entries locked)
    | file content locked | link onward => rfl
  | unopened also leads failed => simp only [leads, failed]
  | loops also leads opens back => simp only [leads, opens, back]
  | follows also leads opens new below =>
    simp only [leads, opens, new]
    exact below
  | file also | unlistable also | directory also =>
    rw [is] at also
    cases also

theorem Explores.unique (explores : Explores fs root here found) (again : Explores fs root here other) :
    found = other := by
  induction explores generalizing other with
  | file is => exact (again.of_file is).symm
  | unlistable is failed =>
    have second := again.of_directory is
    rw [failed] at second
    exact second.symm
  | @directory here entries locked found is listed below ih =>
    have second := again.of_directory is
    rw [listed] at second
    obtain ⟨each, explored, rfl⟩ := second
    congr 1
    refine List.flatMap_congr fun item inside => ?_
    have member := (sortNamed_perm entries).subset inside
    exact ih item member (explored item member)
  | unresolved is failed =>
    have second := again.of_link is
    rw [failed] at second
    exact second.symm
  | @linkedFile here target location entry is leads solid =>
    have second := again.of_link is
    rw [leads] at second
    cases entry with
    | directory entries locked => exact absurd rfl (solid entries locked)
    | file content locked | link onward => exact second.symm
  | unopened is leads failed =>
    have second := again.of_link is
    simp only [leads, failed] at second
    exact second.symm
  | loops is leads opens back =>
    have second := again.of_link is
    simp only [leads, opens, back] at second
    exact second.symm
  | follows is leads opens new below ih =>
    have second := again.of_link is
    simp only [leads, opens, new] at second
    exact ih second

theorem exploresRoot_iff (sound : fs.WellFormed) (root : Path) (found : List Finding) :
    ExploresRoot fs root found ↔ found = fs.walk root true := by
  have explored := walk_explores sound root
  constructor
  · intro explores
    unfold ExploresRoot at explores explored
    cases status : fs.linkStatus root with
    | error fault =>
      rw [status] at explores explored
      exact explores.trans explored.symm
    | ok result =>
      rw [status] at explores explored
      exact explores.unique explored
  · rintro rfl
    exact explored

end Uniqueness

section Parts
variable {found : List Finding} {names : List Name}

def under (names : List Name) (found : List Finding) : List Finding :=
  found.filter fun finding => names <+: finding.names

theorem mem_under {finding : Finding} :
    finding ∈ under names found ↔ finding ∈ found ∧ names <+: finding.names := by
  simp [under]

theorem under_under {longer : List Name} (further : names <+: longer) :
    under longer (under names found) = under longer found := by
  unfold under
  rw [List.filter_filter]
  refine List.filter_congr fun finding _ => ?_
  by_cases below : longer <+: finding.names
  · simp [below, further.trans below]
  · simp [below]

def Within (root : Path) (names : List Name) (found : List Finding) : Prop :=
  ∀ finding ∈ found, names <+: finding.names ∨ ∃ reason, finding = .failure root [] reason

private theorem within_single {finding : Finding} (here : names <+: finding.names) :
    Within root names [finding] := by
  intro other member
  rw [List.mem_singleton.mp member]
  exact .inl here

theorem Explores.within (explores : Explores fs root here found) : Within root here.names found := by
  induction explores with
  | file | unresolved | linkedFile | loops => exact within_single List.prefix_rfl
  | unopened =>
    intro finding member
    exact .inr ⟨_, List.mem_singleton.mp member⟩
  | unlistable =>
    intro finding member
    rcases List.mem_cons.mp member with rfl | rest
    · exact .inl List.prefix_rfl
    · exact within_single List.prefix_rfl finding rest
  | directory is listed below ih =>
    intro finding member
    rcases List.mem_cons.mp member with rfl | inside
    · exact .inl List.prefix_rfl
    obtain ⟨item, sorted, inside⟩ := List.mem_flatMap.mp inside
    rcases ih item ((sortNamed_perm _).subset sorted) finding inside with deeper | other
    · exact .inl ((List.prefix_append _ _).trans deeper)
    · exact .inr other
  | follows is leads opens new below ih => exact ih

private theorem under_apart {name other : Name} {place : List Name} (inside : Within root (names ++ [other]) found)
    (different : other ≠ name) (beyond : names ++ [name] <+: place) : under place found = [] := by
  refine List.filter_eq_nil_iff.mpr fun finding member => ?_
  rw [decide_eq_true_iff]
  intro below
  rcases inside finding member with also | ⟨reason, rfl⟩
  · have shared := List.prefix_of_prefix_length_le also (beyond.trans below) (by simp)
    have same := shared.eq_of_length (by simp)
    exact different (List.singleton_inj.mp (List.append_cancel_left same))
  · have nothing := List.prefix_nil.mp (beyond.trans below)
    simp at nothing

theorem under_flatMap {items : List (Name × Entry)} {each : Name × Entry → List Finding}
    (distinct : (items.map (·.1)).Nodup) (inside : ∀ item ∈ items, Within root (names ++ [item.1]) (each item))
    {item : Name × Entry} (member : item ∈ items) {place : List Name} (beyond : names ++ [item.1] <+: place) :
    under place (items.flatMap each) = under place (each item) := by
  induction items with
  | nil => cases member
  | cons first rest ih =>
    rw [List.map_cons, List.nodup_cons] at distinct
    rw [List.forall_mem_cons] at inside
    have split : under place ((first :: rest).flatMap each) =
        under place (each first) ++ under place (rest.flatMap each) := by
      rw [List.flatMap_cons, under, List.filter_append]
      rfl
    rw [split]
    rcases List.mem_cons.mp member with rfl | later
    · have others : under place (rest.flatMap each) = [] := by
        rw [under, List.filter_flatMap, List.flatMap_eq_nil_iff]
        intro other among
        refine under_apart (inside.2 other among) (fun same => distinct.1 ?_) beyond
        exact List.mem_map.mpr ⟨other, among, same⟩
      rw [others, List.append_nil]
    · have nothing : under place (each first) = [] := by
        refine under_apart inside.1 (fun same => distinct.1 ?_) beyond
        exact List.mem_map.mpr ⟨item, later, same.symm⟩
      rw [nothing, List.nil_append, ih distinct.2 inside.2 later]

theorem under_entry (path : Path) {entries : List (Name × Entry)} {each : Name × Entry → List Finding}
    (distinct : (entries.map (·.1)).Nodup) (inside : ∀ item ∈ entries, Within root (names ++ [item.1]) (each item))
    {item : Name × Entry} (member : item ∈ entries) {place : List Name} (beyond : names ++ [item.1] <+: place) :
    under place (.directory path names :: (sortNamed entries).flatMap each) = under place (each item) := by
  have perm := sortNamed_perm entries
  have above : ¬ place <+: names := by
    intro shorter
    have long := (beyond.trans shorter).length_le
    simp at long
  calc under place (.directory path names :: (sortNamed entries).flatMap each)
      = under place ((sortNamed entries).flatMap each) :=
        List.filter_cons_of_neg fun yes => above (of_decide_eq_true yes)
    _ = under place (each item) :=
        under_flatMap ((perm.map _).nodup_iff.mpr distinct) (fun other among => inside other (perm.subset among))
          (perm.symm.subset member) beyond

theorem Explores.locate (sound : fs.WellFormed) {path : Path} (explores : Explores fs root here found)
    (visited : Visited fs root here) (member : .directory path names ∈ found) :
    ∃ there part, Visited fs root there ∧ Explores fs root there part ∧ there.path = path ∧
      there.names = names ∧ (∃ entries locked, there.entry = .directory entries locked) ∧
      under names found = under names part := by
  induction explores with
  | file | unresolved | linkedFile | loops | unopened => cases List.mem_singleton.mp member
  | @unlistable here entries locked fault is failed =>
    rcases List.mem_cons.mp member with same | rest
    · cases same
      exact ⟨here, _, visited, .unlistable is failed, rfl, rfl, ⟨entries, locked, is⟩, rfl⟩
    · cases List.mem_singleton.mp rest
  | @directory here entries locked each is listed below ih =>
    rcases List.mem_cons.mp member with same | inside
    · cases same
      exact ⟨here, _, visited, .directory is listed below, rfl, rfl, ⟨entries, locked, is⟩, rfl⟩
    obtain ⟨item, sorted, inside⟩ := List.mem_flatMap.mp inside
    have among := (sortNamed_perm entries).subset sorted
    obtain ⟨there, part, comes, explored, atPath, atNames, kind, same⟩ :=
      ih item among (visited.child is listed among) inside
    have deeper : here.names ++ [item.1] <+: names := by
      rcases (below item among).within _ inside with deeper | ⟨reason, failure⟩
      · exact deeper
      · cases failure
    obtain ⟨location, stored⟩ := status_of_list listed
    have entered := under_entry here.path (sound.distinct (status_at? stored))
      (fun other inside => (below other inside).within) among deeper
    exact ⟨there, part, comes, explored, atPath, atNames, kind, entered.trans same⟩
  | follows is leads opens new below ih => exact ih (visited.through is leads opens new) member

/-- All that is found is at a position that was visited, but for a failure that is told of the root. -/
theorem Explores.visits (explores : Explores fs root here found) (visited : Visited fs root here) :
    ∀ finding ∈ found, (∃ there, Visited fs root there ∧ there.names = finding.names) ∨
      ∃ reason, finding = .failure root [] reason := by
  induction explores with
  | @file here | @unresolved here | @linkedFile here | @loops here =>
    intro finding member
    rw [List.mem_singleton.mp member]
    exact .inl ⟨here, visited, rfl⟩
  | unopened =>
    intro finding member
    exact .inr ⟨_, List.mem_singleton.mp member⟩
  | @unlistable here =>
    intro finding member
    refine .inl ⟨here, visited, ?_⟩
    rcases List.mem_cons.mp member with rfl | rest
    · rfl
    · rw [List.mem_singleton.mp rest]
      rfl
  | @directory here entries locked each is listed below ih =>
    intro finding member
    rcases List.mem_cons.mp member with rfl | inside
    · exact .inl ⟨here, visited, rfl⟩
    obtain ⟨item, sorted, inside⟩ := List.mem_flatMap.mp inside
    have among := (sortNamed_perm entries).subset sorted
    exact ih item among (visited.child is listed among) finding inside
  | follows is leads opens new below ih => exact ih (visited.through is leads opens new)

theorem walk_locate (sound : fs.WellFormed) {path : Path} (member : .directory path names ∈ fs.walk root true) :
    ∃ there part, Visited fs root there ∧ Explores fs root there part ∧ there.path = path ∧
      there.names = names ∧ (∃ entries locked, there.entry = .directory entries locked) ∧
      under names (fs.walk root true) = under names part := by
  have explored := walk_explores sound root
  unfold ExploresRoot at explored
  cases found : fs.linkStatus root with
  | error fault =>
    rw [found] at explored
    rw [explored] at member
    cases List.mem_singleton.mp member
  | ok result =>
    rw [found] at explored
    exact explored.locate sound (.start found) member

theorem walk_visits (sound : fs.WellFormed) :
    ∀ finding ∈ fs.walk root true, (∃ there, Visited fs root there ∧ there.names = finding.names) ∨
      ∃ reason, finding = .failure root [] reason := by
  have explored := walk_explores sound root
  unfold ExploresRoot at explored
  cases found : fs.linkStatus root with
  | error fault =>
    rw [found] at explored
    rw [explored]
    exact List.forall_mem_singleton.mpr (.inr ⟨_, rfl⟩)
  | ok result =>
    rw [found] at explored
    exact explored.visits (.start found)

end Parts

end SourceAtlas.Walk
