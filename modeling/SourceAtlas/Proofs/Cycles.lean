import SourceAtlas.Proofs.Exploration
import SourceAtlas.Proofs.Isolation
import SourceAtlas.Proofs.ScannedNames
import Mathlib.Data.List.Find

/-! Links that lead back. A walk that follows links never follows one to a directory that it is
in, and so it is never in more directories than there are pairs of them. Such a link is only
warned of. -/
namespace SourceAtlas

def Note.about? : Note → Option Path
  | skipped path | warned path _ => some path
  | _ => none

namespace Walk
open FileSystem Listing

def enclosing (root : Path) (names : List Name) : List Path :=
  (names.scanl Path.join root).dropLast.reverse

theorem enclosing_append (root : Path) (names : List Name) (name : Name) :
    enclosing root (names ++ [name]) = names.foldl Path.join root :: enclosing root names := by
  have before : (names.scanl Path.join root).reverse =
      names.foldl Path.join root :: (names.scanl Path.join root).dropLast.reverse := by
    rw [← List.getLast_scanl List.scanl_ne_nil, ← List.reverse_concat, List.dropLast_append_getLast]
  rw [enclosing, List.scanl_append, List.scanl_cons, List.tail_cons, List.scanl_nil, List.dropLast_concat, before]
  rfl

section Ways
variable {fs : FileSystem} {root : Path} {here : Position}

theorem Visited.path_eq (visited : Visited fs root here) : here.path = here.names.foldl Path.join root := by
  induction visited with
  | start => rfl
  | @child here entries locked item visited is listed member ih =>
    rw [Position.child, List.foldl_append, ← ih]
    rfl
  | through visited is leads opens new ih => exact ih

theorem Visited.stages_eq (visited : Visited fs root here) :
    here.stages.map (·.path) = enclosing root here.names := by
  induction visited with
  | start => rfl
  | child visited is listed member ih =>
    rw [Position.child, enclosing_append, ← visited.path_eq, ← ih]
    rfl
  | through visited is leads opens new ih => exact ih

theorem Visited.stage_status (sound : fs.WellFormed) (visited : Visited fs root here) :
    ∀ stage ∈ here.stages, ∃ entries, fs.status stage.path = .ok (stage.location, .directory entries false) := by
  induction visited with
  | start => simp
  | @child here entries locked item visited is listed member ih =>
    have found := visited.status sound (by simp [is])
    rw [directory_of_list listed found] at found
    exact List.forall_mem_cons.mpr ⟨⟨entries, found⟩, ih⟩
  | through visited is leads opens new ih => exact ih

theorem Visited.find?_stages (sound : fs.WellFormed) (visited : Visited fs root here) (location : Location) :
    (here.stages.find? (·.location = location)).map (·.path) =
      (enclosing root here.names).find? (fs.leadsTo location) := by
  rw [← visited.stages_eq, List.find?_map]
  congr 1
  refine List.find?_congr fun stage member => ?_
  obtain ⟨entries, found⟩ := visited.stage_status sound stage member
  simp [leadsTo, found]

/-- What leads to a directory that the walk is in leads to an unlocked one, and the innermost such
is the stage that is found. -/
theorem Visited.leads_back (sound : fs.WellFormed) (visited : Visited fs root here) {location : Location}
    {entry : Entry} (stored : fs.top.at? location = some entry)
    (back : ∃ above ∈ enclosing root here.names, fs.leadsTo location above = true) :
    ∃ stage entries, here.stages.find? (·.location = location) = some stage ∧
      (enclosing root here.names).find? (fs.leadsTo location) = some stage.path ∧
      entry = .directory entries false := by
  have stages := visited.find?_stages sound location
  obtain ⟨above, innermost⟩ := Option.isSome_iff_exists.mp (List.find?_isSome.mpr back)
  rw [innermost, Option.map_eq_some_iff] at stages
  obtain ⟨stage, first, rfl⟩ := stages
  obtain ⟨entries, found⟩ := visited.stage_status sound stage (List.mem_of_find?_eq_some first)
  have same : stage.location = location := by simpa using List.find?_some first
  rw [same] at found
  exact ⟨stage, entries, first, innermost, Option.some.inj (stored.symm.trans (status_at? found))⟩

theorem Visited.fresh (sound : fs.WellFormed) (visited : Visited fs root here)
    (solid : ∀ target, here.entry ≠ .link target) (linked : isLink fs here.path = true) :
    ∀ above ∈ enclosing root here.names, fs.leadsTo here.location above = false := by
  rcases visited.arrives sound with own | ⟨_, _, _, new⟩
  · cases is : here.entry with
    | link target => exact absurd is (solid target)
    | file content locked | directory entries locked =>
      rw [is] at own
      simp [isLink, own] at linked
  · have none := visited.find?_stages sound here.location
    rw [new, Option.map_none] at none
    simpa using List.find?_eq_none.mp none.symm

end Ways

section Counting
variable {fs : FileSystem} {root : Path} {here : Position}

/-- A way through directories, innermost first, and how it came about: it starts over at
directories that are all different, and since the last of these it goes down. Between two starts
it is in no directory twice. -/
structure Chart (fs : FileSystem) (way starts run : List Location) : Prop where
  starts_nodup : starts.Nodup
  run_nodup : run.Nodup
  starts_stored : ∀ location ∈ starts, ∃ entries locked, fs.top.at? location = some (.directory entries locked)
  run_stored : ∀ location ∈ run, ∃ entries locked, fs.top.at? location = some (.directory entries locked)
  starts_on : starts ⊆ way
  run_above : ∀ location ∈ run, location.length ≤ (way.headD []).length
  length_le : way.length + fs.top.directoryCount ≤ starts.length * fs.top.directoryCount + run.length

namespace Chart
variable {way starts run : List Location} {location : Location} {entries : List (Name × Entry)} {locked : Bool}

theorem length_le_square (chart : Chart fs way starts run) :
    way.length ≤ fs.top.directoryCount * fs.top.directoryCount := by
  have atMost := Entry.length_le_directoryCount chart.run_nodup chart.run_stored
  have bound := chart.length_le
  calc way.length ≤ starts.length * fs.top.directoryCount := by omega
    _ ≤ fs.top.directoryCount * fs.top.directoryCount :=
        Nat.mul_le_mul_right _ (Entry.length_le_directoryCount chart.starts_nodup chart.starts_stored)

theorem first (stored : fs.top.at? location = some (.directory entries locked)) :
    Chart fs [location] [location] [location] where
  starts_nodup := List.nodup_singleton _
  run_nodup := List.nodup_singleton _
  starts_stored := List.forall_mem_singleton.mpr ⟨entries, locked, stored⟩
  run_stored := List.forall_mem_singleton.mpr ⟨entries, locked, stored⟩
  starts_on := List.Subset.refl _
  run_above := List.forall_mem_singleton.mpr (Nat.le_refl _)
  length_le := by
    simp only [List.length_singleton]
    omega

theorem down {name : Name} (chart : Chart fs (location :: way) starts run)
    (stored : fs.top.at? (location ++ [name]) = some (.directory entries locked)) :
    Chart fs ((location ++ [name]) :: location :: way) starts ((location ++ [name]) :: run) where
  starts_nodup := chart.starts_nodup
  run_nodup := by
    refine List.nodup_cons.mpr ⟨fun again => ?_, chart.run_nodup⟩
    have short := chart.run_above _ again
    simp at short
  starts_stored := chart.starts_stored
  run_stored := List.forall_mem_cons.mpr ⟨⟨entries, locked, stored⟩, chart.run_stored⟩
  starts_on := List.subset_cons_of_subset _ chart.starts_on
  run_above := by
    refine List.forall_mem_cons.mpr ⟨Nat.le_refl _, fun other member => ?_⟩
    have short := chart.run_above other member
    simp only [List.headD_cons, List.length_append] at short ⊢
    omega
  length_le := by
    have before := chart.length_le
    simp only [List.length_cons] at before ⊢
    omega

theorem restart (chart : Chart fs way starts run) (new : location ∉ way)
    (stored : fs.top.at? location = some (.directory entries locked)) :
    Chart fs (location :: way) (location :: starts) [location] where
  starts_nodup := List.nodup_cons.mpr ⟨fun again => new (chart.starts_on again), chart.starts_nodup⟩
  run_nodup := List.nodup_singleton _
  starts_stored := List.forall_mem_cons.mpr ⟨⟨entries, locked, stored⟩, chart.starts_stored⟩
  run_stored := List.forall_mem_singleton.mpr ⟨entries, locked, stored⟩
  starts_on := List.cons_subset_cons _ chart.starts_on
  run_above := List.forall_mem_singleton.mpr (Nat.le_refl _)
  length_le := by
    have before := chart.length_le
    have atMost := Entry.length_le_directoryCount chart.run_nodup chart.run_stored
    simp only [List.length_cons, List.length_nil, Nat.add_mul]
    omega

end Chart

def Position.way (here : Position) : List Location :=
  match here.entry with
  | .directory _ _ => here.location :: here.stages.map (·.location)
  | _ => here.stages.map (·.location)

theorem Position.length_stages_le (here : Position) : here.stages.length ≤ here.way.length := by
  unfold way
  split <;> simp

theorem Visited.charted (sound : fs.WellFormed) (visited : Visited fs root here) :
    here.way = [] ∨ ∃ starts run, Chart fs here.way starts run := by
  have stored {here : Position} (visited : Visited fs root here) {entries : List (Name × Entry)} {locked : Bool}
      (is : here.entry = .directory entries locked) :
      fs.top.at? here.location = some (.directory entries locked) := by
    rw [← is]
    exact status_at? (visited.status sound (by simp [is]))
  induction visited with
  | @start location entry found =>
    cases entry with
    | file content locked | link target => exact .inl rfl
    | directory entries locked => exact .inr ⟨_, _, .first (stored (.start found) rfl)⟩
  | @child here entries locked item visited is listed member ih =>
    have way : here.way = here.location :: here.stages.map (·.location) := by rw [Position.way, is]
    rw [way] at ih
    obtain ⟨starts, run, chart⟩ := ih.resolve_left (List.cons_ne_nil _ _)
    have comes := visited.child is listed member
    obtain ⟨name, entry⟩ := item
    cases entry with
    | file content locked | link target => exact .inr ⟨starts, run, chart⟩
    | directory inner locked => exact .inr ⟨starts, _, chart.down (stored comes rfl)⟩
  | @through here target location entries locked opened visited is leads opens new ih =>
    have way : here.way = here.stages.map (·.location) := by rw [Position.way, is]
    have fresh : location ∉ here.way := by
      rw [way]
      simpa using List.find?_eq_none.mp new
    have further : (here.through location entries locked).way = location :: here.way := by
      rw [way]
      rfl
    rw [further]
    rcases ih with nothing | ⟨starts, run, chart⟩
    · rw [nothing]
      exact .inr ⟨_, _, .first (status_at? leads)⟩
    · exact .inr ⟨_, _, chart.restart fresh (status_at? leads)⟩

theorem Visited.length_way_le (sound : fs.WellFormed) (visited : Visited fs root here) :
    here.way.length ≤ fs.top.directoryCount * fs.top.directoryCount := by
  rcases visited.charted sound with nothing | ⟨starts, run, chart⟩
  · simp [nothing]
  · exact chart.length_le_square

end Counting

section Passing
variable {fs : FileSystem} {root : Path}

def passed (root : Path) : Finding → List Path
  | .directory path names => path :: enclosing root names
  | finding => enclosing root finding.names

theorem Visited.enclosing_directories (sound : fs.WellFormed) {here : Position} (visited : Visited fs root here) :
    ∀ path ∈ enclosing root here.names, fs.isDirectory path = true := by
  rw [← visited.stages_eq]
  intro path member
  obtain ⟨stage, inside, rfl⟩ := List.mem_map.mp member
  obtain ⟨entries, found⟩ := visited.stage_status sound stage inside
  exact isDirectory_of_status found

theorem Visited.length_enclosing_le (sound : fs.WellFormed) {here : Position} (visited : Visited fs root here) :
    (enclosing root here.names).length ≤ fs.top.directoryCount * fs.top.directoryCount := by
  rw [← visited.stages_eq, List.length_map]
  exact here.length_stages_le.trans (visited.length_way_le sound)

/-- A path that a walk comes across goes through directories only, at most as many as there are
pairs of directories. -/
theorem walk_passed (sound : fs.WellFormed) (finding : Finding) (member : finding ∈ fs.walk root true) :
    (∀ path ∈ passed root finding, fs.isDirectory path = true) ∧
      (passed root finding).length ≤ fs.top.directoryCount * fs.top.directoryCount := by
  have outside : (∀ path ∈ enclosing root finding.names, fs.isDirectory path = true) ∧
      (enclosing root finding.names).length ≤ fs.top.directoryCount * fs.top.directoryCount := by
    rcases walk_visits sound finding member with ⟨there, visited, names⟩ | ⟨reason, rfl⟩
    · rw [← names]
      exact ⟨visited.enclosing_directories sound, visited.length_enclosing_le sound⟩
    · simp [Finding.names, enclosing]
  cases finding with
  | file path names | directoryLink path names | failure path names reason | loop path names above => exact outside
  | directory path names =>
    obtain ⟨there, part, visited, -, rfl, rfl, ⟨entries, locked, is⟩, -⟩ := walk_locate sound member
    have found := visited.status sound (by simp [is])
    rw [is] at found
    refine ⟨List.forall_mem_cons.mpr ⟨isDirectory_of_status found, outside.1⟩, ?_⟩
    have bound := visited.length_way_le sound
    rw [Position.way, is] at bound
    rwa [passed, ← visited.stages_eq, List.length_cons, List.length_map, ← List.length_map (·.location),
      ← List.length_cons]

theorem walk_fresh (sound : fs.WellFormed) {path : Path} {names : List Name} {location : Location} {entry : Entry}
    (member : .directory path names ∈ fs.walk root true) (linked : isLink fs path = true)
    (leads : fs.status path = .ok (location, entry)) :
    ∀ above ∈ enclosing root names, fs.leadsTo location above = false := by
  obtain ⟨there, part, visited, -, rfl, rfl, ⟨entries, locked, is⟩, -⟩ := walk_locate sound member
  have solid : ∀ target, there.entry ≠ .link target := by simp [is]
  obtain ⟨rfl, -⟩ := Prod.mk.inj (Except.ok.inj ((visited.status sound solid).symm.trans leads))
  exact visited.fresh sound solid linked

end Passing

section Loops
variable {fs : FileSystem} {root : Path} {names : List Name} {above : Path}

/-- At a link that leads back to a directory that the walk is in, the walk finds that loop and
nothing else, and names the innermost such directory. -/
theorem walk_loop (sound : fs.WellFormed) {path : Path} {entries : List (Name × Entry)} {name : Name}
    {target : Path} {location : Location} {entry : Entry} (member : .directory path names ∈ fs.walk root true)
    (listed : fs.list path = .ok entries) (item : (name, .link target) ∈ entries)
    (leads : fs.status (path.join name) = .ok (location, entry))
    (back : ∃ above ∈ enclosing root (names ++ [name]), fs.leadsTo location above = true) :
    ∃ above, (enclosing root (names ++ [name])).find? (fs.leadsTo location) = some above ∧
      under (names ++ [name]) (fs.walk root true) = [.loop (path.join name) (names ++ [name]) above] := by
  obtain ⟨there, part, visited, explored, rfl, rfl, ⟨_, _, is⟩, same⟩ := walk_locate sound member
  have found := visited.status sound (by simp [is])
  replace is := directory_of_list listed found
  rw [is] at found
  have comes := visited.child is listed item
  obtain ⟨stage, inner, first, innermost, rfl⟩ := comes.leads_back sound (status_at? leads) back
  have opens := openEntry_of_status leads
  rw [if_neg Bool.false_ne_true] at opens
  have explores := explored.of_directory is
  rw [listed] at explores
  obtain ⟨each, below, rfl⟩ := explores
  have loop := (below _ item).of_link rfl
  rw [Position.child] at first
  simp only [Position.child, leads, opens, first] at loop
  have further : there.names <+: there.names ++ [name] := List.prefix_append _ _
  refine ⟨stage.path, innermost, ?_⟩
  calc under (there.names ++ [name]) (fs.walk root true)
      = under (there.names ++ [name]) (.directory there.path there.names :: (sortNamed entries).flatMap each) := by
        rw [← under_under further, same, under_under further]
    _ = under (there.names ++ [name]) (each (name, .link target)) :=
        under_entry _ (sound.distinct (status_at? found)) (fun other inside => (below other inside).within) item
          List.prefix_rfl
    _ = [.loop (there.path.join name) (there.names ++ [name]) stage.path] := by
        rw [loop]
        simp [under, Finding.names]

/-- At a place a walk finds a loop back to a directory and nothing else: there is one note about
it, and neither a directory nor a file of the tree comes from it. Where names are texts, the tree
does not have it at all. -/
structure OnlyLoop (fs : FileSystem) (root : Path) (names : List Name) (above : Path) : Prop where
  findings : under names (fs.walk root true) = [.loop (names.foldl Path.join root) names above]
  notes : (scan fs root true).notes.filter (·.about? = some (names.foldl Path.join root)) =
    [.warned (names.foldl Path.join root)
      (.unwalkable (names.foldl Path.join root) ("symlink loop back to " ++ above.display))]
  tree : (scan fs root true).tree =
    ((fs.walk root true).filter fun finding => ¬ names <+: finding.names).foldl Finding.addTo .empty
  absent : fs.Textual → (scan fs root true).tree.at? (names.map Bytes.toText) = none ∧
    ∀ node, (scan fs root true).tree.at? (Finding.entryOf names).1 = some node →
      (Finding.entryOf names).2 ∉ node.files

section Findings

theorem about?_note? {finding : Finding} {note : Note} (told : finding.note? = some note) :
    note.about? = some finding.path := by
  cases finding with
  | directory path names | file path names => cases told
  | directoryLink path names | failure path names reason | loop path names above =>
    cases told
    rfl

theorem notes_about (path : Path) (found : List Finding) :
    (found.filterMap Finding.note?).filter (·.about? = some path) =
      (found.filter (·.path = path)).filterMap Finding.note? := by
  rw [List.filter_filterMap, List.filterMap_filter]
  refine List.filterMap_congr fun finding _ => ?_
  cases told : finding.note? with
  | none => simp
  | some note => simp [Option.filter, about?_note? told]

theorem names_eq_of_path_eq (sound : fs.WellFormed) {first second : Finding} (member : first ∈ fs.walk root true)
    (also : second ∈ fs.walk root true) (same : first.path = second.path) : first.names = second.names := by
  have proper := walk_properlyNamed sound root true
  rw [walk_reached fs root true first member, walk_reached fs root true second also] at same
  exact foldl_join_injective root (fun name inside => (proper first member name inside).segment)
    (fun name inside => (proper second also name inside).segment) same

theorem names_prefix_of_texts (textual : fs.Textual) {first second : Finding} (member : first ∈ fs.walk root true)
    (also : second ∈ fs.walk root true)
    (texts : first.names.map Bytes.toText <+: second.names.map Bytes.toText) : first.names <+: second.names := by
  have back {finding : Finding} (member : finding ∈ fs.walk root true) :
      (finding.names.map Bytes.toText).map Bytes.ofText = finding.names := by
    rw [List.map_map]
    exact (List.map_congr_left (walk_textual textual root true finding member)).trans (List.map_id _)
  have bytes := texts.map Bytes.ofText
  rwa [back member, back also] at bytes

theorem change?_leads {finding : Finding} {goal : List String}
    (step : finding.change? = some (.enter goal) ∨ ∃ file, finding.change? = some (.push goal file)) :
    goal <+: finding.names.map Bytes.toText := by
  cases finding with
  | directory path names =>
    rcases step with enters | ⟨file, pushes⟩
    · obtain rfl : names.map Bytes.toText = goal := by simpa [Finding.change?] using enters
      exact List.prefix_rfl
    · cases pushes
  | file path names =>
    rcases step with enters | ⟨file, pushes⟩
    · simp [Finding.change?] at enters
    · obtain ⟨last, -, dropped⟩ := Option.map_eq_some_iff.mp pushes
      rw [← (Directory.Change.push.inj dropped).1]
      exact List.dropLast_prefix _
  | directoryLink path names | failure path names reason | loop path names above =>
    rcases step with enters | ⟨file, pushes⟩
    · cases enters
    · cases pushes

end Findings

variable (alone : under names (fs.walk root true) = [.loop (names.foldl Path.join root) names above])
include alone

private theorem eq_loop {finding : Finding} (member : finding ∈ fs.walk root true)
    (below : names <+: finding.names) : finding = .loop (names.foldl Path.join root) names above := by
  have inside := mem_under.mpr ⟨member, below⟩
  rwa [alone, List.mem_singleton] at inside

private theorem loop_mem : .loop (names.foldl Path.join root) names above ∈ fs.walk root true := by
  have inside : .loop (names.foldl Path.join root) names above ∈ under names (fs.walk root true) := by
    rw [alone]
    exact List.mem_singleton_self _
  exact (mem_under.mp inside).1

theorem notes_of_loop (sound : fs.WellFormed) :
    (scan fs root true).notes.filter (·.about? = some (names.foldl Path.join root)) =
      [.warned (names.foldl Path.join root)
        (.unwalkable (names.foldl Path.join root) ("symlink loop back to " ++ above.display))] := by
  have here : (fs.walk root true).filter (·.path = names.foldl Path.join root) =
      (under names (fs.walk root true)).filter (·.path = names.foldl Path.join root) := by
    rw [under, List.filter_filter]
    refine List.filter_congr fun finding member => ?_
    by_cases same : finding.path = names.foldl Path.join root
    · have equal : finding.names = names := names_eq_of_path_eq sound member (loop_mem alone) same
      simp [same, equal]
    · simp [same]
  rw [scan, notes_about, here, alone]
  simp [Finding.path, Finding.note?]

theorem tree_of_loop : (scan fs root true).tree =
    ((fs.walk root true).filter fun finding => ¬ names <+: finding.names).foldl Finding.addTo .empty := by
  rw [scan, List.foldl_filter]
  refine List.foldl_ext _ _ _ fun tree finding member => ?_
  by_cases below : names <+: finding.names
  · rw [eq_loop alone member below]
    simp [Finding.addTo, Finding.names]
  · simp [below]

theorem absent_of_loop (nonempty : names ≠ []) (textual : fs.Textual) :
    (scan fs root true).tree.at? (names.map Bytes.toText) = none ∧
      ∀ node, (scan fs root true).tree.at? (Finding.entryOf names).1 = some node →
        (Finding.entryOf names).2 ∉ node.files := by
  have only {finding : Finding} (member : finding ∈ fs.walk root true)
      (below : names.map Bytes.toText <+: finding.names.map Bytes.toText) :
      finding = .loop (names.foldl Path.join root) names above :=
    eq_loop alone member (names_prefix_of_texts textual (loop_mem alone) member below)
  have describes := (Finding.tracks_scan fs root true).describes
  constructor
  · by_contra there
    obtain ⟨node, found⟩ := Option.ne_none_iff_exists'.mp there
    rcases Directory.Ledger.mem_present_foldl _ ((describes.present_iff _).mp ⟨node, found⟩) with
      top | ⟨goal, past, step⟩
    · exact nonempty (List.map_eq_nil_iff.mp top)
    · simp only [List.mem_filterMap] at step
      obtain ⟨finding, member, steps⟩ : ∃ finding ∈ fs.walk root true,
          finding.change? = some (.enter goal) ∨ ∃ file, finding.change? = some (.push goal file) := by
        rcases step with ⟨finding, member, enters⟩ | ⟨file, finding, member, pushes⟩
        · exact ⟨finding, member, .inl enters⟩
        · exact ⟨finding, member, .inr ⟨file, pushes⟩⟩
      rw [only member (past.trans (change?_leads steps))] at steps
      rcases steps with enters | ⟨file, pushes⟩
      · cases enters
      · cases pushes
  · intro node found listed
    rw [describes.files_eq _ node found, Directory.Ledger.addedAt, Finding.added_eq] at listed
    obtain ⟨entry, inside, own⟩ := List.mem_map.mp listed
    obtain ⟨added, parent⟩ := List.mem_filter.mp inside
    obtain ⟨item, among, rfl⟩ := List.mem_map.mp added
    obtain ⟨member, some⟩ := Finding.mem_listed.mp among
    have same : item.2.map Bytes.toText = names.map Bytes.toText := by
      rw [← entryOf_append some, ← entryOf_append nonempty, own, of_decide_eq_true parent]
    cases only member (same ▸ List.prefix_rfl)

end Loops

/-- However links lead, a walk that follows them comes to an end and finds what a walk without a
bound does. It goes through directories only, at most as many on one path as there are pairs of
them; one that it enters by a link is none of those on the way there; and of a link that leads
back to one of those it only warns, and names the innermost. -/
theorem following_ends (fs : FileSystem) (sound : fs.WellFormed) (root : Path) :
    (∀ found, ExploresRoot fs root found ↔ found = fs.walk root true) ∧
    (∀ finding ∈ fs.walk root true, (∀ path ∈ passed root finding, fs.isDirectory path = true) ∧
      (passed root finding).length ≤ fs.top.directoryCount * fs.top.directoryCount) ∧
    (∀ path names location entry, .directory path names ∈ fs.walk root true → isLink fs path = true →
      fs.status path = .ok (location, entry) → ∀ above ∈ enclosing root names, fs.leadsTo location above = false) ∧
    ∀ path names entries name target location entry, .directory path names ∈ fs.walk root true →
      fs.list path = .ok entries → (name, .link target) ∈ entries →
      fs.status (path.join name) = .ok (location, entry) →
      (∃ above ∈ enclosing root (names ++ [name]), fs.leadsTo location above = true) →
      ∃ above, (enclosing root (names ++ [name])).find? (fs.leadsTo location) = some above ∧
        OnlyLoop fs root (names ++ [name]) above := by
  refine ⟨exploresRoot_iff sound root, walk_passed sound, fun _ _ _ _ => walk_fresh sound, ?_⟩
  intro path names entries name target location entry member listed item leads back
  obtain ⟨above, innermost, alone⟩ := walk_loop sound member listed item leads back
  have reached : path.join name = (names ++ [name]).foldl Path.join root := by
    have above : path = names.foldl Path.join root := walk_reached fs root true _ member
    rw [List.foldl_append, ← above]
    rfl
  rw [reached] at alone
  exact ⟨above, innermost, alone, notes_of_loop alone sound, tree_of_loop alone,
    absent_of_loop alone (List.append_ne_nil_of_right_ne_nil _ (List.cons_ne_nil _ _))⟩

/-- A directory `r` with a link `l` to the directory that `r` is in. -/
def outwardSystem : FileSystem where
  top := .directory [([0x72], .directory [([0x6C], .link [0x2E, 0x2E])] false)] false
  working := []

/-- The walk is twice in `r`, and on the path of the second time three directories deep: only the
link that it meets there leads back. -/
theorem following_ends_outward : outwardSystem.WellFormed ∧
    (∃ path names, .directory path names ∈ outwardSystem.walk [0x72] true ∧ isLink outwardSystem path = true) ∧
    OnlyLoop outwardSystem [0x72] [[0x6C], [0x72], [0x6C]] [0x72, 0x2F, 0x6C] := by
  have sound : outwardSystem.WellFormed := by decide
  refine ⟨sound, ⟨[0x72, 0x2F, 0x6C], [[0x6C]], by decide +kernel, by decide +kernel⟩, ?_⟩
  obtain ⟨above, innermost, only⟩ := (following_ends outwardSystem sound [0x72]).2.2.2
    [0x72, 0x2F, 0x6C, 0x2F, 0x72] [[0x6C], [0x72]] [([0x6C], .link [0x2E, 0x2E])] [0x6C] [0x2E, 0x2E] []
    outwardSystem.top (by decide +kernel) rfl (List.mem_singleton_self _) rfl
    ⟨[0x72, 0x2F, 0x6C], by decide +kernel, by decide +kernel⟩
  have named : above = [0x72, 0x2F, 0x6C] := by
    have computed : (enclosing [0x72] [[0x6C], [0x72], [0x6C]]).find? (outwardSystem.leadsTo []) =
        some [0x72, 0x2F, 0x6C] := by decide +kernel
    exact Option.some.inj (innermost.symm.trans computed)
  rwa [named] at only

end Walk

end SourceAtlas
