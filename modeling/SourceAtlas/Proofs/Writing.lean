import SourceAtlas.Proofs.Isolation

/-! What saving a report does to the files: one file is written, and all else stays as it is. -/
namespace SourceAtlas

namespace FileSystem

namespace Entry

def surface : Entry → Entry
  | .file content locked => .file content locked
  | .directory _ locked => .directory [] locked
  | .link target => .link target

theorem put_append {top : Entry} {parent : Location} {entries : List (Name × Entry)} {locked : Bool}
    (inside : top.at? parent = some (.directory entries locked)) (name : Name) (entry : Entry) :
    top.put (parent ++ [name]) entry = top.put parent (.directory (setNamed name entry entries) locked) := by
  induction parent generalizing top with
  | nil =>
    obtain rfl : top = .directory entries locked := by simpa [at?] using inside
    simp only [List.nil_append, put]
  | cons first rest ih =>
    cases top with
    | file | link => cases inside
    | directory others open_ =>
      obtain ⟨child, named, below⟩ := Option.bind_eq_some_iff.mp inside
      rw [List.cons_append, put_child named, put_child named, ih below]

section Stored
variable {top old : Entry} {target : Location} (stored : top.at? target = some old) (new : Entry)
include stored

theorem at?_put_append (rest : Location) : (top.put target new).at? (target ++ rest) = new.at? rest := by
  induction target generalizing top with
  | nil => simp only [put, List.nil_append]
  | cons name target ih =>
    cases top with
    | file | link => cases stored
    | directory entries locked =>
      obtain ⟨child, named, below⟩ := Option.bind_eq_some_iff.mp stored
      rw [put_child named, List.cons_append, at?, findNamed?_setNamed_self, Option.bind_some]
      exact ih below

theorem surface_at?_put {other : Location} (apart : ¬ target <+: other) :
    ((top.put target new).at? other).map surface = (top.at? other).map surface := by
  induction target generalizing top other with
  | nil => exact absurd List.nil_prefix apart
  | cons name target ih =>
    cases top with
    | file | link => cases stored
    | directory entries locked =>
      obtain ⟨child, named, below⟩ := Option.bind_eq_some_iff.mp stored
      rw [put_child named]
      cases other with
      | nil => rfl
      | cons first rest =>
        rw [at?, at?]
        by_cases same : first = name
        · subst same
          rw [findNamed?_setNamed_self, named, Option.bind_some, Option.bind_some]
          exact ih below fun further => apart (List.cons_prefix_cons.mpr ⟨rfl, further⟩)
        · rw [findNamed?_setNamed_of_ne _ _ same]

end Stored

end Entry

section Walking
variable {top : Entry}

theorem move_congr {other : Entry} {name : Name} {location : Location}
    (here : (other.at? location).map Entry.surface = (top.at? location).map Entry.surface)
    (there : (other.at? (location ++ [name])).map Entry.surface =
      (top.at? (location ++ [name])).map Entry.surface) :
    move other name location = move top name location := by
  rw [Entry.at?_append, Entry.at?_append] at there
  unfold move
  generalize other.at? location = changed at here there ⊢
  generalize top.at? location = entry at here there ⊢
  rcases entry with _ | entry
  · obtain rfl : changed = none := by simpa using here
    rfl
  obtain ⟨changed, rfl, same⟩ := Option.map_eq_some_iff.mp here
  cases entry with
  | file content locked | link target => cases changed <;> simp_all [Entry.surface]
  | directory entries locked =>
    cases changed with
    | file | link => cases same
    | directory others otherLocked =>
      obtain rfl : otherLocked = locked := (Entry.directory.inj same).2
      have kinds : (findNamed? name others).map Entry.surface = (findNamed? name entries).map Entry.surface := by
        simpa [Entry.at?] using there
      simp only
      generalize findNamed? name entries = found at kinds ⊢
      generalize findNamed? name others = otherFound at kinds ⊢
      rcases found with _ | child
      · obtain rfl : otherFound = none := by simpa using kinds
        rfl
      · obtain ⟨otherChild, rfl, kind⟩ := Option.map_eq_some_iff.mp kinds
        cases child <;> cases otherChild <;> cases kind <;> rfl

theorem walkThrough_vacant {enter : Bool} {links : Nat} {names : List Name} {start parent : Location} {name : Name}
    (walked : walkThrough top enter links names start = .ok (.vacant parent name)) :
    move top name parent = .vacant := by
  induction links using Nat.strongRecOn generalizing names start with
  | ind links outer =>
    induction names generalizing start with
    | nil => simp [walkThrough_nil] at walked
    | cons step rest inner =>
      rw [walkThrough_cons] at walked
      cases moved : move top step start with
      | reached next =>
        rw [moved] at walked
        exact inner walked
      | link target =>
        simp only [moved] at walked
        split_ifs at walked
        · cases walked
        · cases links with
          | zero => cases walked
          | succ links => exact outer links (Nat.lt_succ_self _) walked
      | vacant =>
        simp only [moved] at walked
        split_ifs at walked
        obtain ⟨rfl, rfl⟩ := Place.vacant.inj (Except.ok.inj walked)
        exact moved
      | refused fault =>
        rw [moved] at walked
        cases walked

theorem directory_of_vacant {name : Name} {parent : Location} (free : move top name parent = .vacant) :
    ∃ entries, top.at? parent = some (.directory entries false) ∧ findNamed? name entries = none := by
  unfold move at free
  split at free
  · rename_i entries locked found
    split_ifs at free with empty closed
    split at free
    · cases free
    · cases free
    · rename_i missing
      exact ⟨entries, by rw [found, Bool.eq_false_iff.mpr closed], missing⟩
  · cases free

section Filling
variable {name : Name} {parent : Location} (free : move top name parent = .vacant) (content : Bytes)
include free

theorem at?_fill : (top.put (parent ++ [name]) (.file content false)).at? (parent ++ [name]) =
    some (.file content false) := by
  obtain ⟨entries, inside, missing⟩ := directory_of_vacant free
  rw [Entry.put_append inside, Entry.at?_put_append inside, Entry.at?, findNamed?_setNamed_self]
  rfl

theorem surface_at?_fill {other : Location} (different : other ≠ parent ++ [name]) :
    ((top.put (parent ++ [name]) (.file content false)).at? other).map Entry.surface =
      (top.at? other).map Entry.surface := by
  obtain ⟨entries, inside, missing⟩ := directory_of_vacant free
  rw [Entry.put_append inside]
  by_cases below : parent <+: other
  · obtain ⟨rest, rfl⟩ := below
    rw [Entry.at?_put_append inside, Entry.at?_append, inside, Option.bind_some]
    cases rest with
    | nil => rfl
    | cons first more =>
      rw [Entry.at?, Entry.at?]
      by_cases same : first = name
      · subst same
        have further : more ≠ [] := by
          rintro rfl
          exact different rfl
        obtain ⟨next, later, rfl⟩ := List.exists_cons_of_ne_nil further
        rw [findNamed?_setNamed_self, missing]
        rfl
      · rw [findNamed?_setNamed_of_ne _ _ same]
  · exact Entry.surface_at?_put inside _ below

theorem move_fill {step : Name} {location : Location} (other : ¬ (step = name ∧ location = parent)) :
    move (top.put (parent ++ [name]) (.file content false)) step location = move top step location := by
  by_cases inside : location = parent ++ [name]
  · subst inside
    obtain ⟨entries, stored, missing⟩ := directory_of_vacant free
    have nothing : top.at? (parent ++ [name]) = none := by
      rw [Entry.at?_append, stored, Option.bind_some, Entry.at?, missing]
      rfl
    simp [move, at?_fill free, nothing]
  · refine move_congr (surface_at?_fill free content inside) (surface_at?_fill free content ?_)
    intro same
    obtain ⟨rfl, names⟩ := List.append_inj' same rfl
    exact other ⟨List.singleton_inj.mp names, rfl⟩

theorem move_fill_self : move (top.put (parent ++ [name]) (.file content false)) name parent =
    .reached (parent ++ [name]) := by
  obtain ⟨entries, inside, missing⟩ := directory_of_vacant free
  have filled : (top.put (parent ++ [name]) (.file content false)).at? parent =
      some (.directory (setNamed name (.file content false) entries) false) := by
    have here := Entry.at?_put_append inside (.directory (setNamed name (.file content false) entries) false) []
    rwa [List.append_nil, ← Entry.put_append inside] at here
  simp only [move, inside, missing] at free
  simp only [move, filled, findNamed?_setNamed_self]
  split_ifs at free ⊢
  rfl

theorem walkThrough_fill {enter : Bool} {links : Nat} {names : List Name} {start : Location}
    (walked : walkThrough top enter links names start = .ok (.vacant parent name)) :
    walkThrough (top.put (parent ++ [name]) (.file content false)) enter links names start =
      .ok (.occupied (parent ++ [name])) := by
  induction links using Nat.strongRecOn generalizing names start with
  | ind links outer =>
    induction names generalizing start with
    | nil => simp [walkThrough_nil] at walked
    | cons step rest inner =>
      rw [walkThrough_cons] at walked ⊢
      by_cases last : step = name ∧ start = parent
      · obtain ⟨rfl, rfl⟩ := last
        simp only [free] at walked
        split_ifs at walked with ended
        rw [move_fill_self free, List.isEmpty_iff.mp ended]
        exact walkThrough_nil _
      · rw [move_fill free content last]
        cases moved : move top step start with
        | reached next =>
          rw [moved] at walked
          exact inner walked
        | link target =>
          simp only [moved] at walked ⊢
          split_ifs at walked ⊢
          · cases walked
          · cases links with
            | zero => cases walked
            | succ links => exact outer links (Nat.lt_succ_self _) walked
        | vacant =>
          simp only [moved] at walked
          split_ifs at walked
          obtain ⟨rfl, rfl⟩ := Place.vacant.inj (Except.ok.inj walked)
          exact absurd ⟨rfl, rfl⟩ last
        | refused fault =>
          rw [moved] at walked
          cases walked

end Filling

end Walking

section Targets
variable {fs : FileSystem} {path : Path}

/-- Where a file can be written: over an old one that is not locked, or at a free name. -/
inductive IsTarget (fs : FileSystem) (path : Path) : Location → Prop
  | old {location : Location} {content : Bytes} (found : fs.status path = .ok (location, .file content false)) :
      IsTarget fs path location
  | new {parent : Location} {name : Name} (free : fs.resolve true path = .ok (.vacant parent name)) :
      IsTarget fs path (parent ++ [name])

theorem target_of_slash (slashed : path.getLast? = some Path.slash) (location : Location) :
    fs.target path ≠ .ok location := by
  intro found
  simp only [target, slashed, beq_self_eq_true, if_true, bind, Except.bind] at found
  split at found <;> cases found

theorem target_eq_ok_iff {location : Location} : fs.target path = .ok location ↔
    path.getLast? ≠ some Path.slash ∧ IsTarget fs path location := by
  by_cases slashed : path.getLast? = some Path.slash
  · simp [target_of_slash slashed, slashed]
  have unslashed : (path.getLast? == some Path.slash) = false := beq_eq_false_iff_ne.mpr slashed
  simp only [target, unslashed, Bool.false_eq_true, if_false, ne_eq, slashed, not_false_eq_true, true_and, bind,
    Except.bind, pure, Except.pure]
  constructor
  · intro found
    cases resolved : fs.resolve true path with
    | error fault => simp [resolved] at found
    | ok place =>
      cases place with
      | vacant parent name =>
        simp only [resolved, Except.ok.injEq] at found
        subst found
        exact .new resolved
      | occupied there =>
        simp only [resolved] at found
        split at found
        · rename_i content stored
          obtain rfl := Except.ok.inj found
          exact .old (lookup_of_resolve resolved stored)
        · cases found
        · cases found
  · intro leads
    cases leads with
    | old found =>
      obtain ⟨resolved, stored⟩ := lookup_ok found
      simp only [resolved, stored]
    | new free => simp only [free]

theorem move_of_free {parent : Location} {name : Name} (free : fs.resolve true path = .ok (.vacant parent name)) :
    move fs.top name parent = .vacant := by
  unfold resolve walkFrom at free
  split_ifs at free
  · exact walkThrough_vacant free
  · exact walkThrough_vacant free

theorem resolve_fill {parent : Location} {name : Name} (free : fs.resolve true path = .ok (.vacant parent name))
    (content : Bytes) :
    ({ fs with top := fs.top.put (parent ++ [name]) (.file content false) } : FileSystem).resolve true path =
      .ok (.occupied (parent ++ [name])) := by
  have vacant := move_of_free free
  unfold resolve walkFrom at free ⊢
  split_ifs at free ⊢
  · exact walkThrough_fill vacant content free
  · exact walkThrough_fill vacant content free

/-- Two file systems that differ at most in what is at one location. -/
structure SameBut (location : Location) (before after : FileSystem) : Prop where
  working : after.working = before.working
  others : ∀ other ≠ location,
    (after.top.at? other).map Entry.surface = (before.top.at? other).map Entry.surface

variable {location : Location}

theorem IsTarget.sameBut (leads : IsTarget fs path location) (content : Bytes) :
    SameBut location fs { fs with top := fs.top.put location (.file content false) } where
  working := rfl
  others := by
    intro other different
    cases leads with
    | new free => exact surface_at?_fill (move_of_free free) content different
    | @old _ old found =>
      have stored := status_at? found
      by_cases below : location <+: other
      · obtain ⟨rest, rfl⟩ := below
        have further : rest ≠ [] := by
          rintro rfl
          exact different (List.append_nil _)
        obtain ⟨next, later, rfl⟩ := List.exists_cons_of_ne_nil further
        simp only [Entry.at?_put_append stored, Entry.at?_append, stored, Option.bind_some, Entry.at?]
      · exact Entry.surface_at?_put stored _ below

theorem IsTarget.status (leads : IsTarget fs path location) (content : Bytes) :
    ({ fs with top := fs.top.put location (.file content false) } : FileSystem).status path =
      .ok (location, .file content false) := by
  cases leads with
  | new free => exact lookup_of_resolve (resolve_fill free content) (at?_fill (move_of_free free) content)
  | @old _ old found =>
    have stored := status_at? found
    have differ := differOnlyAt_put stored content
    have resolved := (lookup_ok found).1
    rw [← resolve_skeleton, ← differ.skeleton_eq, resolve_skeleton] at resolved
    have written := Entry.at?_put_append stored (.file content false) []
    rw [List.append_nil] at written
    exact lookup_of_resolve resolved written

theorem write_of_target (unslashed : path.getLast? ≠ some Path.slash) (leads : IsTarget fs path location)
    (content : Bytes) :
    fs.write path content = .ok { fs with top := fs.top.put location (.file content false) } := by
  simp only [write, target_eq_ok_iff.mpr ⟨unslashed, leads⟩, bind, Except.bind, pure, Except.pure]

theorem target_of_write {content : Bytes} {after : FileSystem} (written : fs.write path content = .ok after) :
    ∃ location, path.getLast? ≠ some Path.slash ∧ IsTarget fs path location ∧
      after = { fs with top := fs.top.put location (.file content false) } := by
  cases found : fs.target path with
  | error fault => simp [write, found, bind, Except.bind] at written
  | ok location =>
    obtain ⟨unslashed, leads⟩ := target_eq_ok_iff.mp found
    rw [write_of_target unslashed leads] at written
    exact ⟨location, unslashed, leads, (Except.ok.inj written).symm⟩

end Targets

end FileSystem

section Saving
open FileSystem
variable (fs : FileSystem) (registry : Registry) (options : Options)

def savedBytes : Bytes :=
  Bytes.ofText ((analyze fs registry options).report.format Report.defaultIndent)

theorem survey_of_write {after : FileSystem}
    (written : fs.write options.output (savedBytes fs registry options) = .ok after) :
    (survey fs registry options).fs = after ∧ (survey fs registry options).summary.saved = true := by
  rw [savedBytes] at written
  simp only [survey, written, and_self]

theorem survey_of_fault {fault : FileSystem.Fault}
    (failed : fs.write options.output (savedBytes fs registry options) = .error fault) :
    (survey fs registry options).fs = fs ∧ (survey fs registry options).summary.saved = false := by
  rw [savedBytes] at failed
  simp only [survey, failed, and_self]

/-- A survey returns the summary of its analysis whether the report can be saved or not. It is
saved where its path leads to a file or a free name; then that file has the report of the files as
they were before, and nothing else is changed. Otherwise nothing is changed at all. -/
theorem survey_effect :
    (survey fs registry options).summary =
      { files := (analyze fs registry options).report.tree.fileCount
        outlines := (analyze fs registry options).report.outlines.length
        documents := (analyze fs registry options).report.documents.length
        warnings := (analyze fs registry options).warnings
        saved := (survey fs registry options).summary.saved } ∧
    ((survey fs registry options).summary.saved = true ↔
      options.output.getLast? ≠ some Path.slash ∧ ∃ location, IsTarget fs options.output location) ∧
    ((survey fs registry options).summary.saved = false → (survey fs registry options).fs = fs) ∧
    ((survey fs registry options).summary.saved = true → ∃ location, IsTarget fs options.output location ∧
      (survey fs registry options).fs.status options.output = .ok (location,
        .file (Bytes.ofText ((analyze fs registry options).report.format Report.defaultIndent)) false) ∧
      SameBut location fs (survey fs registry options).fs) := by
  refine ⟨rfl, ?_⟩
  cases written : fs.write options.output (savedBytes fs registry options) with
  | error fault =>
    obtain ⟨unchanged, unsaved⟩ := survey_of_fault fs registry options written
    rw [unchanged, unsaved]
    have untargeted : ¬ (options.output.getLast? ≠ some Path.slash ∧
        ∃ location, IsTarget fs options.output location) := by
      rintro ⟨unslashed, location, leads⟩
      rw [write_of_target unslashed leads] at written
      cases written
    exact ⟨iff_of_false Bool.false_ne_true untargeted, fun _ => rfl,
      fun saved => absurd saved Bool.false_ne_true⟩
  | ok after =>
    obtain ⟨changed, saved⟩ := survey_of_write fs registry options written
    obtain ⟨location, unslashed, leads, rfl⟩ := target_of_write written
    rw [changed, saved]
    exact ⟨iff_of_true rfl ⟨unslashed, location, leads⟩,
      fun unsaved => absurd unsaved.symm Bool.false_ne_true,
      fun _ => ⟨location, leads, leads.status _, leads.sameBut _⟩⟩

/-- A survey of `p` that saves its report in `p` itself. -/
def insideOptions : Options where
  root := Path.ofText "p"
  output := Path.ofText "p/o"

/-- A new file is written, but not where a slash asks for a directory. -/
theorem survey_effect_documented :
    (survey documentedSystem .default insideOptions).summary.saved = true ∧
    SameBut [Path.ofText "p", Path.ofText "o"] documentedSystem (survey documentedSystem .default insideOptions).fs ∧
    (survey documentedSystem .default { insideOptions with output := Path.ofText "p/" }).fs = documentedSystem := by
  have effect := survey_effect documentedSystem .default insideOptions
  have slashed := survey_effect documentedSystem .default { insideOptions with output := Path.ofText "p/" }
  have free : documentedSystem.target insideOptions.output = .ok [Path.ofText "p", Path.ofText "o"] := rfl
  have saved := effect.2.1.mpr ⟨(target_eq_ok_iff.mp free).1, _, (target_eq_ok_iff.mp free).2⟩
  obtain ⟨location, leads, found, same⟩ := effect.2.2.2 saved
  have here : location = [Path.ofText "p", Path.ofText "o"] := by
    have target := target_eq_ok_iff.mpr ⟨(target_eq_ok_iff.mp free).1, leads⟩
    rw [free] at target
    exact (Except.ok.inj target).symm
  refine ⟨saved, here ▸ same, slashed.2.2.1 ?_⟩
  rw [← Bool.not_eq_true, slashed.2.1]
  rintro ⟨unslashed, _⟩
  exact unslashed (by decide)

end Saving

end SourceAtlas
