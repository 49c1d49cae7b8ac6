import SourceAtlas.FileSystem.Access
import SourceAtlas.Proofs.Entry

/-! How a path leads on from where a shorter one leads. A walk through steps is taken apart
step by step, so that links and faults are looked at once. -/
namespace SourceAtlas.FileSystem

section Steps

def solidSteps (path : Path) : List Name :=
  path.split.filter (!·.isEmpty)

theorem steps_eq (path : Path) : steps path = solidSteps path ∨ steps path = solidSteps path ++ [[]] := by
  unfold steps
  split_ifs
  · exact .inr rfl
  · exact .inl (List.append_nil _)

variable {path : Path} {name : Name}

theorem ProperName.relative (proper : ProperName name) : Path.isAbsolute name = false := by
  cases name with
  | nil => rfl
  | cons byte rest =>
    have different : byte ≠ Path.slash := fun equal => proper.noSlash (by simp [equal])
    simp [Path.isAbsolute, different]

theorem ProperName.join_eq (proper : ProperName name) (nonempty : path ≠ []) :
    path.join name = (if path.getLast? = some Path.slash then path else path ++ [Path.slash]) ++ name := by
  unfold Path.join
  rw [proper.relative]
  by_cases ended : path.getLast? = some Path.slash <;> simp [ended, nonempty]

theorem ProperName.steps_append (proper : ProperName name) (base : Path) :
    steps (base ++ Path.slash :: name) = solidSteps base ++ [name] := by
  have last : (base ++ Path.slash :: name).getLast? ≠ some Path.slash := by
    intro equal
    rw [List.append_cons, List.getLast?_append_of_ne_nil _ proper.nonempty] at equal
    exact proper.noSlash (List.mem_of_getLast? equal)
  have alone : Path.split name = [name] := List.splitOn_eq_singleton proper.noSlash
  have divided : Path.split (base ++ Path.slash :: name) = base.split ++ [name] := by
    rw [← alone]
    exact List.splitOn_append_cons_self _ _
  rw [steps, solidSteps, divided, if_neg (by simpa only [beq_iff_eq] using last)]
  simp [proper.nonempty]

theorem ProperName.steps_join (proper : ProperName name) (nonempty : path ≠ []) :
    steps (path.join name) = solidSteps path ++ [name] := by
  rw [proper.join_eq nonempty]
  split_ifs with ended
  · obtain ⟨base, rfl⟩ : ∃ base, path = base ++ [Path.slash] := by
      obtain ⟨base, equal⟩ := List.getLast?_eq_some_iff.mp ended
      exact ⟨base, equal⟩
    have divided : solidSteps (base ++ [Path.slash]) = solidSteps base := by
      have halves : Path.split (base ++ [Path.slash]) = base.split ++ [[]] :=
        List.splitOn_append_cons_self base []
      simp [solidSteps, halves]
    rw [divided, List.append_assoc]
    exact proper.steps_append base
  · rw [List.append_assoc]
    exact proper.steps_append path

end Steps

section Walking

inductive Move where
  | reached (location : Location)
  | link (target : Path)
  | vacant
  | refused (fault : Fault)

def move (top : Entry) (name : Name) (location : Location) : Move :=
  match top.at? location with
  | some (.directory entries locked) =>
    if name.isEmpty then .reached location
    else if locked then .refused .denied
    else if name = here then .reached location
    else if name = parent then .reached location.dropLast
    else if maxNameLength < name.length then .refused .nameTooLong
    else
      match findNamed? name entries with
      | some (.link target) => .link target
      | some _ => .reached (location ++ [name])
      | none => .vacant
  | _ => .refused .notDirectory

def jump (top : Entry) (enter : Bool) (links : Nat) (location : Location) (target : Path)
    (rest : List Name) : Except Fault Place :=
  match links with
  | 0 => .error .tooManyLinks
  | links + 1 =>
    walkThrough top enter links (steps target ++ rest) (if target.isAbsolute then [] else location)

variable {top : Entry} {enter : Bool} {links : Nat}

theorem walkThrough_nil (location : Location) :
    walkThrough top enter links [] location = .ok (.occupied location) := by
  cases links <;> rfl

theorem walkThrough_cons (name : Name) (rest : List Name) (location : Location) :
    walkThrough top enter links (name :: rest) location =
      match move top name location with
      | .reached next => walkThrough top enter links rest next
      | .link target =>
        if rest.isEmpty && !enter then .ok (.occupied (location ++ [name]))
        else jump top enter links location target rest
      | .vacant => if rest.isEmpty then .ok (.vacant location name) else .error .missing
      | .refused fault => .error fault := by
  have unfolded : walkThrough top enter links = walkSteps top enter (jump top enter links) := by
    cases links <;> rfl
  rw [unfolded, walkSteps, move]
  repeat' split
  all_goals simp_all

theorem walkThrough_congr {other : Entry} (moves : ∀ name location, move other name location = move top name location)
    (enter : Bool) (links : Nat) (names : List Name) (location : Location) :
    walkThrough other enter links names location = walkThrough top enter links names location := by
  -- A link that is passed starts over with other names but leaves one link less to pass.
  induction links generalizing names location with
  | zero =>
    induction names generalizing location with
    | nil => rfl
    | cons name rest ih =>
      simp only [walkThrough_cons, moves, ih]
      rfl
  | succ links jumps =>
    induction names generalizing location with
    | nil => rfl
    | cons name rest ih => simp only [walkThrough_cons, moves, ih, jump, jumps]

/-- A path that goes on after leading somewhere goes on from there, with the links that
are left. -/
theorem walkThrough_append {first : List Name} {start location : Location}
    (found : walkThrough top true links first start = .ok (.occupied location)) :
    ∃ left, ∀ (enter : Bool) (rest : List Name), rest ≠ [] →
      walkThrough top enter links (first ++ rest) start =
        walkThrough top enter left rest location := by
  induction links using Nat.strongRecOn generalizing first start with
  | ind links outer =>
    induction first generalizing start with
    | nil =>
      simp only [walkThrough_nil, Except.ok.injEq, Place.occupied.injEq] at found
      exact ⟨links, fun _ _ _ => by rw [← found]; rfl⟩
    | cons name first inner =>
      rw [walkThrough_cons] at found
      have goesOn : ∀ rest : List Name, rest ≠ [] → (first ++ rest).isEmpty = false := by
        intro rest more
        simp [more]
      cases moved : move top name start with
      | reached next =>
        simp only [moved] at found
        obtain ⟨left, same⟩ := inner found
        refine ⟨left, fun enter rest more => ?_⟩
        rw [List.cons_append, walkThrough_cons, moved]
        exact same enter rest more
      | link target =>
        simp only [moved, Bool.not_true, Bool.and_false, Bool.false_eq_true, if_false] at found
        cases links with
        | zero => simp [jump] at found
        | succ links =>
          obtain ⟨left, same⟩ := outer links (Nat.lt_succ_self _) found
          refine ⟨left, fun enter rest more => ?_⟩
          rw [List.cons_append, walkThrough_cons, moved]
          simp only [goesOn rest more, Bool.false_and, Bool.false_eq_true, if_false, jump]
          rw [← List.append_assoc]
          exact same enter rest more
      | vacant =>
        simp only [moved] at found
        split at found <;> simp at found
      | refused fault => simp [moved] at found

theorem move_link {name : Name} {location : Location} {target : Path}
    (moved : move top name location = .link target) :
    top.at? (location ++ [name]) = some (.link target) := by
  unfold move at moved
  split at moved
  · rename_i entries locked found
    split_ifs at moved
    split at moved
    · rename_i target' named
      obtain rfl : target' = target := by simpa using moved
      exact Entry.at?_child found named
    · cases moved
    · cases moved
  · cases moved

theorem walkThrough_enter (names : List Name) (start : Location) :
    (∃ location target, walkThrough top false links names start = .ok (.occupied location) ∧
      top.at? location = some (.link target)) ∨
    walkThrough top true links names start = walkThrough top false links names start := by
  induction links using Nat.strongRecOn generalizing names start with
  | ind links outer =>
    induction names generalizing start with
    | nil => exact .inr (by simp only [walkThrough_nil])
    | cons name rest inner =>
      simp only [walkThrough_cons]
      cases moved : move top name start with
      | reached next => exact inner next
      | link target =>
        simp only [Bool.not_false, Bool.and_true, Bool.not_true, Bool.and_false,
          Bool.false_eq_true, if_false]
        split_ifs with last
        · exact .inl ⟨_, target, rfl, move_link moved⟩
        · cases links with
          | zero => exact .inr rfl
          | succ links => exact outer links (Nat.lt_succ_self _) _ _
      | vacant => exact .inr rfl
      | refused fault => exact .inr rfl

private theorem move_empty (top : Entry) (location : Location) :
    move top [] location = .reached location ∨ move top [] location = .refused .notDirectory := by
  unfold move
  split
  · exact .inl rfl
  · exact .inr rfl

theorem walkThrough_trailing {names : List Name} {start location : Location}
    (found : walkThrough top true links (names ++ [[]]) start = .ok (.occupied location)) :
    walkThrough top true links names start = .ok (.occupied location) := by
  induction links using Nat.strongRecOn generalizing names start with
  | ind links outer =>
    induction names generalizing start with
    | nil =>
      rw [List.nil_append, walkThrough_cons] at found
      rcases move_empty top start with stays | refused
      · simpa [stays] using found
      · simp [refused] at found
    | cons name rest inner =>
      rw [List.cons_append, walkThrough_cons] at found
      rw [walkThrough_cons]
      cases moved : move top name start with
      | reached next =>
        simp only [moved] at found ⊢
        exact inner found
      | link target =>
        simp only [moved, Bool.not_true, Bool.and_false, Bool.false_eq_true, if_false] at found ⊢
        cases links with
        | zero => simp [jump] at found
        | succ links =>
          simp only [jump] at found ⊢
          rw [← List.append_assoc] at found
          exact outer links (Nat.lt_succ_self _) found
      | vacant => simp [moved] at found
      | refused fault => simp [moved] at found

theorem move_proper {name : Name} {location : Location} {entries : List (Name × Entry)}
    (stored : top.at? location = some (.directory entries false)) (proper : ProperName name) :
    move top name location =
      match findNamed? name entries with
      | some (.link target) => .link target
      | some _ => .reached (location ++ [name])
      | none => .vacant := by
  have short : ¬ maxNameLength < name.length := Nat.not_lt.mpr proper.short
  simp [move, stored, proper.nonempty, proper.notHere, proper.notParent, short]

end Walking

section Lookup
variable {fs : FileSystem} {path : Path} {location : Location} {entry : Entry}

theorem lookup_ok {enter : Bool} (found : fs.lookup enter path = .ok (location, entry)) :
    fs.resolve enter path = .ok (.occupied location) ∧ fs.top.at? location = some entry := by
  unfold lookup at found
  split at found
  · cases found
  · cases found
  · rename_i place resolved
    split at found
    · rename_i stored here
      simp only [Except.ok.injEq, Prod.mk.injEq] at found
      rw [found.1] at resolved here
      exact ⟨resolved, by rw [here, found.2]⟩
    · cases found

theorem lookup_of_resolve {enter : Bool} (resolved : fs.resolve enter path = .ok (.occupied location))
    (here : fs.top.at? location = some entry) : fs.lookup enter path = .ok (location, entry) := by
  simp [lookup, resolved, here]

theorem status_at? (found : fs.status path = .ok (location, entry)) :
    fs.top.at? location = some entry :=
  (lookup_ok found).2

def startOf (fs : FileSystem) (path : Path) : Location :=
  if path.isAbsolute then [] else fs.working

theorem resolve_eq (enter : Bool) (noNul : 0 ∉ path) (nonempty : path ≠ []) :
    fs.resolve enter path = walkThrough fs.top enter maxLinks (steps path) (fs.startOf path) := by
  simp [resolve, walkFrom, noNul, nonempty, startOf]

theorem resolve_ok {enter : Bool} {place : Place} (found : fs.resolve enter path = .ok place) :
    0 ∉ path ∧ path ≠ [] := by
  constructor
  · intro nul
    simp [resolve, walkFrom, nul] at found
  · rintro rfl
    simp [resolve, walkFrom] at found

/-- What a path leads to is the same whether links at its end are entered or not, unless there
is one. -/
theorem status_or_link (fs : FileSystem) (path : Path) :
    (∃ location target, fs.linkStatus path = .ok (location, .link target)) ∨
      fs.status path = fs.linkStatus path := by
  by_cases nul : 0 ∈ path
  · exact .inr (by simp [status, linkStatus, lookup, resolve, walkFrom, nul])
  by_cases empty : path = []
  · exact .inr (by simp [status, linkStatus, lookup, resolve, walkFrom, empty])
  rcases @walkThrough_enter fs.top maxLinks (steps path) (fs.startOf path) with
    ⟨location, target, walked, here⟩ | same
  · rw [← resolve_eq false nul empty] at walked
    exact .inl ⟨location, target, lookup_of_resolve walked here⟩
  · rw [← resolve_eq true nul empty, ← resolve_eq false nul empty] at same
    exact .inr (by simp only [status, linkStatus, lookup, same])

theorem ProperName.startOf_join {name : Name} (proper : ProperName name) (nonempty : path ≠ []) :
    fs.startOf (path.join name) = fs.startOf path := by
  have same : (path.join name).isAbsolute = path.isAbsolute := by
    rw [proper.join_eq nonempty]
    cases path with
    | nil => exact absurd rfl nonempty
    | cons byte rest => split_ifs <;> rfl
  simp [startOf, same]

theorem ProperName.join_ne_nil {name : Name} (proper : ProperName name) (nonempty : path ≠ []) :
    path.join name ≠ [] := by
  rw [proper.join_eq nonempty]
  simp [proper.nonempty]

theorem ProperName.noNul_join {name : Name} (proper : ProperName name) (nonempty : path ≠ [])
    (noNul : 0 ∉ path) : 0 ∉ path.join name := by
  rw [proper.join_eq nonempty]
  have slash : (0 : UInt8) ≠ Path.slash := by decide
  split_ifs <;> simp [noNul, proper.noNul, slash]

theorem resolve_solid (found : fs.resolve true path = .ok (.occupied location)) :
    walkThrough fs.top true maxLinks (solidSteps path) (fs.startOf path) = .ok (.occupied location) := by
  obtain ⟨noNul, nonempty⟩ := resolve_ok found
  rw [resolve_eq _ noNul nonempty] at found
  rcases steps_eq path with same | slashed
  · rwa [same] at found
  · rw [slashed] at found
    exact walkThrough_trailing found

theorem linkStatus_join {entries : List (Name × Entry)} {name : Name}
    (found : fs.status path = .ok (location, .directory entries false)) (proper : ProperName name)
    (named : findNamed? name entries = some entry) :
    fs.linkStatus (path.join name) = .ok (location ++ [name], entry) := by
  obtain ⟨resolved, stored⟩ := lookup_ok found
  obtain ⟨noNul, nonempty⟩ := resolve_ok resolved
  obtain ⟨left, goesOn⟩ := walkThrough_append (resolve_solid resolved)
  refine lookup_of_resolve ?_ (Entry.at?_child stored named)
  rw [resolve_eq _ (proper.noNul_join nonempty noNul) (proper.join_ne_nil nonempty),
    proper.steps_join nonempty, proper.startOf_join nonempty, goesOn false [name] (by simp),
    walkThrough_cons, move_proper stored proper, named]
  cases entry with
  | file content locked => exact walkThrough_nil _
  | directory entries locked => exact walkThrough_nil _
  | link target => rfl

theorem status_of_linkStatus (found : fs.linkStatus path = .ok (location, entry))
    (solid : ∀ target, entry ≠ .link target) : fs.status path = .ok (location, entry) := by
  rcases status_or_link fs path with ⟨other, target, link⟩ | same
  · rw [found] at link
    exact absurd (Prod.mk.inj (Except.ok.inj link)).2 (solid target)
  · rw [same, found]

theorem status_join {entries : List (Name × Entry)} {name : Name}
    (found : fs.status path = .ok (location, .directory entries false)) (proper : ProperName name)
    (named : findNamed? name entries = some entry) (solid : ∀ target, entry ≠ .link target) :
    fs.status (path.join name) = .ok (location ++ [name], entry) :=
  status_of_linkStatus (linkStatus_join found proper named) solid

end Lookup

section Access
variable {fs : FileSystem} {path : Path} {location : Location} {entries : List (Name × Entry)}

theorem list_of_status {locked : Bool} (found : fs.status path = .ok (location, .directory entries locked)) :
    fs.list path = if locked then .error .denied else .ok entries := by
  cases locked <;> simp [list, openEntry, found, bind, Except.bind, pure, Except.pure, throw, throwThe,
    MonadExceptOf.throw]

theorem openEntry_of_status {locked : Bool}
    (found : fs.status path = .ok (location, .directory entries locked)) :
    fs.openEntry path = if locked then .error .denied else .ok (location, .directory entries locked) := by
  cases locked <;> simp [openEntry, found, bind, Except.bind, pure, Except.pure, throw, throwThe,
    MonadExceptOf.throw]

theorem isDirectory_of_status {locked : Bool}
    (found : fs.status path = .ok (location, .directory entries locked)) : fs.isDirectory path = true := by
  simp [isDirectory, found]

theorem status_of_isDirectory (leads : fs.isDirectory path = true) :
    ∃ location entries locked, fs.status path = .ok (location, .directory entries locked) := by
  unfold isDirectory at leads
  split at leads
  · exact ⟨_, _, _, by assumption⟩
  · cases leads

theorem status_of_list (listed : fs.list path = .ok entries) :
    ∃ location, fs.status path = .ok (location, .directory entries false) := by
  cases found : fs.status path with
  | error fault => simp [list, openEntry, found, bind, Except.bind] at listed
  | ok result =>
    obtain ⟨location, entry⟩ := result
    cases entry with
    | file content locked =>
      cases locked <;> simp [list, openEntry, found, bind, Except.bind, pure, Except.pure, throw, throwThe,
        MonadExceptOf.throw] at listed
    | link target =>
      simp [list, openEntry, found, bind, Except.bind, pure, Except.pure, throw, throwThe,
        MonadExceptOf.throw] at listed
    | directory others locked =>
      rw [list_of_status found] at listed
      cases locked with
      | true => simp at listed
      | false =>
        obtain rfl : others = entries := by simpa using listed
        exact ⟨location, rfl⟩

theorem directory_of_list {entry : Entry} (listed : fs.list path = .ok entries)
    (found : fs.status path = .ok (location, entry)) : entry = .directory entries false := by
  obtain ⟨other, unlocked⟩ := status_of_list listed
  exact (Prod.mk.inj (Except.ok.inj (found.symm.trans unlocked))).2

end Access

end SourceAtlas.FileSystem
