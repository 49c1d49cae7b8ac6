import SourceAtlas.Proofs.Survey

/-! The order in which a system lists the entries of directories. Names are looked up and entries
are visited by name, so nothing that a survey finds, tells or writes depends on that order. -/
namespace SourceAtlas

namespace FileSystem

namespace Entry

/-- Two entries with the same content, in which directories may list their entries in other orders,
at any depth. -/
inductive Rearranged : Entry → Entry → Prop
  | file (content : Bytes) (locked : Bool) : Rearranged (.file content locked) (.file content locked)
  | link (target : Path) : Rearranged (.link target) (.link target)
  | directory {entries others : List (Name × Entry)} (locked : Bool)
      (names : (entries.map (·.1)).Perm (others.map (·.1)))
      (each : ∀ name entry other, (name, entry) ∈ entries → (name, other) ∈ others → Rearranged entry other) :
      Rearranged (.directory entries locked) (.directory others locked)

theorem Rearranged.of_perm {entries others : List (Name × Entry)} (distinct : (entries.map (·.1)).Nodup)
    (perm : entries.Perm others) (each : ∀ item ∈ entries, Rearranged item.2 item.2) (locked : Bool) :
    Rearranged (.directory entries locked) (.directory others locked) := by
  refine .directory locked (perm.map _) fun name entry other member inside => ?_
  have found := findNamed?_of_mem distinct (perm.symm.subset inside)
  rw [findNamed?_of_mem distinct member] at found
  rw [← Option.some.inj found]
  exact each _ member

section Lists
variable {entries others : List (Name × Entry)} (names : (entries.map (·.1)).Perm (others.map (·.1)))
include names

theorem exists_of_names {name : Name} {entry : Entry} (member : (name, entry) ∈ entries) :
    ∃ other, (name, other) ∈ others := by
  have named : name ∈ others.map (·.1) := names.subset (List.mem_map.mpr ⟨_, member, rfl⟩)
  obtain ⟨⟨_, other⟩, inside, rfl⟩ := List.mem_map.mp named
  exact ⟨other, inside⟩

theorem map_perm_of_names {β : Type} (distinct : (entries.map (·.1)).Nodup) (value changed : Name × Entry → β)
    (same : ∀ name entry other, (name, entry) ∈ entries → (name, other) ∈ others →
      changed (name, other) = value (name, entry)) :
    (others.map fun item => (item.1, changed item)).Perm (entries.map fun item => (item.1, value item)) := by
  have nodup {items : List (Name × Entry)} (distinct : (items.map (·.1)).Nodup) (value : Name × Entry → β) :
      (items.map fun item => (item.1, value item)).Nodup :=
    List.Nodup.of_map (·.1) (by simpa [List.map_map, Function.comp_def] using distinct)
  refine (List.perm_ext_iff_of_nodup (nodup (names.nodup_iff.mp distinct) _) (nodup distinct _)).mpr ?_
  rintro ⟨name, result⟩
  simp only [List.mem_map, Prod.mk.injEq]
  constructor
  · rintro ⟨⟨_, other⟩, inside, rfl, rfl⟩
    obtain ⟨entry, member⟩ := exists_of_names names.symm inside
    exact ⟨_, member, rfl, (same _ _ _ member inside).symm⟩
  · rintro ⟨⟨_, entry⟩, member, rfl, rfl⟩
    obtain ⟨other, inside⟩ := exists_of_names names member
    exact ⟨_, inside, rfl, same _ _ _ member inside⟩

end Lists

end Entry

theorem sortNamed_eq_of_perm {α : Type} {items others : List (Name × α)} (distinct : (items.map (·.1)).Nodup)
    (perm : others.Perm items) : sortNamed others = sortNamed items := by
  have ascending := sortNamed_pairwise distinct
  have otherAscending := sortNamed_pairwise ((perm.map (·.1)).nodup_iff.mpr distinct)
  have sorted : (sortNamed others).Perm (sortNamed items) :=
    (sortNamed_perm others).trans (perm.trans (sortNamed_perm items).symm)
  exact sorted.eq_of_pairwise (fun left right _ _ less greater => absurd greater (List.lt_asymm less))
    otherAscending ascending

namespace Entry

theorem findNamed?_rearranged {entries others : List (Name × Entry)}
    (names : (entries.map (·.1)).Perm (others.map (·.1)))
    (each : ∀ name entry other, (name, entry) ∈ entries → (name, other) ∈ others → Rearranged entry other)
    (name : Name) : Option.Rel Rearranged (findNamed? name entries) (findNamed? name others) := by
  cases found : findNamed? name entries with
  | some entry =>
    have member := mem_of_findNamed? found
    obtain ⟨_, inside⟩ := exists_of_names names member
    obtain ⟨other, foundOther⟩ := findNamed?_isSome inside
    rw [foundOther]
    exact .some (each name entry other member (mem_of_findNamed? foundOther))
  | none =>
    cases foundOther : findNamed? name others with
    | none => exact .none
    | some other =>
      obtain ⟨_, member⟩ := exists_of_names names.symm (mem_of_findNamed? foundOther)
      obtain ⟨entry, again⟩ := findNamed?_isSome member
      rw [found] at again
      cases again

theorem Rearranged.at? {top other : Entry} (same : Rearranged top other) (location : Location) :
    Option.Rel Rearranged (top.at? location) (other.at? location) := by
  induction location generalizing top other with
  | nil => exact .some same
  | cons name rest ih =>
    cases same with
    | file | link => exact .none
    | directory locked names each =>
      rw [Entry.at?, Entry.at?]
      have children := findNamed?_rearranged names each name
      generalize findNamed? name _ = child at children ⊢
      generalize findNamed? name _ = otherChild at children ⊢
      cases children with
      | none => exact .none
      | some related => exact ih related

private theorem directoryCountOfAll_eq (entries : List (Name × Entry)) : directoryCountOfAll entries =
    ((entries.map fun item => (item.1, item.2.directoryCount)).map (·.2)).foldr (fun count sum => count + sum) 0 := by
  induction entries with
  | nil => rfl
  | cons item rest ih =>
    rw [directoryCountOfAll, ih]
    rfl

theorem Rearranged.directoryCount {entry other : Entry} (same : Rearranged entry other)
    (sound : entry.everyDirectory areProperlyNamed = true) : other.directoryCount = entry.directoryCount := by
  induction same with
  | file | link => rfl
  | @directory entries others locked names each ih =>
    simp only [everyDirectory, Bool.and_eq_true] at sound
    have counts := map_perm_of_names names (of_decide_eq_true sound.1).2 (fun item => item.2.directoryCount)
      (fun item => item.2.directoryCount) fun name entry other member inside =>
        ih name entry other member inside (everyDirectory_of_mem sound.2 member)
    rw [Entry.directoryCount, Entry.directoryCount, directoryCountOfAll_eq, directoryCountOfAll_eq,
      (counts.map (·.2)).foldr_eq' (f := fun count sum => count + sum)
        fun first _ second _ sum => Nat.add_left_comm second first sum]

section Setting
variable {name : Name} {value : Entry}

private theorem names_setNamed (items : List (Name × Entry)) : (setNamed name value items).map (·.1) =
    if name ∈ items.map (·.1) then items.map (·.1) else items.map (·.1) ++ [name] := by
  induction items with
  | nil => rfl
  | cons item rest ih =>
    by_cases same : item.1 = name
    · simp [setNamed, same]
    · have later : name ≠ item.1 := fun equal => same equal.symm
      by_cases inside : name ∈ rest.map (·.1) <;> simp_all [setNamed]

private theorem mem_setNamed {items : List (Name × Entry)} (distinct : (items.map (·.1)).Nodup) {other : Name}
    {entry : Entry} (member : (other, entry) ∈ setNamed name value items) :
    (other = name ∧ entry = value) ∨ (other ≠ name ∧ (other, entry) ∈ items) := by
  have found : findNamed? other (setNamed name value items) = some entry := by
    refine findNamed?_of_mem ?_ member
    rw [names_setNamed]
    split_ifs with inside
    · exact distinct
    · exact List.nodup_append_comm.mp (List.nodup_cons.mpr ⟨inside, distinct⟩)
  by_cases same : other = name
  · rw [same, findNamed?_setNamed_self] at found
    exact .inl ⟨same, (Option.some.inj found).symm⟩
  · rw [findNamed?_setNamed_of_ne _ _ same] at found
    exact .inr ⟨same, mem_of_findNamed? found⟩

theorem setNamed_rearranged {entries others : List (Name × Entry)} {changed : Entry} (locked : Bool)
    (names : (entries.map (·.1)).Perm (others.map (·.1))) (distinct : (entries.map (·.1)).Nodup)
    (each : ∀ name entry other, (name, entry) ∈ entries → (name, other) ∈ others → Rearranged entry other)
    (same : Rearranged value changed) :
    Rearranged (.directory (setNamed name value entries) locked)
      (.directory (setNamed name changed others) locked) := by
  refine .directory locked ?_ ?_
  · rw [names_setNamed, names_setNamed]
    by_cases inside : name ∈ entries.map (·.1)
    · rw [if_pos inside, if_pos (names.subset inside)]
      exact names
    · rw [if_neg inside, if_neg fun other => inside (names.symm.subset other)]
      exact names.append_right [name]
  · intro found entry other member otherMember
    rcases mem_setNamed distinct member with ⟨rfl, rfl⟩ | ⟨different, old⟩
    · rcases mem_setNamed (names.nodup_iff.mp distinct) otherMember with ⟨_, rfl⟩ | ⟨different, _⟩
      · exact same
      · exact absurd rfl different
    · rcases mem_setNamed (names.nodup_iff.mp distinct) otherMember with ⟨here, _⟩ | ⟨_, otherOld⟩
      · exact absurd here different
      · exact each found entry other old otherOld

end Setting

theorem Rearranged.put {top other : Entry} (same : Rearranged top other)
    (sound : top.everyDirectory areProperlyNamed = true) (location : Location) (content : Bytes) (locked : Bool) :
    Rearranged (top.put location (.file content locked)) (other.put location (.file content locked)) := by
  induction location generalizing top other with
  | nil =>
    simp only [Entry.put]
    exact .file content locked
  | cons name rest ih =>
    cases same with
    | file content locked => simpa only [Entry.put] using .file content locked
    | link target => simpa only [Entry.put] using .link target
    | @directory entries others closed names each =>
      simp only [everyDirectory, Bool.and_eq_true] at sound
      have distinct := (of_decide_eq_true sound.1).2
      have children := findNamed?_rearranged names each name
      cases found : findNamed? name entries with
      | some child =>
        cases foundOther : findNamed? name others with
        | none => simp [found, foundOther] at children
        | some otherChild =>
          rw [found, foundOther] at children
          cases children with
          | some related =>
            rw [put_child found, put_child foundOther]
            have below := everyDirectory_of_mem sound.2 (mem_of_findNamed? found)
            exact setNamed_rearranged closed names distinct each (ih related below)
      | none =>
        cases foundOther : findNamed? name others with
        | some otherChild => simp [found, foundOther] at children
        | none =>
          cases rest with
          | nil =>
            simp only [Entry.put]
            exact setNamed_rearranged closed names distinct each (.file content locked)
          | cons next rest =>
            simp only [Entry.put, found, foundOther]
            exact .directory closed names each

end Entry

theorem move_rearranged {top other : Entry} (same : top.Rearranged other) (name : Name) (location : Location) :
    move other name location = move top name location := by
  rw [move, move]
  have here := same.at? location
  generalize top.at? location = entry at here ⊢
  generalize other.at? location = changed at here ⊢
  cases here with
  | none => rfl
  | some related =>
    cases related with
    | file | link => rfl
    | directory locked names each =>
      have children := Entry.findNamed?_rearranged names each name
      simp only
      generalize findNamed? name _ = child at children ⊢
      generalize findNamed? name _ = otherChild at children ⊢
      cases children with
      | none => rfl
      | some related => cases related <;> rfl

/-- Two file systems that list the entries of directories in different orders. -/
structure Rearranged (fs other : FileSystem) : Prop where
  working : fs.working = other.working
  sizes : fs.directorySize = other.directorySize
  top : fs.top.Rearranged other.top

namespace Rearranged
variable {fs other : FileSystem} (rearranged : fs.Rearranged other)
include rearranged

theorem walkFrom (path : Path) (enter : Bool) (steps : List Name) :
    other.walkFrom path enter steps = fs.walkFrom path enter steps := by
  have walks := walkThrough_congr (move_rearranged rearranged.top)
  simp only [FileSystem.walkFrom, rearranged.working, walks]

theorem resolve (enter : Bool) (path : Path) : other.resolve enter path = fs.resolve enter path :=
  rearranged.walkFrom path enter (steps path)

theorem lookup (enter : Bool) (path : Path) :
    (∃ fault, fs.lookup enter path = .error fault ∧ other.lookup enter path = .error fault) ∨
      ∃ location entry changed, fs.lookup enter path = .ok (location, entry) ∧
        other.lookup enter path = .ok (location, changed) ∧ entry.Rearranged changed := by
  rw [FileSystem.lookup, FileSystem.lookup, rearranged.resolve]
  rcases fs.resolve enter path with fault | ⟨location⟩ | ⟨parent, name⟩
  · exact .inl ⟨fault, rfl, rfl⟩
  · have here := rearranged.top.at? location
    simp only
    generalize fs.top.at? location = entry at here ⊢
    generalize other.top.at? location = changed at here ⊢
    cases here with
    | none => exact .inl ⟨_, rfl, rfl⟩
    | some related => exact .inr ⟨location, _, _, rfl, rfl, related⟩
  · exact .inl ⟨_, rfl, rfl⟩

theorem isDirectory (path : Path) : other.isDirectory path = fs.isDirectory path := by
  rw [FileSystem.isDirectory, FileSystem.isDirectory, status, status]
  rcases rearranged.lookup true path with
    ⟨fault, failed, otherFailed⟩ | ⟨location, entry, changed, found, otherFound, related⟩
  · rw [failed, otherFailed]
  · rw [found, otherFound]
    cases related <;> rfl

theorem openEntry (path : Path) :
    (∃ fault, fs.openEntry path = .error fault ∧ other.openEntry path = .error fault) ∨
      ∃ location entry changed, fs.openEntry path = .ok (location, entry) ∧
        other.openEntry path = .ok (location, changed) ∧ entry.Rearranged changed := by
  rw [FileSystem.openEntry, FileSystem.openEntry, status, status]
  rcases rearranged.lookup true path with
    ⟨fault, failed, otherFailed⟩ | ⟨location, entry, changed, found, otherFound, related⟩
  · rw [failed, otherFailed]
    exact .inl ⟨fault, rfl, rfl⟩
  · rw [found, otherFound]
    cases related with
    | link target => exact .inr ⟨_, _, _, rfl, rfl, .link target⟩
    | file content locked =>
      cases locked with
      | true => exact .inl ⟨_, rfl, rfl⟩
      | false => exact .inr ⟨_, _, _, rfl, rfl, .file content false⟩
    | directory locked names each =>
      cases locked with
      | true => exact .inl ⟨_, rfl, rfl⟩
      | false => exact .inr ⟨_, _, _, rfl, rfl, .directory false names each⟩

theorem list (path : Path) :
    (∃ fault, fs.list path = .error fault ∧ other.list path = .error fault) ∨
      ∃ entries others, fs.list path = .ok entries ∧ other.list path = .ok others := by
  rw [FileSystem.list, FileSystem.list]
  rcases rearranged.openEntry path with
    ⟨fault, failed, otherFailed⟩ | ⟨location, entry, changed, found, otherFound, related⟩
  · rw [failed, otherFailed]
    exact .inl ⟨fault, rfl, rfl⟩
  · rw [found, otherFound]
    cases related with
    | file | link => exact .inl ⟨_, rfl, rfl⟩
    | directory => exact .inr ⟨_, _, rfl, rfl⟩

theorem size (path : Path) : other.size path = fs.size path := by
  rw [FileSystem.size, FileSystem.size, status, status]
  rcases rearranged.lookup true path with
    ⟨fault, failed, otherFailed⟩ | ⟨location, entry, changed, found, otherFound, related⟩
  · rw [failed, otherFailed]
    rfl
  · rw [found, otherFound]
    cases related with
    | file | link | directory => simp [sizeOf, rearranged.sizes, bind, Except.bind]

theorem read (path : Path) : other.read path = fs.read path := by
  rw [FileSystem.read, FileSystem.read]
  rcases rearranged.openEntry path with
    ⟨fault, failed, otherFailed⟩ | ⟨location, entry, changed, found, otherFound, related⟩
  · rw [failed, otherFailed]
  · rw [found, otherFound]
    cases related <;> rfl

theorem target (path : Path) : other.target path = fs.target path := by
  unfold FileSystem.target
  rw [rearranged.walkFrom, rearranged.resolve]
  rcases fs.resolve true path with fault | ⟨location⟩ | ⟨parent, name⟩
  · rfl
  · have here := rearranged.top.at? location
    simp only [bind, Except.bind]
    generalize fs.top.at? location = entry at here ⊢
    generalize other.top.at? location = changed at here ⊢
    cases here with
    | none => rfl
    | some related => cases related <;> rfl
  · rfl

theorem write (sound : fs.WellFormed) (path : Path) (content : Bytes) :
    (∃ fault, fs.write path content = .error fault ∧ other.write path content = .error fault) ∨
      ∃ after otherAfter, fs.write path content = .ok after ∧ other.write path content = .ok otherAfter ∧
        after.Rearranged otherAfter := by
  rw [FileSystem.write, FileSystem.write, rearranged.target]
  rcases fs.target path with fault | location
  · exact .inl ⟨fault, rfl, rfl⟩
  · exact .inr ⟨_, _, rfl, rfl, rearranged.working, rearranged.sizes, rearranged.top.put sound location content false⟩

theorem readText (limit : Option Nat) (path : Path) : readText other limit path = readText fs limit path := by
  unfold SourceAtlas.readText
  rw [rearranged.size, rearranged.read]

end Rearranged

end FileSystem

namespace Walk
open FileSystem
variable {fs other : FileSystem} (rearranged : fs.Rearranged other)
include rearranged

theorem visit_rearranged (onLink : LinkRule) {entry changed : Entry} (same : entry.Rearranged changed)
    (sound : entry.everyDirectory areProperlyNamed = true) (stages : List Stage) (path : Path)
    (names : List Name) (location : Location) :
    visit other onLink stages path names location changed = visit fs onLink stages path names location entry := by
  induction same generalizing stages path names location with
  | file | link => rw [visit, visit]
  | @directory entries others locked order each ih =>
    simp only [Entry.everyDirectory, Bool.and_eq_true] at sound
    have distinct := (of_decide_eq_true sound.1).2
    rw [visit, visit]
    rcases rearranged.list path with ⟨fault, failed, otherFailed⟩ | ⟨_, _, listed, otherListed⟩
    · rw [failed, otherFailed]
    · have visits := Entry.map_perm_of_names order distinct
        (fun item => visit fs onLink (⟨path, location⟩ :: stages) (path.join item.1) (names ++ [item.1])
          (location ++ [item.1]) item.2)
        (fun item => visit other onLink (⟨path, location⟩ :: stages) (path.join item.1) (names ++ [item.1])
          (location ++ [item.1]) item.2)
        fun name entry changed member inside =>
          ih name entry changed member inside (Entry.everyDirectory_of_mem sound.2 member) _ _ _ _
      rw [listed, otherListed, visitAll_eq, visitAll_eq]
      simp only
      rw [sortNamed_eq_of_perm (by simpa [List.map_map, Function.comp_def] using distinct) visits]

theorem passLink_rearranged : passLink other = passLink fs := by
  funext stages path names
  rw [passLink, passLink, rearranged.isDirectory]

variable (sound : fs.WellFormed)
include sound

theorem followLink_rearranged (root : Path) (depth : Nat) :
    followLink other root depth = followLink fs root depth := by
  induction depth using Nat.strongRecOn with
  | ind depth ih =>
    funext stages path names
    rw [followLink, followLink, status, status]
    rcases rearranged.lookup true path with
      ⟨fault, failed, otherFailed⟩ | ⟨location, entry, changed, found, otherFound, related⟩
    · rw [failed, otherFailed]
    · rw [found, otherFound]
      have below := Entry.everyDirectory_at? sound (lookup_ok found).2
      cases related with
      | file | link => rfl
      | directory locked order each =>
        rcases rearranged.openEntry path with ⟨fault, failed, otherFailed⟩ | ⟨_, _, _, opened, otherOpened, _⟩
        · simp only [failed, otherFailed]
        · simp only [opened, otherOpened]
          cases depth with
          | zero => rfl
          | succ depth =>
            simp only [ih depth depth.lt_succ_self,
              visit_rearranged rearranged _ (.directory locked order each) below]

theorem walk_rearranged (root : Path) (follow : Bool) : other.walk root follow = fs.walk root follow := by
  have count : other.top.directoryCount = fs.top.directoryCount := rearranged.top.directoryCount sound
  rw [FileSystem.walk, FileSystem.walk, linkStatus, linkStatus, status, status, count,
    followLink_rearranged rearranged sound, passLink_rearranged rearranged]
  rcases rearranged.lookup false root with
    ⟨fault, failed, otherFailed⟩ | ⟨location, entry, changed, found, otherFound, related⟩
  · rw [failed, otherFailed]
  · have below := Entry.everyDirectory_at? sound (lookup_ok found).2
    have visits := fun onLink => visit_rearranged rearranged onLink related below [] root [] location
    simp only [found, otherFound, visits]
    cases follow with
    | true => rfl
    | false =>
      cases related with
      | file | directory => rfl
      | link target =>
        rcases rearranged.lookup true root with
          ⟨fault, failed, otherFailed⟩ | ⟨location, entry, changed, found, otherFound, related⟩
        · simp only [failed, otherFailed]
        · have below := Entry.everyDirectory_at? sound (lookup_ok found).2
          simp only [found, otherFound, visit_rearranged rearranged _ related below]

end Walk

section Surveys
open FileSystem
variable {fs other : FileSystem} (rearranged : fs.Rearranged other) (sound : fs.WellFormed)
include rearranged sound

theorem scan_rearranged (root : Path) (follow : Bool) : scan other root follow = scan fs root follow := by
  rw [scan, scan, Walk.walk_rearranged rearranged sound]

theorem analyze_rearranged (registry : Registry) (options : Options) :
    analyze other registry options = analyze fs registry options := by
  have texts : readText other = readText fs := by
    funext limit path
    exact rearranged.readText limit path
  have outlines : outlineFile other = outlineFile fs := by
    funext registry limit file
    unfold outlineFile
    rw [texts]
  simp only [analyze, scan_rearranged rearranged sound, gatherOutlines, gatherDocuments, outlines, texts]

theorem survey_rearranged (registry : Registry) (options : Options) :
    (survey other registry options).summary = (survey fs registry options).summary ∧
      (survey other registry options).notes = (survey fs registry options).notes ∧
      (survey fs registry options).fs.Rearranged (survey other registry options).fs := by
  have analysis := analyze_rearranged rearranged sound registry options
  unfold survey
  rw [analysis]
  rcases rearranged.write sound options.output
      (Bytes.ofText ((analyze fs registry options).report.format Report.defaultIndent)) with
    ⟨fault, failed, otherFailed⟩ | ⟨after, otherAfter, written, otherWritten, related⟩
  · simpa only [failed, otherFailed, true_and] using rearranged
  · simpa only [written, otherWritten, true_and] using related

end Surveys

open FileSystem

/-- However a system orders the entries of its directories, scans find and tell the same, in the
same order, and surveys report, tell and write the same. -/
theorem order_independent (fs other : FileSystem) (sound : fs.WellFormed) (rearranged : fs.Rearranged other) :
    (∀ root follow, scan other root follow = scan fs root follow) ∧
    ∀ registry options,
      (analyze other registry options).report = (analyze fs registry options).report ∧
      (analyze other registry options).warnings = (analyze fs registry options).warnings ∧
      (survey other registry options).summary = (survey fs registry options).summary ∧
      (survey other registry options).notes = (survey fs registry options).notes ∧
      (survey fs registry options).fs.Rearranged (survey other registry options).fs ∧
      (survey other registry options).fs.read options.output =
        (survey fs registry options).fs.read options.output := by
  refine ⟨scan_rearranged rearranged sound, fun registry options => ?_⟩
  have analysis := analyze_rearranged rearranged sound registry options
  obtain ⟨summary, notes, after⟩ := survey_rearranged rearranged sound registry options
  exact ⟨by rw [analysis], by rw [analysis], summary, notes, after, after.read options.output⟩

/-- The files `a` and `b` of the directory `r` are listed in one order, or in the other. -/
def orderedSystem (reversed : Bool) : FileSystem where
  top := .directory [([0x72], .directory (if reversed
    then [([0x62], .file [] false), ([0x61], .link [0x62])]
    else [([0x61], .link [0x62]), ([0x62], .file [] false)]) false)] false
  working := []

theorem order_independent_reversed :
    (orderedSystem false).WellFormed ∧ (orderedSystem false).Rearranged (orderedSystem true) ∧
    (orderedSystem true).list [0x72] ≠ (orderedSystem false).list [0x72] ∧
    scan (orderedSystem true) [0x72] true = scan (orderedSystem false) [0x72] true := by
  have sound : (orderedSystem false).WellFormed := by decide
  have rearranged : (orderedSystem false).Rearranged (orderedSystem true) := by
    refine ⟨rfl, rfl, .directory false (.refl _) ?_⟩
    intro name entry other member inside
    simp only [List.mem_singleton, Prod.mk.injEq] at member inside
    obtain ⟨⟨_, rfl⟩, ⟨_, rfl⟩⟩ := And.intro member inside
    exact .of_perm (by decide) (.swap ..) (by simp [Entry.Rearranged.file, Entry.Rearranged.link]) false
  refine ⟨sound, rearranged, ?_, (order_independent _ _ sound rearranged).1 [0x72] true⟩
  intro same
  cases same

end SourceAtlas
