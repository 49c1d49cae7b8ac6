import SourceAtlas.Proofs.LossyReading
import SourceAtlas.Proofs.ScannedNames
import Mathlib.Data.List.TakeWhile

/-! Which reader a file gets. The extension of a collected file is that of its name and also that of the place where it
is opened, and the last registration for it decides. -/
namespace SourceAtlas

namespace Registry

/-- A reader that is to be used for some extensions. -/
structure Registration where
  extensions : List String
  reader : LanguageReader

def after (registry : Registry) (history : List Registration) : Registry :=
  history.foldl (fun registry entry => registry.register entry.extensions entry.reader) registry

def last? (extension : String) (history : List Registration) : Option Registration :=
  history.reverse.find? fun entry => extension ∈ entry.extensions

/-- A registry to start with and the registrations that it was made by. -/
inductive Start : Registry → List Registration → Prop
  | empty : Start .empty []
  | default : Start .default
      [⟨["py"], .python⟩, ⟨["js", "ts", "jsx", "tsx"], .patterns .ecmascript⟩, ⟨["java"], .patterns .java⟩]

section Histories
variable {registry : Registry} {extension : String} {history : List Registration}

theorem after_concat (registry : Registry) (history : List Registration) (entry : Registration) :
    registry.after (history ++ [entry]) = (registry.after history).register entry.extensions entry.reader :=
  List.foldl_concat ..

theorem Start.after_eq {start : Registry} {first : List Registration} (begins : Start start first)
    (history : List Registration) : start.after history = Registry.empty.after (first ++ history) := by
  cases begins with
  | empty => rfl
  | default => rfl

theorem find?_register (extensions : List String) (reader : LanguageReader) (registry : Registry) :
    Keyed.find? extension (registry.register extensions reader).readers =
      if extension ∈ extensions then some reader else Keyed.find? extension registry.readers := by
  rcases registry with ⟨readers⟩
  induction extensions generalizing readers with
  | nil => rfl
  | cons first rest ih =>
    have next := ih (Keyed.insert first reader readers)
    by_cases later : extension ∈ rest
    · rw [if_pos later] at next
      rw [if_pos (List.mem_cons_of_mem _ later)]
      exact next
    · rw [if_neg later] at next
      refine next.trans ?_
      by_cases same : extension = first
      · rw [if_pos (same ▸ List.mem_cons_self), same, Keyed.find?_insert_self]
      · rw [if_neg (by simp [same, later]), Keyed.find?_insert_of_ne _ _ same]

theorem find?_after (extension : String) (history : List Registration) :
    Keyed.find? extension (empty.after history).readers = (last? extension history).map (·.reader) := by
  induction history using List.reverseRecOn with
  | nil => rfl
  | append_singleton history entry ih =>
    rw [after_concat, find?_register, last?, List.reverse_concat, List.find?_cons]
    by_cases registered : extension ∈ entry.extensions
    · simp [registered]
    · simp [registered, ih, last?]

theorem ordered_after (history : List Registration) : Keyed.Ordered (empty.after history).readers := by
  induction history using List.reverseRecOn with
  | nil => exact List.Pairwise.nil
  | append_singleton history entry ih =>
    rw [after_concat, register]
    generalize (empty.after history).readers = readers at ih
    generalize entry.extensions = extensions
    induction extensions generalizing readers with
    | nil => exact ih
    | cons first rest further => exact further _ (ih.insert first entry.reader)

theorem mem_extensions_after : extension ∈ (empty.after history).extensions ↔
    ∃ entry ∈ history, extension ∈ entry.extensions := by
  have known : extension ∈ (empty.after history).extensions ↔
      Keyed.find? extension (empty.after history).readers ≠ none := by
    rw [Ne, Keyed.find?_eq_none_iff]
    simp [Registry.extensions]
  rw [known, find?_after, last?]
  simp

end Histories

end Registry

section Extensions
open SourceAtlas.Path (slash dot)

def IsExtension (name extension : String) : Prop :=
  ∃ stem, stem ≠ [] ∧ name.toList = stem ++ '.' :: extension.toList ∧ '.' ∉ extension.toList

structure IsFileName (name : String) : Prop where
  nonempty : name ≠ ""
  unslashed : Unslashed name
  notHere : name ≠ "."
  notParent : name ≠ ".."

theorem append_separator (path : Path) :
    path ++ separator path = [] ∨ ∃ front, path ++ separator path = front ++ [slash] := by
  unfold separator
  split_ifs with ended
  · rw [List.append_nil]
    rcases Bool.or_eq_true_iff.mp ended with nothing | last
    · exact .inl (List.isEmpty_iff.mp nothing)
    · obtain ⟨front, rfl⟩ := List.getLast?_eq_some_iff.mp (beq_iff_eq.mp last)
      exact .inr ⟨front, rfl⟩
  · exact .inr ⟨path, rfl⟩

theorem ofText_injective : Function.Injective Path.ofText :=
  Function.LeftInverse.injective Bytes.toText_ofText

section Trails
variable {bytes : Bytes}

theorem ne_dot (plain : dot ∉ bytes) : ∀ byte ∈ bytes.reverse, (byte != dot) = true := fun _ member =>
  bne_iff_ne.mpr fun same => plain (same ▸ List.mem_reverse.mp member)

theorem trail_of_not_mem (plain : dot ∉ bytes) : (bytes.reverse.takeWhile (· != dot)).reverse = bytes := by
  rw [List.takeWhile_eq_self_iff.mpr (ne_dot plain), List.reverse_reverse]

theorem trail_append {stem : Bytes} (plain : dot ∉ bytes) :
    ((stem ++ dot :: bytes).reverse.takeWhile (· != dot)).reverse = bytes := by
  rw [List.reverse_append, List.reverse_cons, List.append_assoc, List.takeWhile_append_of_pos (ne_dot plain)]
  simp

theorem exists_last_dot (dotted : dot ∈ bytes) : ∃ stem after, bytes = stem ++ dot :: after ∧ dot ∉ after := by
  obtain ⟨after, stem, split, plain⟩ := List.eq_append_cons_of_mem (List.mem_reverse.mpr dotted)
  refine ⟨stem.reverse, after.reverse, ?_, fun inside => plain (List.mem_reverse.mp inside)⟩
  rw [← List.reverse_reverse bytes, split]
  simp

end Trails

namespace IsFileName
variable {name : String} (proper : IsFileName name)
include proper

theorem segment : Segment (Path.ofText name) :=
  segment_ofText proper.nonempty proper.unslashed

theorem fileName?_join (path : Path) : (path.join (Path.ofText name)).fileName? = some (Path.ofText name) := by
  have whole : (Path.ofText name).splitOn slash = [Path.ofText name] := List.splitOn_eq_singleton proper.segment.noSlash
  have split : ∃ earlier, (path.join (Path.ofText name)).split = earlier ++ [Path.ofText name] := by
    rw [proper.segment.join_eq, Path.split]
    rcases append_separator path with nothing | ⟨front, ended⟩
    · exact ⟨[], by rw [nothing, List.nil_append, whole, List.nil_append]⟩
    · rw [ended, List.append_assoc, List.singleton_append, List.splitOn_append_cons_self, whole]
      exact ⟨_, rfl⟩
  obtain ⟨earlier, split⟩ := split
  have counts : (!(Path.ofText name).isEmpty && Path.ofText name != [dot]) = true := by
    have here : Path.ofText name ≠ [dot] := ofText_injective.ne proper.notHere
    simp [proper.segment.nonempty, here]
  have parent : (Path.ofText name == [dot, dot]) = false := beq_false_of_ne (ofText_injective.ne proper.notParent)
  rw [Path.fileName?, Path.parts, split, List.filter_append, List.filter_singleton, counts]
  simp [parent]

theorem fileName?_ofText : (Path.ofText name).fileName? = some (Path.ofText name) := by
  have alone : Path.join [] (Path.ofText name) = Path.ofText name := by
    rw [proper.segment.join_eq]
    rfl
  rw [← alone, proper.fileName?_join, alone]

theorem extension?_join (path : Path) : (path.join (Path.ofText name)).extension? = (Path.ofText name).extension? := by
  rw [Path.extension?, proper.fileName?_join, Path.extension?, proper.fileName?_ofText]

theorem extension?_ofText_eq_some_iff {after : Bytes} : (Path.ofText name).extension? = some after ↔
    ∃ stem, stem ≠ [] ∧ Path.ofText name = stem ++ dot :: after ∧ dot ∉ after := by
  rw [Path.extension?, proper.fileName?_ofText]
  generalize Path.ofText name = bytes
  dsimp only
  constructor
  · intro found
    by_cases dotted : dot ∈ bytes
    · obtain ⟨stem, behind, rfl, plain⟩ := exists_last_dot dotted
      rw [trail_append plain, Option.ite_none_left_eq_some, Option.some.injEq] at found
      obtain ⟨long, rfl⟩ := found
      refine ⟨stem, ?_, rfl, plain⟩
      rintro rfl
      simp at long
    · rw [trail_of_not_mem dotted, if_pos (Nat.le_succ _)] at found
      cases found
  · rintro ⟨stem, nonempty, rfl, plain⟩
    have size := List.length_pos_iff.mpr nonempty
    rw [trail_append plain, if_neg (by rw [List.length_append, List.length_cons]; omega)]

theorem textExtension_eq_some_iff {extension : String} :
    (Path.ofText name).extension?.bind Bytes.toText? = some extension ↔ IsExtension name extension := by
  rw [Option.bind_eq_some_iff]
  constructor
  · rintro ⟨after, found, read⟩
    obtain ⟨stem, nonempty, whole, plain⟩ := proper.extension?_ofText_eq_some_iff.mp found
    obtain rfl : Bytes.toText after = extension := by
      unfold Bytes.toText? at read
      dsimp only at read
      split_ifs at read
      exact Option.some.inj read
    have ended : Bytes.toText (dot :: after) = "." ++ Bytes.toText after := Bytes.toText_ofText_append "." after
    have parts : name = Bytes.toText stem ++ ("." ++ Bytes.toText after) := by
      rw [← Bytes.toText_ofText name, ← ended, ← Bytes.toText_append_ascii (by decide)]
      exact congrArg Bytes.toText whole
    refine ⟨(Bytes.toText stem).toList, ?_, ?_, fun inside => ?_⟩
    · simpa using Bytes.toText_ne_empty nonempty
    · rw [parts, String.toList_append, String.toList_append]
      rfl
    · exact plain (Bytes.mem_of_mem_toText (by decide) (by decide) inside)
  · rintro ⟨stem, nonempty, whole, plain⟩
    refine ⟨Bytes.ofText extension, proper.extension?_ofText_eq_some_iff.mpr
      ⟨Bytes.ofText (String.ofList stem), ?_, ?_, ?_⟩, ?_⟩
    · exact ofText_injective.ne (show String.ofList stem ≠ "" by simpa using nonempty)
    · rw [Path.ofText, Bytes.ofText, whole, List.flatMap_append, List.flatMap_cons, Bytes.ofText, String.toList_ofList,
        Bytes.ofText]
      rfl
    · exact fun inside => plain (Bytes.mem_of_mem_ofText (by decide) inside)
    · exact Bytes.toText?_ofText extension

end IsFileName

end Extensions

section Files

theorem eq_ofText_of_toText {bytes : Bytes} {text : String} (read : Bytes.toText bytes = text)
    (intact : Bytes.replacement ∉ text.toList) : bytes = Bytes.ofText text := by
  subst read
  exact (Bytes.ofText_toText_of_intact intact).symm

theorem scan_fileNames {fs : FileSystem} (sound : fs.WellFormed) (root : Path) (follow : Bool) :
    (scan fs root follow).tree.EveryName IsFileName := by
  apply Directory.everyName_empty.foldl_addTo
  intro finding member name inside
  have proper := Walk.walk_properlyNamed sound root follow finding member name inside
  exact {
    nonempty := Bytes.toText_ne_empty proper.nonempty
    unslashed := fun slash => proper.noSlash (Bytes.mem_of_mem_toText (by decide) (by decide) slash)
    notHere := fun read => proper.notHere (eq_ofText_of_toText read (by decide))
    notParent := fun read => proper.notParent (eq_ofText_of_toText read (by decide)) }

theorem SourceFile.location_eq_join (addressing : Addressing) (base : Path) (parents : List String) (name : String) :
    ∃ front, (locate addressing base parents name).location = Path.join front (Path.ofText name) := by
  cases addressing with
  | relative => exact ⟨_, List.foldl_concat ..⟩
  | fileName => exact ⟨base, rfl⟩

theorem collected_name {fs : FileSystem} (sound : fs.WellFormed) {root : Path} {follow : Bool} {addressing : Addressing}
    {base : Path} {file : SourceFile} (member : file ∈ (scan fs root follow).tree.collect addressing base) :
    IsFileName file.name ∧ ∃ front, file.location = Path.join front (Path.ofText file.name) := by
  rw [Directory.collect_eq, List.mem_map] at member
  obtain ⟨place, inside, rfl⟩ := member
  have proper := (scan_fileNames sound root follow).inventory inside place.2 (by simp)
  have named : (SourceFile.locate addressing base place.1 place.2).name = place.2 := by cases addressing <;> rfl
  rw [named]
  exact ⟨proper, SourceFile.location_eq_join addressing base place.1 place.2⟩

def LanguageReader.outlineFile (reader : LanguageReader) (fs : FileSystem) (limit : Option Nat) (file : SourceFile) :
    Except Problem (Option (Outline × String)) := do
  if !reader.isSupported then return none
  let text ← readText fs limit file.location
  let outline ← reader.outline text file.location
  return some (outline, reader.language)

theorem outlineFile_eq_outlineFile (fs : FileSystem) (registry : Registry) (limit : Option Nat) (file : SourceFile) :
    outlineFile fs registry limit file = (registry.forExtension file.extension?).outlineFile fs limit file := rfl

end Files

open Registry in
/-- After any registrations, a collected file is outlined by the reader that its place leads to. It is that of the last
registration for the extension of its name, and without one the file is not read. The extensions of a registry are
those that were registered, in ascending order. -/
theorem dispatch_agrees {fs : FileSystem} (sound : fs.WellFormed) (root : Path) (follow : Bool) (addressing : Addressing)
    (base : Path) {start : Registry} {first : List Registration} (begins : Start start first)
    (history : List Registration) :
    let registry := start.after history
    (∀ file ∈ (scan fs root follow).tree.collect addressing base,
      registry.forExtension file.extension? = registry.forPath file.location ∧
      (∀ limit, outlineFile fs registry limit file = (registry.forPath file.location).outlineFile fs limit file) ∧
      (∀ extension, IsExtension file.name extension → registry.forPath file.location =
        ((last? extension (first ++ history)).map (·.reader)).getD .unsupported) ∧
      ((∀ extension, ¬ IsExtension file.name extension) → registry.forPath file.location = .unsupported)) ∧
    registry.extensions.Pairwise (· < ·) ∧
    ∀ extension, extension ∈ registry.extensions ↔ ∃ entry ∈ first ++ history, extension ∈ entry.extensions := by
  intro registry
  have all : registry = Registry.empty.after (first ++ history) := begins.after_eq history
  refine ⟨fun file member => ?_, ?_, fun extension => ?_⟩
  · obtain ⟨proper, front, placed⟩ := collected_name sound member
    have same : registry.forExtension file.extension? = registry.forPath file.location := by
      rw [Registry.forPath, placed, proper.extension?_join]
      rfl
    refine ⟨same, fun limit => ?_, fun extension is => ?_, fun none => ?_⟩
    · rw [outlineFile_eq_outlineFile, same]
    · have known : file.extension? = some extension := proper.textExtension_eq_some_iff.mpr is
      rw [← same, known, all, Registry.forExtension, Option.bind_some, find?_after]
    · have unknown : file.extension? = Option.none := by
        by_contra some
        obtain ⟨extension, known⟩ := Option.ne_none_iff_exists'.mp some
        exact none extension (proper.textExtension_eq_some_iff.mp known)
      rw [← same, unknown]
      rfl
  · rw [all, Registry.extensions, List.pairwise_map]
    exact ordered_after _
  · rw [all]
    exact mem_extensions_after

/-- A directory `d` with the files `.py`, `a.b.py` and `n.`. -/
def dottedSystem : FileSystem where
  top := .directory [([0x64], .directory [([0x2E, 0x70, 0x79], .file [] false),
    ([0x61, 0x2E, 0x62, 0x2E, 0x70, 0x79], .file [] false), ([0x6E, 0x2E], .file [] false)] false)] false
  working := []

open Registry in
/-- Two registrations take a known extension over, and the files are looked for in a place that is no text. -/
theorem dispatch_agrees_dotted :
    let registry := Registry.default.after [⟨["rs", "py"], .patterns .java⟩, ⟨["py"], .patterns .ecmascript⟩]
    dottedSystem.WellFormed ∧
    (scan dottedSystem [0x64] false).tree.collect .relative [0xFF, 0x2F] =
      [⟨".py", ".py", [0xFF, 0x2F, 0x2E, 0x70, 0x79]⟩,
        ⟨"a.b.py", "a.b.py", [0xFF, 0x2F, 0x61, 0x2E, 0x62, 0x2E, 0x70, 0x79]⟩,
        ⟨"n.", "n.", [0xFF, 0x2F, 0x6E, 0x2E]⟩] ∧
    registry.forPath [0xFF, 0x2F, 0x2E, 0x70, 0x79] = .unsupported ∧
    registry.forPath [0xFF, 0x2F, 0x61, 0x2E, 0x62, 0x2E, 0x70, 0x79] = .patterns .ecmascript ∧
    registry.forPath [0xFF, 0x2F, 0x6E, 0x2E] = .unsupported ∧
    registry.extensions.Pairwise (· < ·) ∧ "rs" ∈ registry.extensions := by
  intro registry
  have sound : dottedSystem.WellFormed := by decide
  have files : (scan dottedSystem [0x64] false).tree.collect .relative [0xFF, 0x2F] =
      [⟨".py", ".py", [0xFF, 0x2F, 0x2E, 0x70, 0x79]⟩,
        ⟨"a.b.py", "a.b.py", [0xFF, 0x2F, 0x61, 0x2E, 0x62, 0x2E, 0x70, 0x79]⟩,
        ⟨"n.", "n.", [0xFF, 0x2F, 0x6E, 0x2E]⟩] := by decide +kernel
  obtain ⟨each, ordered, known⟩ := dispatch_agrees sound [0x64] false .relative [0xFF, 0x2F] .default
    [⟨["rs", "py"], .patterns .java⟩, ⟨["py"], .patterns .ecmascript⟩]
  rw [files] at each
  refine ⟨sound, files, (each _ List.mem_cons_self).2.2.2 ?_, (each _ (.tail _ List.mem_cons_self)).2.2.1 "py" ?_,
    (each _ (.tail _ (.tail _ List.mem_cons_self))).2.2.1 "" ?_, ordered, (known "rs").mpr ?_⟩
  · rintro extension ⟨_ | ⟨first, stem⟩, nonempty, whole, -⟩
    · exact nonempty rfl
    · have letters : ".py".toList = ['.', 'p', 'y'] := by decide
      have later : ['p', 'y'] = stem ++ '.' :: extension.toList := (List.cons.inj (letters.symm.trans whole)).2
      have inside : '.' ∈ ['p', 'y'] := later ▸ by simp
      exact absurd inside (by decide)
  · exact ⟨"a.b".toList, by decide, by decide, by decide⟩
  · exact ⟨"n".toList, by decide, by decide, by decide⟩
  · exact ⟨⟨["rs", "py"], .patterns .java⟩, by simp, by decide⟩

end SourceAtlas
