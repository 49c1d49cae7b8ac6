import SourceAtlas.Proofs.Survey

/-! Files with the same key. They can be many, as a bare name can stand in many directories and many
names are read as the same text, but all of them are opened at one place. So it does not matter
which of them is the last to be entered under the key, nor in what order files are gathered. -/
namespace SourceAtlas
open FileSystem

section Gathering
variable {files others : List SourceFile}
  (distinct : ∀ file ∈ files, ∀ other ∈ files, file.key = other.key → file = other) (perm : others.Perm files)
  (fs : FileSystem) (registry : Registry) (limit : Option Nat)

section Entries
include distinct perm

private theorem ofList_files_of_perm {α : Type} (value : SourceFile → Option α) :
    Keyed.ofList (others.filterMap fun file => (value file).map (file.key, ·)) =
      Keyed.ofList (files.filterMap fun file => (value file).map (file.key, ·)) :=
  Keyed.ofList_eq_of_perm (entries_consistent distinct) (perm.filterMap _)

theorem gatherOutlines_entries_of_perm :
    (gatherOutlines fs registry limit others).entries = (gatherOutlines fs registry limit files).entries := by
  simp only [gatherOutlines, List.filterMap_map, Function.comp_def]
  exact ofList_files_of_perm distinct perm fun file => reportedOutline (outlineFile fs registry limit file)

theorem gatherDocuments_entries_of_perm :
    (gatherDocuments fs limit others).entries = (gatherDocuments fs limit files).entries := by
  have among : ∀ file ∈ files.filter (fun file => Documentation.isDocumentation file.name),
      ∀ other ∈ files.filter (fun file => Documentation.isDocumentation file.name),
      file.key = other.key → file = other := fun file inside other otherInside =>
    distinct file (List.mem_filter.mp inside).1 other (List.mem_filter.mp otherInside).1
  simp only [gatherDocuments, List.filterMap_map, Function.comp_def]
  exact ofList_files_of_perm among (perm.filter _) fun file => (readText fs limit file.location).toOption

end Entries

section Warnings
include perm

private theorem failures_perm {α : Type} (attempt : SourceFile → Except Problem α) :
    (failures attempt others).Perm (failures attempt files) :=
  perm.filterMap _

theorem gatherOutlines_warnings_perm : (warnings (gatherOutlines fs registry limit others).notes).Perm
    (warnings (gatherOutlines fs registry limit files).notes) := by
  rw [warnings_gatherOutlines, warnings_gatherOutlines]
  exact (failures_perm perm _).map toWarning

theorem gatherDocuments_warnings_perm : (warnings (gatherDocuments fs limit others).notes).Perm
    (warnings (gatherDocuments fs limit files).notes) := by
  rw [warnings_gatherDocuments, warnings_gatherDocuments]
  exact (failures_perm perm _).map toWarning

end Warnings

end Gathering

/-- Of the files collected from a scanned tree those with one key have one name and one location, so
whatever order they are gathered in, the entries are the same and so are the warnings but for their
order. The files may be gathered from another system than the scanned one. -/
theorem gathering_order_irrelevant (scanned : FileSystem) (sound : scanned.WellFormed) (root : Path) (follow : Bool)
    (addressing : Addressing) (base : Path) (files : List SourceFile)
    (collected : files = (scan scanned root follow).tree.collect addressing base) :
    (∀ file ∈ files, ∀ other ∈ files, file.key = other.key →
      file.name = other.name ∧ file.location = other.location) ∧
    ∀ others : List SourceFile, others.Perm files → ∀ (fs : FileSystem) (registry : Registry) (limit : Option Nat),
      (gatherOutlines fs registry limit others).entries = (gatherOutlines fs registry limit files).entries ∧
      (warnings (gatherOutlines fs registry limit others).notes).Perm
        (warnings (gatherOutlines fs registry limit files).notes) ∧
      (gatherDocuments fs limit others).entries = (gatherDocuments fs limit files).entries ∧
      (warnings (gatherDocuments fs limit others).notes).Perm
        (warnings (gatherDocuments fs limit files).notes) := by
  subst collected
  have distinct : ∀ file ∈ (scan scanned root follow).tree.collect addressing base,
      ∀ other ∈ (scan scanned root follow).tree.collect addressing base, file.key = other.key → file = other :=
    fun file member other otherMember same =>
      (scan_unslashed sound root follow).collect_injective member otherMember same
  constructor
  · intro file member other otherMember same
    obtain rfl := distinct file member other otherMember same
    exact ⟨rfl, rfl⟩
  · intro others perm fs registry limit
    exact ⟨gatherOutlines_entries_of_perm distinct perm fs registry limit,
      gatherOutlines_warnings_perm perm fs registry limit,
      gatherDocuments_entries_of_perm distinct perm fs limit, gatherDocuments_warnings_perm perm fs limit⟩

/-- A directory with two files whose names are read as one text, and with two directories that have
a file of one name each. -/
def namesakeSystem : FileSystem where
  top := .directory [(Path.ofText "r", .directory
    [(0xFE :: Path.ofText "readme", .file [0x30] false),
     (0xFF :: Path.ofText "readme", .file [0x31] false),
     (Path.ofText "a", .directory [(Path.ofText "readme", .file [0x32] false)] false),
     (Path.ofText "b", .directory [(Path.ofText "readme", .file [0x33] false)] false)] false)] false
  working := []

/-- The files of `namesakeSystem`, opened by their bare names from one of its directories. -/
def namesakes : List SourceFile :=
  (scan namesakeSystem (Path.ofText "r") false).tree.collect .fileName (Path.ofText "r/b")

theorem gathering_order_irrelevant_namesakes : namesakeSystem.WellFormed ∧
    namesakes.map (·.key) = ["\uFFFDreadme", "\uFFFDreadme", "readme", "readme"] ∧
    (gatherDocuments namesakeSystem none namesakes).entries = [("readme", "3")] ∧
    (gatherDocuments namesakeSystem none namesakes.reverse).entries = [("readme", "3")] := by
  have sound : namesakeSystem.WellFormed := by decide +kernel
  have entries : (gatherDocuments namesakeSystem none namesakes).entries = [("readme", "3")] := by decide +kernel
  have reversed := (gathering_order_irrelevant namesakeSystem sound (Path.ofText "r") false .fileName
    (Path.ofText "r/b") namesakes rfl).2 namesakes.reverse namesakes.reverse_perm namesakeSystem .empty none
  refine ⟨sound, by decide +kernel, entries, ?_⟩
  rw [reversed.2.2.1, entries]

end SourceAtlas
