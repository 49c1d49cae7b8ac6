import SourceAtlas.Proofs.Survey

/-! The size limit only takes away: with a larger one, or none, a survey reports all that it reported
before and fails at no other file. -/
namespace SourceAtlas
open FileSystem

/-- Whether one limit lets at least those files pass that another one does. No limit lets all pass. -/
def Looser (limit wider : Option Nat) : Prop :=
  ∀ most ∈ wider, ∃ least ∈ limit, least ≤ most

section Limits
variable {limit wider : Option Nat}

theorem Looser.within {size : Nat} (looser : Looser limit wider) (fits : ∀ least ∈ limit, size ≤ least) :
    ∀ most ∈ wider, size ≤ most := by
  intro most limited
  obtain ⟨least, known, le⟩ := looser most limited
  exact Nat.le_trans (fits least known) le

theorem looser_sizeLimit (options : Options) {smaller larger : Nat}
    (le : larger = 0 ∨ 0 < smaller ∧ smaller ≤ larger) :
    Looser { options with maxFileSize := smaller }.sizeLimit { options with maxFileSize := larger }.sizeLimit := by
  intro most limited
  rcases le with rfl | ⟨positive, le⟩
  · cases limited
  · have above : 0 < larger := by omega
    simp only [Options.sizeLimit, above, if_true, Option.mem_def, Option.some.injEq] at limited
    subst most
    exact ⟨smaller, by simp [Options.sizeLimit, positive], le⟩

end Limits

section Files
variable {fs : FileSystem} {limit wider : Option Nat} (looser : Looser limit wider)
include looser

theorem HasText.widen {path : Path} {text : String} (has : HasText fs limit path text) :
    HasText fs wider path text := by
  obtain ⟨opened, within⟩ := has
  exact .intro opened (looser.within within)

theorem IsOutline.widen {registry : Registry} {file : SourceFile} {outline : Outline}
    (is : IsOutline fs registry limit file outline) : IsOutline fs registry wider file outline := by
  obtain ⟨supported, has, accepted⟩ := is
  exact .intro supported (has.widen looser) accepted

/-- What cannot be read under the wider limit cannot be read under the other one, if maybe for
another reason. -/
theorem readText_narrow {path : Path} {problem : Problem} (failed : readText fs wider path = .error problem) :
    ∃ other, readText fs limit path = .error other := by
  cases read : readText fs limit path with
  | error other => exact ⟨other, rfl⟩
  | ok text =>
    rw [((readText_eq_ok_iff.mp read).widen looser).readText] at failed
    cases failed

theorem outlineFile_narrow (fs : FileSystem) (registry : Registry) (file : SourceFile) (problem : Problem)
    (failed : outlineFile fs registry wider file = .error problem) :
    ∃ other, outlineFile fs registry limit file = .error other := by
  simp only [outlineFile_eq_error_iff] at failed ⊢
  cases failed with
  | unread supported lacks =>
    obtain ⟨other, failed⟩ := readText_narrow looser lacks.readText
    exact ⟨other, .unread supported (readText_eq_error_iff.mp failed)⟩
  | @rejected text _ supported has refused =>
    cases read : readText fs limit file.location with
    | error other => exact ⟨other, .unread supported (readText_eq_error_iff.mp read)⟩
    | ok before =>
      have had := readText_eq_ok_iff.mp read
      -- Both limits let the file pass, so the reader sees the same text.
      have same : text = before := by
        have again := (had.widen looser).readText
        rw [has.readText] at again
        exact Except.ok.inj again
      exact ⟨problem, .rejected supported (same ▸ had) refused⟩

theorem readDocument_narrow (fs : FileSystem) (file : SourceFile) (problem : Problem)
    (failed : readDocument fs wider file = .error problem) : ∃ other, readDocument fs limit file = .error other := by
  simp only [readDocument_eq_error_iff] at failed ⊢
  obtain ⟨documentation, lacks⟩ := failed
  obtain ⟨other, failed⟩ := readText_narrow looser lacks.readText
  exact ⟨other, documentation, readText_eq_error_iff.mp failed⟩

end Files

/-- An attempt that fails in fewer cases fails at some of the files at which the other one does. -/
theorem failures_sublist {α : Type} {attempt fewer : SourceFile → Except Problem α}
    (implied : ∀ file problem, fewer file = .error problem → ∃ other, attempt file = .error other)
    (files : List SourceFile) :
    ((failures fewer files).map Prod.fst).Sublist ((failures attempt files).map Prod.fst) := by
  induction files with
  | nil => exact .slnil
  | cons file files ih =>
    cases kept : fewer file with
    | error problem =>
      obtain ⟨other, failed⟩ := implied file problem kept
      simpa [failures, kept, failed] using ih
    | ok value =>
      cases result : attempt file with
      | error problem => simpa [failures, kept, result] using ih.cons file
      | ok other => simpa [failures, kept, result] using ih

/-- The paths of the warnings: those met on the way to the files, then those of the files that fail. -/
private theorem paths_warnings (fs : FileSystem) (registry : Registry) (options : Options) :
    (analyze fs registry options).warnings.map (·.path) =
      (warnings (scan fs options.root options.followLinks).notes).map (·.path) ++
        ((failures (outlineFile fs registry options.sizeLimit) (surveyedFiles fs options)).map Prod.fst ++
          (failures (readDocument fs options.sizeLimit) (surveyedFiles fs options)).map Prod.fst).map
          fun file => file.location.display := by
  simp [warnings_analyze, toWarning, Warning.ofProblem, Function.comp_def]

/-- With a larger size limit, where zero is the largest, the tree is the same, every outline and every
document is kept, and the warnings are about some of the same paths, in the same order. -/
theorem analyze_limit_monotone (fs : FileSystem) (sound : fs.WellFormed) (registry : Registry) (options : Options)
    (smaller larger : Nat) (le : larger = 0 ∨ 0 < smaller ∧ smaller ≤ larger) :
    let narrow := analyze fs registry { options with maxFileSize := smaller }
    let wide := analyze fs registry { options with maxFileSize := larger }
    wide.report.tree = narrow.report.tree ∧
    (∀ key outline, (key, outline) ∈ narrow.report.outlines → (key, outline) ∈ wide.report.outlines) ∧
    (∀ key text, (key, text) ∈ narrow.report.documents → (key, text) ∈ wide.report.documents) ∧
    (wide.warnings.map (·.path)).Sublist (narrow.warnings.map (·.path)) ∧
    wide.warnings.length ≤ narrow.warnings.length := by
  intro narrow wide
  have looser := looser_sizeLimit options le
  have distinct : ∀ file ∈ surveyedFiles fs options, ∀ other ∈ surveyedFiles fs options,
      file.key = other.key → file = other := fun file member other otherMember same =>
    (scan_unslashed sound options.root options.followLinks).collect_injective member otherMember same
  have outlines : ∀ key outline, (key, outline) ∈ narrow.report.outlines → (key, outline) ∈ wide.report.outlines := by
    intro key outline reported
    obtain ⟨file, member, named, is, nonempty⟩ := (mem_gatherOutlines fs registry _ distinct key outline).mp reported
    exact (mem_gatherOutlines fs registry _ distinct key outline).mpr ⟨file, member, named, is.widen looser, nonempty⟩
  have documents : ∀ key text, (key, text) ∈ narrow.report.documents → (key, text) ∈ wide.report.documents := by
    intro key text reported
    obtain ⟨file, member, named, documentation, has⟩ := (mem_gatherDocuments fs _ distinct key text).mp reported
    exact (mem_gatherDocuments fs _ distinct key text).mpr ⟨file, member, named, documentation, has.widen looser⟩
  have paths : (wide.warnings.map (·.path)).Sublist (narrow.warnings.map (·.path)) := by
    have outlining := failures_sublist (outlineFile_narrow looser fs registry) (surveyedFiles fs options)
    have reading := failures_sublist (readDocument_narrow looser fs) (surveyedFiles fs options)
    rw [paths_warnings, paths_warnings]
    exact (List.Sublist.refl _).append ((outlining.append reading).map _)
  refine ⟨rfl, outlines, documents, paths, ?_⟩
  simpa using paths.length_le

theorem analyze_limit_monotone_documented :
    documentedSystem.WellFormed ∧
    (analyze documentedSystem .default { root := Path.ofText "p", maxFileSize := 4 }).warnings.map (·.kind) =
      ["read", "size", "read"] ∧
    (analyze documentedSystem .default { root := Path.ofText "p", maxFileSize := 0 }).warnings.length ≤ 3 := by
  have sound : documentedSystem.WellFormed := by decide +kernel
  have kinds : (analyze documentedSystem .default { root := Path.ofText "p", maxFileSize := 4 }).warnings.map (·.kind) =
      ["read", "size", "read"] := by decide +kernel
  have fewer := (analyze_limit_monotone documentedSystem sound .default { root := Path.ofText "p" } 4 0
    (.inl rfl)).2.2.2.2
  have three := congrArg List.length kinds
  rw [List.length_map] at three
  exact ⟨sound, kinds, Nat.le_trans fewer (Nat.le_of_eq three)⟩

end SourceAtlas
