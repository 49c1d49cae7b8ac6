import SourceAtlas.Proofs.Directory
import SourceAtlas.Proofs.JsonLayout
import SourceAtlas.Proofs.Keyed
import SourceAtlas.Report.Reading
import SourceAtlas.Report.Writing

/-! Reports are read back from the text they are written as, unless their directories are
nested too deeply for the reader. -/
namespace SourceAtlas

namespace Directory

mutual

def depth : Directory → Nat
  | ⟨directories, _⟩ => depthOfAll directories

def depthOfAll : List (String × Directory) → Nat
  | [] => 0
  | (_, directory) :: rest => max (directory.depth + 1) (depthOfAll rest)

end

theorem lt_depth_iff (count : Nat) (directories : List (String × Directory)) (files : List String) :
    count < (Directory.mk directories files).depth ↔ ∃ item ∈ directories, count ≤ item.2.depth := by
  rw [depth]
  induction directories with
  | nil => simp [depthOfAll]
  | cons item rest ih =>
    rcases item with ⟨name, directory⟩
    simp only [depthOfAll, lt_max_iff, ih, List.exists_mem_cons_iff, Nat.lt_succ_iff]

theorem toJsonAll_eq (directories : List (String × Directory)) :
    toJsonAll directories = directories.map fun item => (item.1, item.2.toJson) := by
  induction directories with
  | nil => rfl
  | cons item rest ih => rw [toJsonAll, ih, List.map_cons]

end Directory

namespace Report

/-- Keys are in order throughout, as in every map that is kept by its keys. -/
structure Ordered (report : Report) : Prop where
  tree : report.tree.isOrdered = true
  outlines : Keyed.Ordered report.outlines
  documents : Keyed.Ordered report.documents

open SourceAtlas.Json SourceAtlas.Json.Reader SourceAtlas.Json.Value

section Records
variable {α : Type} {value : Reader α} {bytes rest : Bytes} {item : α} {cause : Cause}

private theorem yields_setField (name : String) (reads : Reads value bytes item) :
    Yields (setField name none value) (0x3A :: 0x20 :: (bytes ++ rest)) (some item) rest := by
  have space : IsBlank [0x20] := by decide
  simp only [setField, Option.isSome_none, Bool.false_eq_true, if_false]
  refine (yields_colon _).bind ?_
  exact (reads [0x20] rest space).bind (yields_pure _ _)

private theorem fails_setField (name : String) (refused : Refuses value bytes cause) :
    Fails (setField name none value) (0x3A :: 0x20 :: (bytes ++ rest)) cause := by
  have space : IsBlank [0x20] := by decide
  simp only [setField, Option.isSome_none, Bool.false_eq_true, if_false]
  refine (yields_colon _).moves.fails ?_
  exact (refused [0x20] rest space).bind

section Fields
variable {β : Type} {name key : String} {next : Option String → Reader β} {use : Option α → Reader β}
  {start : Bytes} (chosen : next (some key) = setField name none value >>= use) (first : Bool)
  (blank : IsBlank start)
include chosen blank

private theorem moves_field (reads : Reads value bytes item) :
    Moves (key? first >>= next) ((if first then [] else [0x2C]) ++ (start ++ (member key bytes ++ rest)))
      (use (some item)) rest := by
  simp only [member, List.append_assoc, List.cons_append, List.nil_append]
  refine (yields_key? first blank key _).moves.trans ?_
  rw [chosen]
  exact (yields_setField name reads).moves

private theorem fails_field (refused : Refuses value bytes cause) :
    Fails (key? first >>= next) ((if first then [] else [0x2C]) ++ (start ++ (member key bytes ++ rest)))
      cause := by
  simp only [member, List.append_assoc, List.cons_append, List.nil_append]
  refine (yields_key? first blank key _).moves.fails ?_
  rw [chosen]
  exact (fails_setField name refused).bind

end Fields

section Brackets
variable (name : String) (levels : Nat) (asList asObject : Nat → Reader α)

private theorem moves_recordStart {blanks : Bytes} (blank : IsBlank blanks) :
    Moves (record name levels asList asObject) (blanks ++ (0x7B :: bytes))
      (deeper levels fun levels => do
        skip
        withPlace (endedBy (asObject levels) endObject)) (0x7B :: bytes) := by
  have opening : ((0x7B : UInt8) == byteOf '[') = false ∧ ((0x7B : UInt8) == byteOf '\x7b') = true := by decide
  have start : Moves (record name levels asList asObject) (blanks ++ (0x7B :: bytes)) _ (0x7B :: bytes) :=
    (yields_valueStart blank (by decide)).moves
  simpa only [opening.1, opening.2, Bool.false_eq_true, if_false, if_true] using start

private theorem moves_record {blanks : Bytes} (blank : IsBlank blanks) (indent : Bytes) (level : Nat)
    (lines : List Bytes) (rest : Bytes) :
    Moves (record name (levels + 1) asList asObject)
      (blanks ++ (enclose 0x7B 0x7D indent level lines ++ rest))
      (withPlace (endedBy (asObject levels) endObject))
      (listed (lineStart indent (level + 1)) true lines ++ (lastStart indent level lines ++ 0x7D :: rest)) := by
  rw [enclose_eq, List.cons_append]
  refine (moves_recordStart name (levels + 1) asList asObject blank).trans ?_
  simp only [deeper, List.append_assoc, List.cons_append, List.nil_append]
  exact (yields_skip _ _).moves

private theorem refuses_record_tooDeep (indent : Bytes) (level : Nat) (lines : List Bytes) :
    Refuses (record name 0 asList asObject) (enclose 0x7B 0x7D indent level lines) .tooDeep := by
  intro blanks rest blank
  rw [enclose_eq, List.cons_append]
  apply (moves_recordStart name 0 asList asObject blank).fails
  exact fails_failAtNext _ _

end Brackets

end Records

section Members
variable {σ α : Type} (members : Nat → Reader σ) (complete : σ → Reader α) {indent rest ending : Bytes}
  {level : Nat} {lines : List Bytes} {fields : σ} {item : α} {cause : Cause}

private theorem yields_counted
    (read : ∀ fuel, Yields (members (fuel + lines.length + 1))
      (listed (lineStart indent level) true lines ++ ending) fields rest)
    (completed : Yields (complete fields) rest item rest) :
    Yields (do
        let fields ← members ((← get).rest.length + 1)
        complete fields)
      (listed (lineStart indent level) true lines ++ ending) item rest := by
  -- Members take a line each, so that there is fuel for all of them and for the end.
  have count := length_le_listed indent level true lines
  have enough : (listed (lineStart indent level) true lines ++ ending).length + 1 =
      (listed (lineStart indent level) true lines ++ ending).length - lines.length + lines.length + 1 := by
    rw [List.length_append]
    omega
  apply Moves.yields (moves_get (fun input => members (input.length + 1) >>= complete) _)
  rw [enough]
  exact (read _).bind completed

private theorem fails_counted {input : Bytes} (failed : ∀ fuel, Fails (members (fuel + 1)) input cause) :
    Fails (do
        let fields ← members ((← get).rest.length + 1)
        complete fields)
      input cause := by
  apply Moves.fails (moves_get (fun input => members (input.length + 1) >>= complete) _)
  exact (failed _).bind

end Members

section Directories
variable {indent ending directoryBytes fileBytes : Bytes} {files : Reader (List String)}
  {directories : Reader (List (String × Directory))} {items : List (String × Directory)} {names : List String}
  {cause : Cause}

private def completeDirectory (fields : DirectoryFields) : Reader Directory := do
  let directories ← requireField "directories" fields.directories
  let files ← requireField "files" fields.files
  return ⟨Keyed.ofList directories, files⟩

private theorem yields_directoryFromMembers (blank : IsBlank indent) (level : Nat) (blankEnding : IsBlank ending)
    (rest : Bytes) (ordered : Keyed.Ordered items) (readsDirectories : Reads directories directoryBytes items)
    (readsFiles : Reads files fileBytes names) :
    Yields (directoryFromMembers directories files)
      (listed (lineStart indent level) true [member "directories" directoryBytes, member "files" fileBytes] ++
        (ending ++ 0x7D :: rest))
      ⟨items, names⟩ (0x7D :: rest) := by
  have blankStart := isBlank_lineStart blank level
  have read (fuel : Nat) : Yields (directoryMembers directories files (fuel + 2 + 1) true {})
      (listed (lineStart indent level) true [member "directories" directoryBytes, member "files" fileBytes] ++
        (ending ++ 0x7D :: rest))
      ⟨some items, some names⟩ (0x7D :: rest) := by
    rw [listed, listed, listed, List.append_nil, List.append_assoc, List.append_assoc, List.append_assoc,
      List.append_assoc, List.append_assoc]
    apply Moves.yields (moves_field rfl true blankStart readsDirectories)
    apply Moves.yields (moves_field rfl false blankStart readsFiles)
    exact (yields_key?_end false blankEnding rest).bind (yields_pure _ _)
  have completed : Yields (completeDirectory ⟨some items, some names⟩) (0x7D :: rest) ⟨items, names⟩
      (0x7D :: rest) := by
    refine (yields_pure items _).bind ((yields_pure names _).bind ?_)
    rw [Keyed.ofList_of_ordered ordered]
    exact yields_pure _ _
  exact yields_counted (directoryMembers directories files · true {}) completeDirectory read completed

private theorem fails_directoryFromMembers (blank : IsBlank indent) (level : Nat) (lines : List Bytes)
    (input : Bytes) (refused : Refuses directories directoryBytes cause) :
    Fails (directoryFromMembers directories files)
      (listed (lineStart indent level) true (member "directories" directoryBytes :: lines) ++ input) cause := by
  have failed (fuel : Nat) : Fails (directoryMembers directories files (fuel + 1) true {})
      (listed (lineStart indent level) true (member "directories" directoryBytes :: lines) ++ input) cause := by
    rw [listed, List.append_assoc, List.append_assoc, List.append_assoc]
    exact fails_field rfl true (isBlank_lineStart blank level) refused
  exact fails_counted (directoryMembers directories files · true {}) completeDirectory failed

private theorem reads_texts (blank : IsBlank indent) (levels level : Nat) (names : List String) :
    Reads (texts (levels + 1)) ((textList names).render indent level) names := by
  have written : (textList names).render indent level = enclose 0x5B 0x5D indent level (names.map quoted) := by
    simp only [textList, render, renderAll_eq, List.map_map, Function.comp_def]
  rw [written]
  exact reads_list blank levels level names

private theorem render_directory (indent : Bytes) (level : Nat) (directories : List (String × Directory))
    (names : List String) :
    (Directory.mk directories names).toJson.render indent level =
      enclose 0x7B 0x7D indent level
        [member "directories" (enclose 0x7B 0x7D indent (level + 1)
          (directories.map fun item => member item.1 (item.2.toJson.render indent (level + 2)))),
         member "files" ((textList names).render indent (level + 1))] := by
  rw [Directory.toJson, render, renderMembers_eq, Directory.toJsonAll_eq]
  simp only [List.map_cons, List.map_nil, render, renderMembers_eq, List.map_map, Function.comp_def]

private theorem reads_directory (blank : IsBlank indent) (node : Directory) (ordered : node.isOrdered = true)
    (levels level : Nat) :
    (2 * node.depth + 2 ≤ levels → Reads (directory levels) (node.toJson.render indent level) node) ∧
    (¬ 2 * node.depth + 2 ≤ levels →
      Refuses (directory levels) (node.toJson.render indent level) .tooDeep) := by
  -- A directory takes two levels, one for itself and one for its subdirectories, so half of the
  -- levels bound the depth.
  induction levels using Nat.twoStepInduction generalizing node level with
  | zero =>
    rcases node with ⟨directories, names⟩
    refine ⟨by omega, fun _ => ?_⟩
    rw [render_directory, directory]
    exact refuses_record_tooDeep _ _ _ indent level _
  | one =>
    rcases node with ⟨directories, names⟩
    refine ⟨by omega, fun _ => ?_⟩
    intro blanks rest blankFirst
    rw [render_directory, directory]
    apply (moves_record _ _ _ _ blankFirst indent level _ rest).fails
    apply Fails.closed
    exact fails_directoryFromMembers blank (level + 1) _ _ (refuses_object_tooDeep _ indent (level + 1) _)
  | more levels ih _ =>
    rcases node with ⟨directories, names⟩
    rw [Directory.isOrdered, Bool.and_eq_true, decide_eq_true_eq, Directory.areOrdered_iff] at ordered
    have children (item) (inside : item ∈ directories) := ih item.2 (ordered.2 item inside) (level + 2)
    have deep := Directory.lt_depth_iff (levels / 2) directories names
    constructor
    · intro fits blanks rest blankFirst
      have every : ∀ item ∈ directories, 2 * item.2.depth + 2 ≤ levels := by
        intro item inside
        by_contra large
        have := deep.mpr ⟨item, inside, by omega⟩
        omega
      have items := reads_object blank directories (fun child => child.toJson.render indent (level + 2))
        (fun _ => directory levels) levels (level + 1) fun item inside => (children item inside).1 (every item inside)
      rw [render_directory, directory]
      apply (moves_record _ _ _ _ blankFirst indent level _ rest).yields
      apply Yields.closed
      exact yields_directoryFromMembers blank (level + 1) (isBlank_lastStart blank level _) rest ordered.1
        items (reads_texts blank levels (level + 1) names)
    · intro large blanks rest blankFirst
      obtain ⟨item, inside, lower⟩ := deep.mp (by omega)
      rw [render_directory, directory]
      apply (moves_record _ _ _ _ blankFirst indent level _ rest).fails
      apply Fails.closed
      apply fails_directoryFromMembers blank (level + 1)
      exact refuses_object blank directories (fun child => child.toJson.render indent (level + 2))
        (fun _ => directory levels) levels (level + 1) (fun child => 2 * child.depth + 2 ≤ levels)
        (fun item inside => (children item inside).1) (fun item inside => (children item inside).2)
        ⟨item, inside, by omega⟩

end Directories

section Outlines
variable {indent ending : Bytes}

private def outlineLines (indent : Bytes) (level : Nat) (content : Outline) : List Bytes :=
  [member "classes" ((textList content.classes).render indent level),
   member "functions" ((textList content.functions).render indent level),
   member "imports" ((textList content.imports).render indent level)]

private def completeOutline (fields : OutlineFields) : Reader Outline := do
  let classes ← requireField "classes" fields.classes
  let functions ← requireField "functions" fields.functions
  let imports ← requireField "imports" fields.imports
  return { classes, functions, imports }

private theorem yields_outlineMembers (blank : IsBlank indent) (level levels : Nat) (blankEnding : IsBlank ending)
    (rest : Bytes) (content : Outline) (fuel : Nat) :
    Yields (outlineMembers (levels + 1) (fuel + 3 + 1) true {})
      (listed (lineStart indent level) true (outlineLines indent level content) ++ (ending ++ 0x7D :: rest))
      ⟨some content.classes, some content.functions, some content.imports⟩ (0x7D :: rest) := by
  have blankStart := isBlank_lineStart blank level
  have reads (names) := reads_texts blank levels level names
  rw [outlineLines, listed, listed, listed, listed, List.append_nil]
  simp only [List.append_assoc]
  apply Moves.yields (moves_field rfl true blankStart (reads content.classes))
  apply Moves.yields (moves_field rfl false blankStart (reads content.functions))
  apply Moves.yields (moves_field rfl false blankStart (reads content.imports))
  exact (yields_key?_end false blankEnding rest).bind (yields_pure _ _)

private theorem reads_outline (blank : IsBlank indent) (levels level : Nat) (content : Outline) :
    Reads (outline (levels + 2)) (content.toJson.render indent level) content := by
  intro blanks rest blankFirst
  have written : content.toJson.render indent level =
      enclose 0x7B 0x7D indent level (outlineLines indent (level + 1) content) := by
    rw [Outline.toJson, render, renderMembers_eq]
    rfl
  have blankEnding := isBlank_lastStart blank level (outlineLines indent (level + 1) content)
  have completed : Yields (completeOutline ⟨some content.classes, some content.functions, some content.imports⟩)
      (0x7D :: rest) content (0x7D :: rest) :=
    (yields_pure _ _).bind ((yields_pure _ _).bind ((yields_pure _ _).bind (yields_pure _ _)))
  rw [written]
  apply (moves_record _ _ _ _ blankFirst indent level _ rest).yields
  apply Yields.closed
  exact yields_counted (outlineMembers (levels + 1) · true {}) completeOutline
    (yields_outlineMembers blank (level + 1) levels blankEnding rest content) completed

end Outlines

section Reports
variable {indent ending : Bytes}

private theorem reads_outlineMap (blank : IsBlank indent) (levels level : Nat)
    {outlines : List (String × Outline)} (ordered : Keyed.Ordered outlines) :
    Reads (outlineMap (levels + 3))
      (render indent level (.object (outlines.map fun (key, outline) => (key, outline.toJson)))) outlines := by
  intro blanks rest blankFirst
  simp only [render, renderMembers_eq, List.map_map, Function.comp_def]
  have read := reads_object blank outlines (fun content => content.toJson.render indent (level + 1)) outline
    (levels + 2) level fun item _ => reads_outline blank levels (level + 1) item.2
  refine (read blanks rest blankFirst).bind ?_
  rw [Keyed.ofList_of_ordered ordered]
  exact yields_pure _ _

private theorem reads_documentMap (blank : IsBlank indent) (levels level : Nat)
    {documents : List (String × String)} (ordered : Keyed.Ordered documents) :
    Reads (documentMap (levels + 1))
      (render indent level (.object (documents.map fun (key, words) => (key, .text words)))) documents := by
  intro blanks rest blankFirst
  simp only [render, renderMembers_eq, List.map_map, Function.comp_def]
  have read := reads_object blank documents quoted (fun _ => string) levels level
    fun item _ => reads_string item.2
  refine (read blanks rest blankFirst).bind ?_
  rw [Keyed.ofList_of_ordered ordered]
  exact yields_pure _ _

private def reportLines (indent : Bytes) (level : Nat) (content : Report) : List Bytes :=
  [member structureTitle (content.tree.toJson.render indent level),
   member outlinesTitle
     (render indent level (.object (content.outlines.map fun (key, outline) => (key, outline.toJson)))),
   member documentsTitle
     (render indent level (.object (content.documents.map fun (key, words) => (key, .text words))))]

private def completeReport (fields : ReportFields) : Reader Report := do
  let tree ← requireField structureTitle fields.tree
  let outlines ← requireField outlinesTitle fields.outlines
  let documents ← requireField documentsTitle fields.documents
  return { tree, outlines, documents }

private theorem yields_reportMembers (blank : IsBlank indent) (level levels : Nat) (blankEnding : IsBlank ending)
    (rest : Bytes) {content : Report} (tree : Reads (directory (levels + 3))
      (content.tree.toJson.render indent level) content.tree)
    (outlines : Keyed.Ordered content.outlines) (documents : Keyed.Ordered content.documents) (fuel : Nat) :
    Yields (reportMembers (levels + 3) (fuel + 3 + 1) true {})
      (listed (lineStart indent level) true (reportLines indent level content) ++ (ending ++ 0x7D :: rest))
      ⟨some content.tree, some content.outlines, some content.documents⟩ (0x7D :: rest) := by
  have blankStart := isBlank_lineStart blank level
  rw [reportLines, listed, listed, listed, listed, List.append_nil]
  simp only [List.append_assoc]
  apply Moves.yields (moves_field rfl true blankStart tree)
  apply Moves.yields (moves_field rfl false blankStart (reads_outlineMap blank levels level outlines))
  apply Moves.yields (moves_field rfl false blankStart (reads_documentMap blank (levels + 2) level documents))
  exact (yields_key?_end false blankEnding rest).bind (yields_pure _ _)

private theorem moves_report {blanks : Bytes} (blankFirst : IsBlank blanks) (indent : Bytes) (levels : Nat)
    (content : Report) (rest : Bytes) :
    Moves (report (levels + 1)) (blanks ++ (content.toJson.render indent 0 ++ rest))
      (withPlace (endedBy (do
        let fields ← reportMembers levels ((← get).rest.length + 1) true {}
        completeReport fields) endObject))
      (listed (lineStart indent 1) true (reportLines indent 1 content) ++
        (lastStart indent 0 (reportLines indent 1 content) ++ 0x7D :: rest)) := by
  have written : content.toJson.render indent 0 = enclose 0x7B 0x7D indent 0 (reportLines indent 1 content) := by
    rw [toJson, render, renderMembers_eq]
    rfl
  rw [written]
  exact moves_record "AnalysisReport" levels _ _ blankFirst indent 0 _ rest

private theorem reads_report (blank : IsBlank indent) {content : Report} (ordered : content.Ordered)
    (shallow : content.tree.depth ≤ 62) :
    Reads (report maxLevels) (content.toJson.render indent 0) content := by
  intro blanks rest blankFirst
  have tree := (reads_directory blank content.tree ordered.tree 126 1).1 (by omega)
  have blankEnding := isBlank_lastStart blank 0 (reportLines indent 1 content)
  have completed : Yields (completeReport ⟨some content.tree, some content.outlines, some content.documents⟩)
      (0x7D :: rest) content (0x7D :: rest) :=
    (yields_pure _ _).bind ((yields_pure _ _).bind ((yields_pure _ _).bind (yields_pure _ _)))
  apply (moves_report blankFirst indent 126 content rest).yields
  apply Yields.closed
  exact yields_counted (reportMembers 126 · true {}) completeReport
    (yields_reportMembers blank 1 123 blankEnding rest tree ordered.outlines ordered.documents) completed

private theorem refuses_report (blank : IsBlank indent) {content : Report} (ordered : content.Ordered)
    (deep : 62 < content.tree.depth) :
    Refuses (report maxLevels) (content.toJson.render indent 0) .tooDeep := by
  intro blanks rest blankFirst
  have tree := (reads_directory blank content.tree ordered.tree 126 1).2 (by omega)
  apply (moves_report blankFirst indent 126 content rest).fails
  apply Fails.closed
  apply fails_counted (reportMembers 126 · true {}) completeReport
  intro fuel
  rw [reportLines, listed]
  simp only [List.append_assoc]
  exact fails_field rfl true (isBlank_lineStart blank 1) tree

private theorem ofText_format (blank : IsBlank indent) (content : Report) :
    Bytes.ofText (content.format indent) = content.toJson.render indent 0 ++ [0x0A] := by
  have lineEnd : Bytes.IsText [0x0A] := ⟨"\n", by decide⟩
  exact ((isText_render blank 0 content.toJson).append lineEnd).ofText_toText

theorem ofJson_format_of_shallow (blank : IsBlank indent) {content : Report} (ordered : content.Ordered)
    (shallow : content.tree.depth ≤ 62) : ofJson (content.format indent) = .ok content := by
  have lineEnd : IsBlank [0x0A] := by decide
  have read := (reads_report blank ordered shallow).yields [0x0A]
  rw [← ofText_format blank content] at read
  exact run_of_yields read lineEnd

/-- A report is read back from its text just if no directory lies more than 62 levels below the
root; from a deeper tree the reader turns back. -/
theorem ofJson_format (indent : Bytes) (blank : IsBlank indent) (content : Report) (ordered : content.Ordered) :
    (ofJson (content.format indent) = .ok content ↔ content.tree.depth ≤ 62) ∧
    (62 < content.tree.depth →
      ∃ line column, ofJson (content.format indent) = .error ⟨.tooDeep, line, column⟩) := by
  have refused (deep : 62 < content.tree.depth) :
      ∃ line column, ofJson (content.format indent) = .error ⟨.tooDeep, line, column⟩ := by
    apply run_of_fails
    rw [ofText_format blank content]
    exact refuses_report blank ordered deep [] [0x0A] isBlank_nil
  refine ⟨⟨?_, ?_⟩, refused⟩
  · intro accepted
    by_contra deep
    obtain ⟨line, column, failed⟩ := refused (by omega)
    rw [accepted] at failed
    cases failed
  · exact ofJson_format_of_shallow blank ordered

def tower : Nat → Directory
  | 0 => ⟨[], ["\"quoted\"\n😀.md"]⟩
  | count + 1 => ⟨[("inner", tower count)], []⟩

theorem ofJson_format_tower :
    ofJson (format [0x20, 0x09] ⟨tower 62, [("a.py", ⟨["A"], [], ["os"]⟩)], [("b.md", "\x01 é")]⟩) =
      .ok ⟨tower 62, [("a.py", ⟨["A"], [], ["os"]⟩)], [("b.md", "\x01 é")]⟩ ∧
    ∃ line column, ofJson (format [] ⟨tower 63, [], []⟩) = .error ⟨.tooDeep, line, column⟩ := by
  have shallow : (tower 62).depth ≤ 62 := by decide +kernel
  have deep : 62 < (tower 63).depth := by decide +kernel
  have first := ofJson_format [0x20, 0x09] (by decide)
    ⟨tower 62, [("a.py", ⟨["A"], [], ["os"]⟩)], [("b.md", "\x01 é")]⟩
    ⟨by decide +kernel, by decide, by decide⟩
  have second := ofJson_format [] (by decide) ⟨tower 63, [], []⟩ ⟨by decide +kernel, by decide, by decide⟩
  exact ⟨first.1.mpr shallow, second.2 deep⟩

end Reports

end Report

end SourceAtlas
