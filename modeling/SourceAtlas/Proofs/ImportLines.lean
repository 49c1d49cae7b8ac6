import SourceAtlas.Proofs.ImportScan

/-! The lines that an import takes. It starts where a line starts and ends where a line ends, but the blanks
behind its keyword are any blanks, and among them can be ends of lines. -/
namespace SourceAtlas

def linesOf (chars : List Char) : List (List Char) :=
  chars.splitOn '\n'

theorem linesOf_append (chars rest : List Char) : linesOf (chars ++ '\n' :: rest) = linesOf chars ++ linesOf rest :=
  List.splitOn_append_cons_self ..

theorem newline_not_mem {line chars : List Char} (member : line ∈ linesOf chars) : '\n' ∉ line := by
  induction chars generalizing line with
  | nil =>
    obtain rfl : line = [] := by simpa [linesOf] using member
    exact List.not_mem_nil
  | cons c chars ih =>
    rw [linesOf, List.splitOn_cons_eq_if_modifyHead] at member
    cases lines : chars.splitOn '\n' with
    | nil => exact absurd lines (List.splitOn_ne_nil _ _)
    | cons first others =>
      have earlier (other : List Char) (inside : other ∈ first :: others) : '\n' ∉ other := ih (by rwa [linesOf, lines])
      rw [lines] at member
      split_ifs at member with newline
      · rcases List.mem_cons.mp member with rfl | inside
        · exact List.not_mem_nil
        · exact earlier line inside
      · rcases List.mem_cons.mp member with rfl | inside
        · intro inside
          rcases List.mem_cons.mp inside with rfl | further
          · exact newline (beq_self_eq_true '\n')
          · exact earlier first List.mem_cons_self further
        · exact earlier line (List.mem_cons_of_mem _ inside)

/-- Lines that stand among those of a text are one of them exactly if there is no end of a line between them. -/
theorem mem_linesOf_iff {part chars : List Char} (among : linesOf part <:+: linesOf chars) :
    part ∈ linesOf chars ↔ '\n' ∉ part := by
  refine ⟨newline_not_mem, fun single => ?_⟩
  have whole : linesOf part = [part] := List.splitOn_eq_singleton single
  rw [whole] at among
  exact among.subset List.mem_cons_self

namespace Scanner
open Pattern (blank onLine)

/-- The keyword, blanks, and the rest of a line, up to a semicolon at its end. -/
structure IsStatement (part blanks rest : List Char) : Prop where
  split : part = "import".toList ++ blanks ++ rest
  spaced : blanks ≠ [] ∧ ∀ c ∈ blanks, blank c = true
  solid : ∀ c ∈ rest.head?, blank c = false
  onOneLine : '\n' ∉ rest
  ended : rest.getLast? = some ';'

theorem IsStatement.newline_mem_iff {part blanks rest : List Char} (statement : IsStatement part blanks rest) :
    '\n' ∈ part ↔ '\n' ∈ blanks := by
  have keyword : '\n' ∉ "import".toList := by decide
  rw [statement.split, List.mem_append, List.mem_append]
  simp only [keyword, statement.onOneLine, false_or, or_false]

theorem isStatement_of_some {chars part rest : List Char} (found : importStatement? chars = some (part, rest)) :
    ∃ blanks line, IsStatement part blanks line := by
  obtain ⟨imported, blanks, line, -, between, ended, rfl⟩ := importStatement?_eq_some_iff.mp found
  obtain ⟨nonempty, rfl, rfl⟩ := run?_eq_some_iff.mp between
  obtain ⟨last, -⟩ := afterStatement?_eq_some_iff.mp ended
  refine ⟨_, _, rfl, ⟨nonempty, fun c => List.mem_takeWhile_imp⟩, ?_, ?_, last⟩
  · intro c first
    -- The rest of the line starts where the run of blanks has ended.
    have front : (imported.dropWhile blank).head? = some c := by
      cases after : imported.dropWhile blank with
      | nil => simp [after] at first
      | cons d more =>
        rw [after, List.takeWhile_cons] at first
        split_ifs at first <;> simp_all
    have refused := List.head?_dropWhile_not blank imported
    rw [front] at refused
    simpa using refused
  · intro newline
    have here : onLine '\n' = true := List.mem_takeWhile_imp newline
    cases here

section Lines
variable {chars part rest line : List Char} {name : String}

theorem linesOf_nextLine? (front : List Char) (next : nextLine? chars = some line) : linesOf line <:+ linesOf (front ++ chars) := by
  have split : chars.takeWhile onLine ++ chars.dropWhile onLine = chars := List.takeWhile_append_dropWhile
  rw [after?_eq_some_iff.mp next] at split
  rw [← split, ← List.append_assoc]
  exact ⟨_, (linesOf_append _ line).symm⟩

theorem linesOf_importStatement? (found : importStatement? chars = some (part, rest)) : linesOf part <+: linesOf chars := by
  obtain ⟨rfl, -, ended⟩ := importStatement?_split found
  cases rest with
  | nil => simp
  | cons c rest =>
    obtain rfl : c = '\n' := by
      by_contra other
      rw [List.takeWhile_cons_of_pos (by simpa [onLine] using other)] at ended
      cases ended
    rw [linesOf_append]
    exact List.prefix_append _ _

theorem mem_laterImports (member : name ∈ laterImports chars) : ∃ line, nextLine? chars = some line ∧ name ∈ imports line := by
  rw [laterImports] at member
  cases next : nextLine? chars with
  | none =>
    rw [next] at member
    cases member
  | some line =>
    rw [next] at member
    exact ⟨line, rfl, member⟩

theorem exists_of_mem_imports (member : name ∈ imports chars) :
    ∃ start rest, importStatement? start = some (name.toList, rest) ∧ linesOf start <:+ linesOf chars := by
  -- The scan goes on at a later line, of which it is only known here that less of the text is left.
  induction size : chars.length using Nat.strongRecOn generalizing chars with
  | ind size ih =>
    subst size
    cases found : importStatement? chars with
    | none =>
      rw [imports_of_none found] at member
      obtain ⟨line, next, later⟩ := mem_laterImports member
      obtain ⟨start, rest, here, lower⟩ := ih line.length (length_nextLine? next) later rfl
      exact ⟨start, rest, here, lower.trans (linesOf_nextLine? [] next)⟩
    | some hit =>
      obtain ⟨part, rest⟩ := hit
      obtain ⟨rfl, -, -⟩ := importStatement?_split found
      rw [imports_of_some found] at member
      rcases List.mem_cons.mp member with rfl | later
      · exact ⟨part ++ rest, rest, by rw [found, String.toList_ofList], List.suffix_refl _⟩
      · obtain ⟨line, next, later⟩ := mem_laterImports later
        have shorter := length_nextLine? next
        obtain ⟨start, after, here, lower⟩ := ih line.length (by rw [List.length_append]; omega) later rfl
        exact ⟨start, after, here, lower.trans (linesOf_nextLine? part next)⟩

end Lines

end Scanner

/-- Every import is made of whole lines of the text, and the last of them ends with a semicolon. It is one line
exactly if no line ends among the blanks behind its keyword. -/
theorem imports_whole_lines (text part : String)
    (reported : part ∈ (PatternReader.ecmascript.outline text).imports ∨ part ∈ (PatternReader.java.outline text).imports) :
    ∃ blanks rest, Scanner.IsStatement part.toList blanks rest ∧ linesOf part.toList <:+: linesOf text.toList ∧
      (part.toList ∈ linesOf text.toList ↔ '\n' ∉ blanks) := by
  obtain ⟨ecmascript, java⟩ := PatternReader.imports_eq text
  rw [ecmascript, java, or_self] at reported
  obtain ⟨start, after, found, lower⟩ := Scanner.exists_of_mem_imports reported
  obtain ⟨blanks, rest, statement⟩ := Scanner.isStatement_of_some found
  have among : linesOf part.toList <:+: linesOf text.toList :=
    (Scanner.linesOf_importStatement? found).isInfix.trans lower.isInfix
  refine ⟨blanks, rest, statement, among, ?_⟩
  rw [mem_linesOf_iff among, statement.newline_mem_iff]

def brokenImport : String :=
  "import\nx from 'y';"

theorem imports_whole_lines_broken :
    brokenImport ∈ (PatternReader.java.outline ("class A;\n" ++ brokenImport ++ "\n")).imports ∧
      ∃ blanks rest, Scanner.IsStatement brokenImport.toList blanks rest ∧
        linesOf brokenImport.toList <:+: linesOf ("class A;\n" ++ brokenImport ++ "\n").toList ∧
        (brokenImport.toList ∈ linesOf ("class A;\n" ++ brokenImport ++ "\n").toList ↔ '\n' ∉ blanks) := by
  have reported : brokenImport ∈ (PatternReader.java.outline ("class A;\n" ++ brokenImport ++ "\n")).imports := by
    decide +kernel
  exact ⟨reported, imports_whole_lines _ brokenImport (.inr reported)⟩

/-- An import is reported that is no line of the text. -/
theorem imports_cross_lines :
    (PatternReader.ecmascript.outline brokenImport).imports = [brokenImport] ∧
      (PatternReader.java.outline brokenImport).imports = [brokenImport] ∧
      brokenImport.toList ∉ linesOf brokenImport.toList := by
  decide +kernel

end SourceAtlas
