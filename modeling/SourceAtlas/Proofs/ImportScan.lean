import SourceAtlas.Proofs.Scanner

/-! Imports as a scan by lines finds them. Blanks may end lines, and the repetition behind them may stop at
any semicolon that ends its line; there is only one, so that nothing depends on whether it is tried first or
last. -/
namespace SourceAtlas

namespace Scanner
open Pattern (blank onLine)

def afterStatement? (chars : List Char) : Option (List Char) :=
  if (chars.takeWhile onLine).getLast? = some ';' then some (chars.dropWhile onLine) else none

/-- The import at the front of a text and what follows it. It goes on to the end of the line in which the blanks
behind the keyword end. -/
def importStatement? (chars : List Char) : Option (List Char × List Char) := do
  let chars ← after? "import" chars
  let (blanks, chars) ← run? blank chars
  let rest ← afterStatement? chars
  return ("import".toList ++ blanks ++ chars.takeWhile onLine, rest)

def nextLine? (chars : List Char) : Option (List Char) :=
  after? "\n" (chars.dropWhile onLine)

theorem length_nextLine? {chars line : List Char} (found : nextLine? chars = some line) : line.length < chars.length := by
  have := length_after? found
  have := List.length_dropWhile_le onLine chars
  have : "\n".length = 1 := rfl
  omega

theorem afterStatement?_eq_some_iff {chars rest : List Char} :
    afterStatement? chars = some rest ↔
      (chars.takeWhile onLine).getLast? = some ';' ∧ chars.dropWhile onLine = rest := by
  rw [afterStatement?]
  split_ifs with ended <;> simp [ended]

theorem afterStatement?_of_ended {chars : List Char} (ended : chars.takeWhile onLine = []) : afterStatement? chars = none := by
  rw [afterStatement?, ended, if_neg (by simp)]

theorem afterStatement?_cons {c : Char} (here : onLine c = true) (rest : List Char) :
    afterStatement? (c :: rest) =
      if rest.takeWhile onLine = [] then if c = ';' then some rest else none else afterStatement? rest := by
  rw [afterStatement?, afterStatement?, List.takeWhile_cons_of_pos here, List.dropWhile_cons_of_pos here]
  cases line : rest.takeWhile onLine with
  | nil =>
    have whole : rest.dropWhile onLine = rest := by
      have split : rest.takeWhile onLine ++ rest.dropWhile onLine = rest := List.takeWhile_append_dropWhile
      rwa [line] at split
    simp [whole]
  | cons first more => simp

theorem afterStatement?_blank {c : Char} {rest : List Char} (is : blank c = true) (none : afterStatement? rest = none) :
    afterStatement? (c :: rest) = .none := by
  have differs : c ≠ ';' := by
    rintro rfl
    exact absurd is (by decide +kernel)
  by_cases here : onLine c = true
  · rw [afterStatement?_cons here, none, if_neg differs, ite_self]
  · exact afterStatement?_of_ended (List.takeWhile_cons_of_neg here)

theorem importStatement?_eq_some_iff {chars part rest : List Char} :
    importStatement? chars = some (part, rest) ↔ ∃ imported blanks line,
      after? "import" chars = some imported ∧ run? blank imported = some (blanks, line) ∧
        afterStatement? line = some rest ∧ part = "import".toList ++ blanks ++ line.takeWhile onLine := by
  constructor
  · intro found
    obtain ⟨imported, keyword, found⟩ := Option.bind_eq_some_iff.mp found
    obtain ⟨⟨blanks, line⟩, between, found⟩ := Option.bind_eq_some_iff.mp found
    obtain ⟨_, ended, ⟨⟩⟩ := Option.bind_eq_some_iff.mp found
    exact ⟨imported, blanks, line, keyword, between, ended, rfl⟩
  · rintro ⟨imported, blanks, line, keyword, between, ended, rfl⟩
    simp [importStatement?, keyword, between, ended]

theorem map_importStatement? (chars : List Char) : (importStatement? chars).map Prod.snd =
    (after? "import" chars).bind fun chars => (run? blank chars).bind fun taken => afterStatement? taken.2 := by
  cases statement : importStatement? chars with
  | some hit =>
    obtain ⟨part, rest⟩ := hit
    obtain ⟨imported, blanks, line, keyword, between, ended, -⟩ := importStatement?_eq_some_iff.mp statement
    rw [keyword, Option.bind_some, between, Option.bind_some, ended, Option.map_some]
  | none =>
    refine (Option.eq_none_iff_forall_ne_some.mpr fun rest found => ?_).symm
    obtain ⟨imported, keyword, found⟩ := Option.bind_eq_some_iff.mp found
    obtain ⟨⟨blanks, line⟩, between, ended⟩ := Option.bind_eq_some_iff.mp found
    have some := importStatement?_eq_some_iff.mpr ⟨imported, blanks, line, keyword, between, ended, rfl⟩
    rw [statement] at some
    cases some

theorem importStatement?_split {chars part rest : List Char} (found : importStatement? chars = some (part, rest)) :
    chars = part ++ rest ∧ part ≠ [] ∧ rest.takeWhile onLine = [] := by
  obtain ⟨imported, blanks, line, keyword, between, ended, rfl⟩ := importStatement?_eq_some_iff.mp found
  obtain ⟨-, taken, left⟩ := run?_eq_some_iff.mp between
  obtain ⟨-, rfl⟩ := afterStatement?_eq_some_iff.mp ended
  refine ⟨?_, by simp, List.takeWhile_eq_nil_iff.mpr (List.dropWhile_get_zero_not onLine line)⟩
  rw [after?_eq_some_iff.mp keyword, List.append_assoc, List.append_assoc, List.takeWhile_append_dropWhile, ← taken, ← left,
    List.takeWhile_append_dropWhile]

def imports (chars : List Char) : List String :=
  match _found : importStatement? chars with
  | some (part, rest) =>
    String.ofList part ::
      match _next : nextLine? rest with
      | some line => imports line
      | none => []
  | none =>
    match _next : nextLine? chars with
    | some line => imports line
    | none => []
termination_by chars.length
decreasing_by
  · have whole := congrArg List.length (importStatement?_split ‹_›).1
    have := length_nextLine? ‹_›
    rw [List.length_append] at whole
    omega
  · exact length_nextLine? ‹_›

def laterImports (chars : List Char) : List String :=
  ((nextLine? chars).map imports).getD []

theorem imports_of_some {chars part rest : List Char} (found : importStatement? chars = some (part, rest)) :
    imports chars = String.ofList part :: laterImports rest := by
  rw [imports, laterImports]
  split
  · rename_i other remaining here
    rw [found] at here
    cases here
    cases nextLine? rest <;> rfl
  · rename_i none
    rw [found] at none
    cases none

theorem imports_of_none {chars : List Char} (none : importStatement? chars = none) : imports chars = laterImports chars := by
  rw [imports, laterImports]
  split
  · rename_i here
    rw [none] at here
    cases here
  · cases nextLine? chars <;> rfl

theorem laterImports_nil : laterImports [] = [] :=
  rfl

theorem laterImports_newline (rest : List Char) : laterImports ('\n' :: rest) = imports rest := by
  have next : nextLine? ('\n' :: rest) = some rest := after?_eq_some_iff.mpr rfl
  rw [laterImports, next]
  rfl

theorem laterImports_cons {c : Char} (here : onLine c = true) (rest : List Char) : laterImports (c :: rest) = laterImports rest := by
  rw [laterImports, laterImports, nextLine?, nextLine?, List.dropWhile_cons_of_pos here]

theorem importStatement?_of_ended {chars : List Char} (ended : chars.takeWhile onLine = []) : importStatement? chars = none := by
  refine Option.eq_none_iff_forall_ne_some.mpr fun (part, rest) found => ?_
  obtain ⟨imported, blanks, line, keyword, -⟩ := importStatement?_eq_some_iff.mp found
  rw [after?_eq_some_iff.mp keyword] at ended
  cases ended

end Scanner

namespace Pattern
open Scanner

private def statement (greedy : Bool) : Pattern :=
  all [text "import", some blank, .optional (.many onLine greedy) greedy, text ";"]

private def importPattern (greedy : Bool) : Pattern :=
  all [lineStart, .group 1 (statement greedy), lineEnd]

private def ending (text : Array Char) (start : Nat) : Continuation :=
  fun place captures => run text (all [lineEnd]) place (⟨1, start, place⟩ :: captures) finished

section
variable (text : Array Char) (start : Nat)

private theorem reads_ending :
    Reads text (ending text start) (Stops text fun stop captures => ⟨1, start, stop⟩ :: captures)
      fun chars => if chars.takeWhile onLine = [] then .some chars else none := by
  have same (place : Nat) (captures : List Capture) : ending text start place captures =
      if (ahead text place).takeWhile onLine = [] then .some (place, ⟨1, start, place⟩ :: captures) else none := by
    have ended : atLineEnd false (before? text place) text[place]? = true ↔ (ahead text place).takeWhile onLine = [] := by
      rw [getElem?_eq_head?]
      cases ahead text place with
      | nil => simp [atLineEnd]
      | cons c rest => simp [atLineEnd, onLine, List.takeWhile_cons]
    change (if _ then _ else _) = _
    simp only [ended]
    rfl
  constructor
  · intro place captures none
    rw [same]
    split_ifs at none ⊢
    rfl
  · intro place captures rest ended
    rw [same]
    split_ifs at ended ⊢
    cases ended
    exact ⟨place, ⟨1, start, place⟩ :: captures, rfl, rfl, rfl⟩

private theorem reads_rest (greedy : Bool) :
    Reads text (fun place captures => run text (.optional (.many onLine greedy) greedy) place captures fun place captures =>
      run text (Pattern.text ";") place captures (ending text start))
      (Stops text fun stop captures => ⟨1, start, stop⟩ :: captures) afterStatement? := by
  refine ((reads_ending text start).fixedText ";").singleStop greedy ?_ ?_
  · intro chars ended
    rw [afterStatement?_of_ended ended]
    cases chars with
    | nil => rfl
    | cons c rest =>
      have differs : c ≠ ';' := by
        rintro rfl
        cases ended
      rw [after?_eq_none rfl differs]
      rfl
  · intro c rest here
    rw [afterStatement?_cons here]
    by_cases semicolon : c = ';'
    · subst semicolon
      have front : after? ";" (';' :: rest) = .some rest := after?_eq_some_iff.mpr rfl
      by_cases ended : rest.takeWhile onLine = []
      · refine .inr ⟨afterStatement?_of_ended ended, ?_⟩
        rw [front, Option.bind_some, if_pos ended, if_pos ended, if_pos rfl]
      · refine .inl ⟨?_, if_neg ended⟩
        rw [front, Option.bind_some, if_neg ended]
    · refine .inl ⟨by rw [after?_eq_none rfl semicolon]; rfl, ?_⟩
      split_ifs with ended
      · rw [afterStatement?_of_ended ended]
      · rfl

private theorem reads_statement (greedy : Bool) :
    Reads text (fun place captures => run text (statement greedy) place captures (ending text start))
      (Stops text fun stop captures => ⟨1, start, stop⟩ :: captures) fun chars => (importStatement? chars).map Prod.snd := by
  have parts := ((reads_rest text start greedy).someRun fun _ _ is => afterStatement?_blank is).fixedText "import"
  have tail : (fun chars => (importStatement? chars).map Prod.snd) = fun chars =>
      (after? "import" chars).bind fun chars => (run? blank chars).bind fun taken => afterStatement? taken.2 :=
    funext map_importStatement?
  rw [tail]
  exact parts

end

private def startsLine (text : Array Char) (place : Nat) : Bool :=
  atLineStart false (before? text place) text[place]?

section
variable {text : Array Char} {place : Nat} {greedy : Bool}

private theorem matchAt_import (greedy : Bool) : (importPattern greedy).matchAt text place =
    if startsLine text place then
      (run text (statement greedy) place [] (ending text place)).map fun ended => ⟨place, ended.1, ended.2⟩
    else none := by
  change Option.map _ (if startsLine text place then _ else _) = _
  split_ifs <;> rfl

private theorem matchAt_of_none (none : importStatement? (ahead text place) = none) :
    (importPattern greedy).matchAt text place = .none := by
  rw [matchAt_import, (reads_statement text place greedy).fails place [] (by rw [none]; rfl)]
  split_ifs <;> rfl

private theorem matchAt_of_some {part rest : List Char} (inside : place ≤ text.size) (starts : startsLine text place = true)
    (found : importStatement? (ahead text place) = .some (part, rest)) :
    (importPattern greedy).matchAt text place =
      .some ⟨place, place + part.length, [⟨1, place, place + part.length⟩]⟩ := by
  obtain ⟨stop, _, ended, rfl, there⟩ := (reads_statement text place greedy).ends place [] rest (by rw [found]; rfl)
  have matched : (importPattern greedy).matchAt text place = .some ⟨place, stop, [⟨1, place, stop⟩]⟩ := by
    rw [matchAt_import, if_pos starts, ended]
    rfl
  obtain ⟨(after : place ≤ stop), (before : stop ≤ text.size), -⟩ := (matchAt_eq_some inside matched).2.between
  obtain rfl : stop = place + part.length := by
    have whole := congrArg List.length (importStatement?_split found).1
    have left := congrArg List.length there
    rw [length_ahead] at left
    rw [length_ahead, List.length_append] at whole
    omega
  exact matched

private def importsFrom (text : Array Char) (place : Nat) : List String :=
  if startsLine text place then imports (ahead text place) else laterImports (ahead text place)

private theorem importsFrom_of_none (none : startsLine text place = true → importStatement? (ahead text place) = none) :
    importsFrom text place = laterImports (ahead text place) := by
  rw [importsFrom]
  split_ifs with starts
  · exact imports_of_none (none starts)
  · rfl

private theorem importsFrom_of_some {part rest : List Char} (starts : startsLine text place = true)
    (found : importStatement? (ahead text place) = .some (part, rest)) :
    importsFrom text place = String.ofList part :: importsFrom text (place + part.length) := by
  obtain ⟨split, -, ended⟩ := importStatement?_split found
  have there : ahead text (place + part.length) = rest := ahead_eq_append split
  -- Nothing is found where the line ends, whether or not the search looks for it there.
  have later : importsFrom text (place + part.length) = laterImports rest := by
    rw [importsFrom_of_none fun _ => importStatement?_of_ended (by rwa [there]), there]
  rw [importsFrom, if_pos starts, imports_of_some found, later]

private theorem laterImports_ahead (inside : place < text.size) :
    laterImports (ahead text place) = importsFrom text (place + 1) := by
  have starts : startsLine text (place + 1) = (text[place] == '\n') := by
    simp [startsLine, atLineStart, before?, inside]
  rw [importsFrom, starts, ahead_of_lt inside]
  by_cases newline : text[place] = '\n'
  · rw [newline, laterImports_newline]
    rfl
  · rw [laterImports_cons (by simpa [onLine] using newline), if_neg (by simpa using newline)]

private theorem steps_imports (text : Array Char) (greedy : Bool) : Steps (importPattern greedy) text (importsFrom text) := by
  constructor
  · intro place found inside matched
    have starts : startsLine text place = true := by
      rw [matchAt_import] at matched
      split_ifs at matched with starts
      exact starts
    cases statement : importStatement? (ahead text place) with
    | none =>
      rw [matchAt_of_none statement] at matched
      cases matched
    | some hit =>
      obtain ⟨part, rest⟩ := hit
      obtain ⟨split, nonempty, -⟩ := importStatement?_split statement
      rw [matchAt_of_some inside starts statement, Option.some_inj] at matched
      subst matched
      have extracted : (importPattern greedy).part? text ⟨place, place + part.length, [⟨1, place, place + part.length⟩]⟩ =
          .some (String.ofList part) :=
        part?_of_single rfl (Nat.le_refl 1) (by decide +revert) nonempty split
      refine ⟨Nat.lt_add_of_pos_right (List.length_pos_iff.mpr nonempty), ?_⟩
      rw [importsFrom_of_some starts statement, extracted]
      rfl
  · intro place inside missed
    rw [← laterImports_ahead inside]
    refine importsFrom_of_none fun starts => Option.eq_none_iff_forall_ne_some.mpr fun (part, rest) found => ?_
    rw [matchAt_of_some (Nat.le_of_lt inside) starts found] at missed
    cases missed
  · have none : ahead text text.size = [] := List.drop_eq_nil_of_le (by simp)
    rw [importsFrom_of_none fun _ => by rw [none]; rfl, none, laterImports_nil]

private theorem extract_import (text : String) (greedy : Bool) :
    (importPattern greedy).extract text.toList.toArray = imports text.toList :=
  (steps_imports text.toList.toArray greedy).extract_eq

end

end Pattern

theorem PatternReader.imports_eq (text : String) :
    (ecmascript.outline text).imports = Scanner.imports text.toList ∧
      (java.outline text).imports = Scanner.imports text.toList :=
  ⟨Pattern.extract_import text false, Pattern.extract_import text true⟩

/-- Whether a pattern prefers short or long imports, it reports what a scan by lines finds. -/
theorem imports_scanned (text : String) :
    (PatternReader.ecmascript.outline text).imports = (PatternReader.java.outline text).imports ∧
      (PatternReader.ecmascript.outline text).imports = Scanner.imports text.toList :=
  ⟨(Pattern.extract_import text false).trans (Pattern.extract_import text true).symm, Pattern.extract_import text false⟩

end SourceAtlas
