import SourceAtlas.Proofs.Scanner

/-! Names of classes and functions as scanners find them. The patterns for them never have to try again:
blanks are no characters of words, and what follows a run in the patterns cannot start inside of it. -/
namespace SourceAtlas

namespace Pattern

def blankPoints : List Nat :=
  List.range' 9 5 ++ [0x20, 0x85, 0xa0, 0x1680] ++ List.range' 0x2000 11 ++ [0x2028, 0x2029, 0x202f, 0x205f, 0x3000]

theorem mem_blankPoints {c : Char} (is : blank c = true) : c.toNat ∈ blankPoints := by
  simp only [blank, Unicode.Spans.contains, Unicode.blank] at is
  generalize c.toNat = point at is
  simp [Unicode.Spans.search] at is
  simp only [blankPoints, List.mem_append, List.mem_range'_1, List.mem_cons, List.not_mem_nil]
  split_ifs at is <;> omega

theorem blank_eq_false {c : Char} (other : c.toNat ∉ blankPoints) : blank c = false :=
  Bool.eq_false_iff.mpr fun is => other (mem_blankPoints is)

/-- Code points that are not in words: blanks, and signs that stand behind words in the patterns. -/
def wordlessPoints : List Nat :=
  blankPoints ++ ['('.toNat, '='.toNat]

theorem wordCharacter_eq_false {c : Char} (wordless : c.toNat ∈ wordlessPoints) : wordCharacter c = false := by
  have outside : ∀ point ∈ wordlessPoints,
      (Unicode.Spans.search Unicode.wordCharacter.borders point 0 Unicode.wordCharacter.borders.size % 2 == 1) = false := by
    decide +kernel
  exact outside c.toNat wordless

theorem wordCharacter_of_blank {c : Char} (is : blank c = true) : wordCharacter c = false :=
  wordCharacter_eq_false (List.mem_append_left _ (mem_blankPoints is))

end Pattern

namespace Scanner
open Pattern (blank wordCharacter)

def named? (keyword : String) (chars : List Char) : Option (List Char × List Char) := do
  let chars ← after? keyword chars
  let (_, chars) ← run? blank chars
  run? wordCharacter chars

def functionValue? (chars : List Char) : Option (List Char) :=
  after? "function" chars <|> do
    let chars ← after? "(" chars
    let chars ← after? ")" (chars.dropWhile (· != ')'))
    after? "=>" (chars.dropWhile blank)

def functionAssigned? (chars : List Char) : Option (List Char) := do
  let chars ← after? "=" (chars.dropWhile blank)
  functionValue? (chars.dropWhile blank)

def functionConstant? (chars : List Char) : Option (List Char × List Char) := do
  let (name, chars) ← named? "const" chars
  let rest ← functionAssigned? chars
  return (name, rest)

theorem length_named? {keyword : String} {chars name rest : List Char} (found : named? keyword chars = some (name, rest)) :
    rest.length < chars.length := by
  obtain ⟨one, first, found⟩ := Option.bind_eq_some_iff.mp found
  obtain ⟨⟨_, two⟩, second, third⟩ := Option.bind_eq_some_iff.mp found
  have := length_after? first
  have := length_run? second
  have := length_run? third
  omega

theorem length_functionValue? {chars rest : List Char} (found : functionValue? chars = some rest) :
    rest.length ≤ chars.length := by
  rw [functionValue?, Option.orElse_eq_orElse, Option.orElse_eq_or, Option.or_eq_some_iff] at found
  rcases found with word | ⟨-, arrow⟩
  · have := length_after? word
    omega
  · obtain ⟨one, opening, arrow⟩ := Option.bind_eq_some_iff.mp arrow
    obtain ⟨two, closing, arrow⟩ := Option.bind_eq_some_iff.mp arrow
    have := length_after? opening
    have := length_after? closing
    have := length_after? arrow
    have := List.length_dropWhile_le (· != ')') one
    have := List.length_dropWhile_le blank two
    omega

theorem length_functionAssigned? {chars rest : List Char} (found : functionAssigned? chars = some rest) :
    rest.length ≤ chars.length := by
  obtain ⟨value, sign, found⟩ := Option.bind_eq_some_iff.mp found
  have := length_after? sign
  have := length_functionValue? found
  have := List.length_dropWhile_le blank chars
  have := List.length_dropWhile_le blank value
  omega

theorem length_functionConstant? {chars name rest : List Char} (found : functionConstant? chars = some (name, rest)) :
    rest.length < chars.length := by
  obtain ⟨⟨_, value⟩, first, found⟩ := Option.bind_eq_some_iff.mp found
  obtain ⟨_, second, ⟨⟩⟩ := Option.bind_eq_some_iff.mp found
  have := length_named? first
  have := length_functionAssigned? second
  omega

def classes : Scanner where
  front? := named? "class"
  shortens _ _ _ := length_named?

def functions : Scanner where
  front? chars := named? "function" chars <|> functionConstant? chars
  shortens _ _ _ found := by
    rw [Option.orElse_eq_orElse, Option.orElse_eq_or, Option.or_eq_some_iff] at found
    rcases found with keyword | ⟨-, constant⟩
    · exact length_named? keyword
    · exact length_functionConstant? constant

end Scanner

namespace Pattern
open Scanner

section Groups
variable {text : Array Char} {next : Continuation} {tail : List Char → Option (List Char)} {index count : Nat}

/-- At the end one more group has been taken: a word, with certain characters ahead at the end. -/
def Names (text : Array Char) (count : Nat) (found : List Char × List Char) (captures : List Capture) (stop : Nat)
    (groups : List Capture) : Prop :=
  ∃ index start, 1 ≤ index ∧ index ≤ count ∧ groups = ⟨index, start, start + found.1.length⟩ :: captures ∧
    found.1 ≠ [] ∧ found.1 <+: ahead text start ∧ ahead text stop = found.2

theorem Settles.group {accepts : Char → Bool} (settles : Settles text accepts next) (index place : Nat) :
    Settles text accepts fun reached captures => next reached (⟨index, place, reached⟩ :: captures) :=
  fun reached _ _ c => settles reached _ _ c

theorem Reads.word (reads : Reads text next (Stops text fun _ captures => captures) tail)
    (settled : ∀ c rest, wordCharacter c = true → tail rest = none → tail (c :: rest) = none)
    (numbered : 1 ≤ index) (few : index ≤ count) :
    Reads text (fun place captures => run text (.group index (some wordCharacter)) place captures next) (Names text count)
      fun chars => (run? wordCharacter chars).bind fun taken => (tail taken.2).map fun rest => (taken.1, rest) := by
  have ran (place : Nat) (captures : List Capture) :
      run text (.group index (some wordCharacter)) place captures next =
        (run? wordCharacter (ahead text place)).bind fun taken =>
          next (place + taken.1.length) (⟨index, place, place + taken.1.length⟩ :: captures) := by
    rw [run, run_some_eq ((reads.settles settled).group index place)]
  constructor
  · intro place captures none
    rw [ran]
    cases front : run? wordCharacter (ahead text place) with
    | none => rfl
    | some taken =>
      rw [front, Option.bind_some, Option.map_eq_none_iff, ← ahead_run? front] at none
      exact reads.fails _ _ none
  · rintro place captures ⟨name, rest⟩ told
    obtain ⟨⟨word, after⟩, front, told⟩ := Option.bind_eq_some_iff.mp told
    obtain ⟨_, left, same⟩ := Option.map_eq_some_iff.mp told
    obtain ⟨rfl, rfl⟩ := Prod.mk.inj same
    obtain ⟨nonempty, taken, -⟩ := run?_eq_some_iff.mp front
    -- The rest is read with the group already taken, and adds none.
    have there : ahead text (place + word.length) = after := ahead_run? front
    obtain ⟨stop, _, ended, rfl, reached⟩ :=
      reads.ends (place + word.length) (⟨index, place, place + word.length⟩ :: captures) _ (by rwa [there])
    refine ⟨stop, _, ?_, index, place, numbered, few, rfl, nonempty, ?_, reached⟩
    · rw [ran, front]
      exact ended
    · rw [← taken]
      exact List.takeWhile_prefix _

theorem Reads.named (reads : Reads text next (Stops text fun _ captures => captures) tail)
    (settled : ∀ c rest, wordCharacter c = true → tail rest = none → tail (c :: rest) = none)
    (numbered : 1 ≤ index) (few : index ≤ count) (keyword : String) :
    Reads text (fun place captures => run text (Pattern.text keyword) place captures fun place captures =>
        run text (some blank) place captures fun place captures =>
          run text (.group index (some wordCharacter)) place captures next) (Names text count)
      fun chars => (named? keyword chars).bind fun found => (tail found.2).map fun rest => (found.1, rest) := by
  have parts := ((reads.word settled numbered few).someRun fun c rest (is : blank c = true) _ => by
    rw [run?_of_refused (wordCharacter_of_blank is)]
    rfl).fixedText keyword
  have same : (fun chars => (named? keyword chars).bind fun found => (tail found.2).map fun rest => (found.1, rest)) =
      fun chars => (after? keyword chars).bind fun chars => (run? blank chars).bind fun blanks =>
        (run? wordCharacter blanks.2).bind fun found => (tail found.2).map fun rest => (found.1, rest) := by
    funext chars
    simp [named?, Option.bind_assoc]
  rw [same]
  exact parts

theorem reads_named (text : Array Char) {count : Nat} (few : 1 ≤ count) (keyword : String) :
    Reads text (fun place captures => run text (all [Pattern.text keyword, some blank, .group 1 (some wordCharacter)])
      place captures finished) (Names text count) (named? keyword) := by
  have named := (reads_end text fun _ captures => captures).named (fun _ _ _ none => by cases none)
    (Nat.le_refl 1) few keyword
  have same : (fun chars => (named? keyword chars).bind fun found => (Option.some found.2).map fun rest => (found.1, rest)) =
      named? keyword := by
    funext chars
    cases named? keyword chars <;> rfl
  rw [same] at named
  exact named

theorem Follows.of_names {pattern : Pattern} {scanner : Scanner}
    (reads : ∀ text, Reads text (fun place captures => run text pattern place captures finished)
      (Names text pattern.groupCount) scanner.front?) : Follows pattern scanner := by
  have unfolded (text : Array Char) (place : Nat) : pattern.matchAt text place =
      (run text pattern place [] finished).map fun ended => ⟨place, ended.1, ended.2⟩ := rfl
  constructor
  · intro text place none
    rw [unfolded, (reads text).fails place [] none]
    rfl
  · intro text place name rest front
    obtain ⟨stop, _, ran, index, start, numbered, few, rfl, nonempty, ⟨after, split⟩, there⟩ :=
      (reads text).ends place [] (name, rest) front
    refine ⟨⟨place, stop, [⟨index, start, start + name.length⟩]⟩, ?_, there, ?_⟩
    · rw [unfolded, ran]
      rfl
    · exact part?_of_single rfl numbered few nonempty split.symm

end Groups

section Patterns

theorem follows_classes : Follows PatternReader.classPattern Scanner.classes :=
  Follows.of_names fun text => reads_named text (by decide) "class"

private theorem functionValue?_blank {c : Char} {rest : List Char} (is : blank c = true) : functionValue? (c :: rest) = none := by
  have word : after? "function" (c :: rest) = none := after?_of_accepts rfl (blank_eq_false (by decide)) is
  have bracket : after? "(" (c :: rest) = none := after?_of_accepts rfl (blank_eq_false (by decide)) is
  rw [functionValue?, word, bracket]
  rfl

private theorem reads_functionValue (text : Array Char) :
    Reads text (fun place captures => run text
      (firstOf [Pattern.text "function", all [bracketed, anyNumber blank, Pattern.text "=>"]]) place captures finished)
      (Stops text fun _ captures => captures) functionValue? := by
  have word := (reads_end text fun _ captures => captures).fixedText "function"
  have arrow := ((reads_end text fun _ captures => captures).fixedText "=>").anyNumber fun c rest (is : blank c = true) _ => by
    rw [after?_of_accepts rfl (blank_eq_false (by decide)) is]
    rfl
  have tail : functionValue? = fun chars => (after? "function" chars).bind .some <|> ((after? "(" chars).bind (fun chars =>
      (after? ")" (chars.dropWhile (· != ')'))).bind fun chars => (after? "=>" (chars.dropWhile blank)).bind .some) <|> .none) := by
    funext chars
    simp [functionValue?]
  rw [tail]
  exact word.orElse (arrow.bracketed.orElse word.never)

private theorem reads_assignment (text : Array Char) :
    Reads text (fun place captures => run text
      (all [anyNumber blank, Pattern.text "=", anyNumber blank,
        firstOf [Pattern.text "function", all [bracketed, anyNumber blank, Pattern.text "=>"]]]) place captures finished)
      (Stops text fun _ captures => captures) functionAssigned? := by
  have value := (reads_functionValue text).anyNumber fun c rest is _ => functionValue?_blank is
  have sign := (value.fixedText "=").anyNumber fun c rest (is : blank c = true) _ => by
    rw [after?_of_accepts rfl (blank_eq_false (by decide)) is]
    rfl
  exact sign

private theorem functionAssigned?_word {c : Char} {rest : List Char} (is : wordCharacter c = true) :
    functionAssigned? (c :: rest) = none := by
  have solid : blank c = false := Bool.eq_false_iff.mpr fun blank => by simp [wordCharacter_of_blank blank] at is
  have sign : after? "=" (c :: rest) = none := after?_of_accepts rfl (wordCharacter_eq_false (by decide)) is
  rw [functionAssigned?, List.dropWhile_cons_of_neg (by simp [solid]), sign]
  rfl

theorem follows_functions : Follows PatternReader.ecmascriptFunction Scanner.functions := by
  refine Follows.of_names fun text => ?_
  have few : 2 ≤ PatternReader.ecmascriptFunction.groupCount := by decide
  have keyword := reads_named text (Nat.le_of_succ_le few) "function"
  have constant := (reads_assignment text).named (fun _ _ is _ => functionAssigned?_word is) (by decide) few "const"
  have same : Scanner.functions.front? = fun chars => named? "function" chars <|>
      (((named? "const" chars).bind fun found => (functionAssigned? found.2).map fun rest => (found.1, rest)) <|> .none) := by
    funext chars
    have set : functionConstant? chars =
        (named? "const" chars).bind fun found => (functionAssigned? found.2).map fun rest => (found.1, rest) := by
      simp only [functionConstant?, Option.map_eq_bind]
      rfl
    simp [Scanner.functions, set]
  rw [same]
  exact keyword.orElse (constant.orElse keyword.never)

end Patterns

end Pattern

/-- Classes and functions are reported as scanners find them that never look back. -/
theorem definitions_scanned (text : String) :
    (PatternReader.ecmascript.outline text).classes = Scanner.classes.scan text.toList ∧
      (PatternReader.java.outline text).classes = Scanner.classes.scan text.toList ∧
      (PatternReader.ecmascript.outline text).functions = Scanner.functions.scan text.toList :=
  ⟨Pattern.follows_classes.extract_eq_scan _, Pattern.follows_classes.extract_eq_scan _,
    Pattern.follows_functions.extract_eq_scan _⟩

end SourceAtlas
