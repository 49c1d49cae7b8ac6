import SourceAtlas.Proofs.NameScan

/-! Methods as a scanner finds them. A text continues with at most one of the ways for a method to start, and of
the classes of characters behind it no two in a row have a character in common, so that every run ends at one
place. -/
namespace SourceAtlas

namespace Scanner
open Pattern (blank blank_eq_false space wordCharacter)

def typeCharacter (c : Char) : Bool :=
  wordCharacter c || c == '<' || c == '>' || c == '[' || c == ']'

def modifier? (chars : List Char) : Option (List Char) :=
  after? "public" chars <|> after? "private" chars <|> after? "protected" chars <|> after? "static" chars <|>
    one? blank chars

def bodyOpened? (chars : List Char) : Option (List Char) := do
  let chars ← after? "(" (chars.dropWhile space)
  let chars ← after? ")" (chars.dropWhile (· != ')'))
  after? "\x7b" (chars.dropWhile space)

def method? (chars : List Char) : Option (List Char × List Char) := do
  let chars ← modifier? chars
  let (_, chars) ← run? space chars
  let (_, chars) ← run? typeCharacter chars
  let (_, chars) ← run? blank chars
  let (name, chars) ← run? wordCharacter chars
  let rest ← bodyOpened? chars
  return (name, rest)

private theorem le_of_after? {fixed : String} {chars rest : List Char} (found : after? fixed chars = some rest) :
    rest.length ≤ chars.length := by
  rw [length_after? found]
  exact Nat.le_add_left _ _

theorem length_modifier? {chars rest : List Char} (found : modifier? chars = some rest) : rest.length ≤ chars.length := by
  simp only [modifier?, Option.orElse_eq_orElse, Option.orElse_eq_or, Option.or_eq_some_iff] at found
  rcases found with word | ⟨-, word | ⟨-, word | ⟨-, word | ⟨-, single⟩⟩⟩⟩
  · exact le_of_after? word
  · exact le_of_after? word
  · exact le_of_after? word
  · exact le_of_after? word
  · obtain ⟨c, rfl⟩ := eq_cons_of_one? single
    exact Nat.le_succ _

theorem length_bodyOpened? {chars rest : List Char} (found : bodyOpened? chars = some rest) : rest.length ≤ chars.length := by
  obtain ⟨one, opening, found⟩ := Option.bind_eq_some_iff.mp found
  obtain ⟨two, closing, brace⟩ := Option.bind_eq_some_iff.mp found
  have := length_after? opening
  have := length_after? closing
  have := length_after? brace
  have := List.length_dropWhile_le space chars
  have := List.length_dropWhile_le (· != ')') one
  have := List.length_dropWhile_le space two
  omega

theorem length_method? {chars name rest : List Char} (found : method? chars = some (name, rest)) :
    rest.length < chars.length := by
  obtain ⟨one, modifier, found⟩ := Option.bind_eq_some_iff.mp found
  obtain ⟨⟨_, two⟩, spaces, found⟩ := Option.bind_eq_some_iff.mp found
  obtain ⟨⟨_, three⟩, type, found⟩ := Option.bind_eq_some_iff.mp found
  obtain ⟨⟨_, four⟩, blanks, found⟩ := Option.bind_eq_some_iff.mp found
  obtain ⟨⟨_, five⟩, word, found⟩ := Option.bind_eq_some_iff.mp found
  obtain ⟨_, body, ⟨⟩⟩ := Option.bind_eq_some_iff.mp found
  have := length_modifier? modifier
  have := length_run? spaces
  have := length_run? type
  have := length_run? blanks
  have := length_run? word
  have := length_bodyOpened? body
  omega

def methods : Scanner where
  front? := method?
  shortens _ _ _ := length_method?

section Exclusion
variable {chars rest : List Char} {fixed : String}

private theorem one?_of_after? {first : Char} {more : List Char} (found : after? fixed chars = some rest)
    (front : fixed.toList = first :: more) (solid : blank first = false) : one? blank chars = none := by
  rw [after?_eq_some_iff.mp found, front, List.cons_append, one?, if_neg (by simp [solid])]

private theorem bind_orElse {α β : Type} {first second : Option α} (next : α → Option β)
    (exclusive : ∀ value, first = some value → second = none) :
    (first.bind next <|> second.bind next) = (first <|> second).bind next := by
  cases found : first with
  | none => simp
  | some value => simp [exclusive value found]

theorem modifier?_bind {α : Type} (next : List Char → Option α) (chars : List Char) :
    (modifier? chars).bind next =
      ((after? "public" chars).bind next <|> ((after? "private" chars).bind next <|> ((after? "protected" chars).bind next <|>
        ((after? "static" chars).bind next <|> ((one? blank chars).bind next <|> none))))) := by
  -- A start that is found rules out all that are tried behind it.
  have last : ((one? blank chars).bind next <|> none) = (one? blank chars).bind next := by simp
  rw [last, bind_orElse next, bind_orElse next, bind_orElse next, bind_orElse next, modifier?]
  · intro rest found
    simp [after?_of_apart found "private" (by decide),
      after?_of_apart found "protected" (by decide),
      after?_of_apart found "static" (by decide), one?_of_after? found rfl (blank_eq_false (by decide))]
  · intro rest found
    simp [after?_of_apart found "protected" (by decide),
      after?_of_apart found "static" (by decide), one?_of_after? found rfl (blank_eq_false (by decide))]
  · intro rest found
    simp [after?_of_apart found "static" (by decide), one?_of_after? found rfl (blank_eq_false (by decide))]
  · intro rest found
    exact one?_of_after? found rfl (blank_eq_false (by decide))

end Exclusion

end Scanner

namespace Pattern
open Scanner

section Classes

private theorem blank_of_typeCharacter {c : Char} (is : typeCharacter c = true) : blank c = false := by
  simp only [typeCharacter, Bool.or_eq_true, beq_iff_eq] at is
  rcases is with (((word | rfl) | rfl) | rfl) | rfl
  · exact Bool.eq_false_iff.mpr fun blank => by simp [wordCharacter_of_blank blank] at word
  all_goals exact blank_eq_false (by decide)

private theorem typeCharacter_of_space {c : Char} (is : space c = true) : typeCharacter c = false := by
  obtain rfl : c = ' ' := by simpa [space] using is
  rw [typeCharacter, wordCharacter_eq_false (by decide)]
  rfl

private theorem bodyOpened?_word {c : Char} {rest : List Char} (is : wordCharacter c = true) : bodyOpened? (c :: rest) = none := by
  have solid : space c = false := Bool.eq_false_iff.mpr fun here => by
    obtain rfl : c = ' ' := by simpa [space] using here
    rw [wordCharacter_eq_false (by decide)] at is
    cases is
  have bracket : after? "(" (c :: rest) = none := after?_of_accepts rfl (wordCharacter_eq_false (by decide)) is
  rw [bodyOpened?, List.dropWhile_cons_of_neg (by simp [solid]), bracket]
  rfl

end Classes

private theorem reads_bodyOpened (text : Array Char) :
    Reads text (fun place captures => run text (all [anyNumber space, bracketed, anyNumber space, Pattern.text "\x7b"])
      place captures finished) (Stops text fun _ captures => captures) bodyOpened? := by
  have brace := ((reads_end text fun _ captures => captures).fixedText "\x7b").anyNumber fun c rest (is : space c = true) _ => by
    rw [after?_of_accepts rfl (by decide) is]
    rfl
  have opening := brace.bracketed.anyNumber fun c rest (is : space c = true) _ => by
    rw [after?_of_accepts rfl (by decide) is]
    rfl
  have same : bodyOpened? = fun chars => (after? "(" (chars.dropWhile space)).bind fun chars =>
      (after? ")" (chars.dropWhile (· != ')'))).bind fun chars => (after? "\x7b" (chars.dropWhile space)).bind .some := by
    funext chars
    simp [bodyOpened?]
  rw [same]
  exact opening

theorem follows_methods : Follows PatternReader.javaFunction Scanner.methods := by
  refine Follows.of_names fun text => ?_
  -- From the end to the front: each part is read before what is left to do, and settles with it.
  have named := (reads_bodyOpened text).word (fun c rest is _ => bodyOpened?_word is) (Nat.le_refl 1)
    (show 1 ≤ PatternReader.javaFunction.groupCount by decide)
  have blanks := named.someRun fun c rest (is : blank c = true) _ => by
    rw [run?_of_refused (wordCharacter_of_blank is)]
    rfl
  have type := blanks.someRun fun c rest (is : typeCharacter c = true) _ => by
    rw [run?_of_refused (blank_of_typeCharacter is)]
    rfl
  have spaces := type.someRun fun c rest (is : space c = true) _ => by
    rw [run?_of_refused (typeCharacter_of_space is)]
    rfl
  have modifiers := (spaces.fixedText "public").orElse ((spaces.fixedText "private").orElse ((spaces.fixedText "protected").orElse
    ((spaces.fixedText "static").orElse ((spaces.one blank).orElse spaces.never))))
  have same : Scanner.methods.front? = fun chars => (modifier? chars).bind fun chars => (run? space chars).bind fun spaces =>
      (run? typeCharacter spaces.2).bind fun type => (run? blank type.2).bind fun blanks =>
        (run? wordCharacter blanks.2).bind fun word => (bodyOpened? word.2).map fun rest => (word.1, rest) := by
    funext chars
    simp only [Scanner.methods, method?, Option.map_eq_bind]
    rfl
  simp only [modifier?_bind] at same
  rw [same]
  exact modifiers

end Pattern

/-- Methods are reported as a scanner finds them that never looks back. -/
theorem methods_scanned (text : String) :
    (PatternReader.java.outline text).functions = Scanner.methods.scan text.toList :=
  Pattern.follows_methods.extract_eq_scan _

end SourceAtlas
