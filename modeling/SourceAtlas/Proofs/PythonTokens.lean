import SourceAtlas.Proofs.ParserRuns
import SourceAtlas.Proofs.PythonTables
import SourceAtlas.Python.Reading

/-! The readers of Python's tokens go forward and stay within the text, and what they take for a word is
spelled like one. -/
namespace SourceAtlas.Python
open SourceAtlas.Syntax

section Places
variable {source : Source} {place stop : Nat}

theorem lt_size_of_peek (real : source.peek place ≠ '\x00') : place < source.size := by
  by_contra beyond
  refine real (?_ : source.chars.getD place '\x00' = '\x00')
  rw [Array.getD_eq_getD_getElem?, Array.getElem?_eq_none (Nat.not_lt.mp beyond)]
  rfl

theorem lt_size_of_beq {c : Char} (same : (source.peek place == c) = true) (real : c ≠ '\x00') : place < source.size :=
  lt_size_of_peek (beq_iff_eq.mp same ▸ real)

theorem lt_size_of_not_atEnd (more : ¬ source.atEnd place = true) : place < source.size :=
  Nat.not_le.mp fun beyond => more (decide_eq_true beyond)

theorem skipWhile_le {keep : Char → Bool} (inside : place ≤ source.size) : source.skipWhile keep place ≤ source.size := by
  induction left : source.size - place generalizing place with
  | zero =>
    unfold Source.skipWhile
    rw [dif_neg (by unfold Source.size at *; omega)]
    exact inside
  | succ left ih =>
    unfold Source.skipWhile
    split
    · split
      · exact ih (by unfold Source.size at *; omega) (by omega)
      · exact inside
    · exact inside

theorem skipWhile_kept {keep : Char → Bool} {index : Nat} (low : place ≤ index)
    (high : index < source.skipWhile keep place) :
    keep (source.peek index) = true := by
  induction left : source.size - place generalizing place with
  | zero =>
    unfold Source.skipWhile at high
    rw [dif_neg (by unfold Source.size at left; omega)] at high
    omega
  | succ left ih =>
    unfold Source.skipWhile at high
    split at high
    · rename_i bound
      split at high
      · rename_i kept
        rcases Nat.lt_or_eq_of_le low with later | rfl
        · exact ih later high (by unfold Source.size at *; omega)
        · unfold Source.peek
          rw [Array.getD, dif_pos bound]
          exact kept
      · omega
    · omega

theorem toList_slice (source : Source) (start stop : Nat) :
    (source.slice start stop).toList = (source.chars.toList.drop start).take (stop - start) := by
  rw [Source.slice, String.toList_ofList, Array.toList_extract, List.extract_eq_take_drop]

namespace Lexis

theorem optional_le {kind : Char → Bool} (inside : place ≤ source.size) : optional source kind place ≤ source.size := by
  unfold optional
  split
  · rename_i c known
    have := (Array.getElem?_eq_some_iff.mp known).1
    split
    · exact this
    · exact inside
  · exact inside

theorem literal_eq {text : List Char} (found : literal source text place = some stop) :
    stop = place + text.length ∧ (source.chars.toList.drop place).take text.length = text := by
  induction text generalizing place with
  | nil =>
    obtain rfl := Option.some.inj found
    exact ⟨rfl, rfl⟩
  | cons c text ih =>
    unfold literal at found
    split at found
    · rename_i here
      obtain ⟨rfl, rest⟩ := ih found
      refine ⟨by rw [List.length_cons]; omega, ?_⟩
      rw [← Array.getElem?_toList] at here
      obtain ⟨bound, rfl⟩ := List.getElem?_eq_some_iff.mp here
      rw [List.drop_eq_getElem_cons bound, List.length_cons, List.take_succ_cons, rest]
    · cases found

theorem literal_le {text : List Char} (inside : place ≤ source.size) (found : literal source text place = some stop) :
    place ≤ stop ∧ stop ≤ source.size := by
  induction text generalizing place with
  | nil =>
    obtain rfl := Option.some.inj found
    exact ⟨Nat.le_refl _, inside⟩
  | cons c text ih =>
    unfold literal at found
    split at found
    · rename_i here
      obtain ⟨low, high⟩ := ih (Array.getElem?_eq_some_iff.mp here).1 found
      exact ⟨by omega, high⟩
    · cases found

theorem exactly_le {kind : Char → Bool} {count : Nat} (inside : place ≤ source.size)
    (found : exactly source kind count place = some stop) : place ≤ stop ∧ stop ≤ source.size := by
  induction count generalizing place with
  | zero =>
    obtain rfl := Option.some.inj found
    exact ⟨Nat.le_refl _, inside⟩
  | succ count ih =>
    unfold exactly at found
    split at found
    · rename_i c here
      split at found
      · obtain ⟨low, high⟩ := ih (Array.getElem?_eq_some_iff.mp here).1 found
        exact ⟨by omega, high⟩
      · cases found
    · cases found

theorem tokenStart_le (inside : place ≤ source.size) :
    place ≤ tokenStart source place ∧ tokenStart source place ≤ source.size := by
  unfold tokenStart
  split
  · rename_i marked
    simp only [Bool.and_eq_true, decide_eq_true_eq] at marked
    have := lt_size_of_beq marked.2 (by decide)
    omega
  · exact ⟨Nat.le_refl _, inside⟩

section Numbers

theorem decimalRun_le (inside : place ≤ source.size) :
    place ≤ decimalRun source place ∧ decimalRun source place ≤ source.size := by
  fun_induction decimalRun source place with
  | case1 place bound c digit joined more ih =>
    have := lt_size_of_beq joined (by decide)
    have := ih this
    omega
  | case2 place bound c digit joined last =>
    have := lt_size_of_beq joined (by decide)
    omega
  | case3 place bound c digit joined ih =>
    have := ih bound
    omega
  | case4 place bound c other => exact ⟨Nat.le_refl _, inside⟩
  | case5 place beyond => exact ⟨Nat.le_refl _, inside⟩

theorem prefixedRun_le {digit : Char → Bool} (real : digit '\x00' = false) (inside : place ≤ source.size) :
    place ≤ prefixedRun source digit place ∧ prefixedRun source digit place ≤ source.size := by
  fun_induction prefixedRun source digit place with
  | case1 place bound c here ih =>
    have := ih bound
    omega
  | case2 place bound c other joined ih =>
    simp only [Bool.and_eq_true] at joined
    have next : place + 1 < source.size := by
      apply lt_size_of_peek
      intro none
      rw [none, real] at joined
      cases joined.2
    obtain ⟨low, high⟩ : place + 2 ≤ _ ∧ _ := ih next
    exact ⟨by omega, high⟩
  | case3 place bound c other alone => exact ⟨Nat.le_refl _, inside⟩
  | case4 place beyond => exact ⟨Nat.le_refl _, inside⟩

theorem prefixedInteger_le {letters : List Char} {digit : Char → Bool} (real : digit '\x00' = false)
    (named : '\x00' ∉ letters)
    (found : prefixedInteger source letters digit place = some stop) : place ≤ stop ∧ stop ≤ source.size := by
  unfold prefixedInteger at found
  split at found
  · rename_i lead
    simp only [Bool.and_eq_true, List.contains_iff_mem] at lead
    have second : place + 2 ≤ source.size := lt_size_of_peek fun none => named (none ▸ lead.2)
    obtain ⟨low, high⟩ := prefixedRun_le real second
    dsimp only at found
    split at found
    · cases found
    · obtain rfl := Option.some.inj found
      exact ⟨Nat.le_trans (by omega) (le_optional ..), optional_le high⟩
  · cases found

theorem integer_le (inside : place ≤ source.size) (found : integer source place = some stop) :
    place ≤ stop ∧ stop ≤ source.size := by
  unfold integer at found
  dsimp only at found
  split at found
  · rename_i based
    obtain rfl := Option.some.inj found
    simp only [Option.orElse_eq_orElse, Option.orElse_eq_or, Option.or_eq_some_iff] at based
    rcases based with based | ⟨-, based | ⟨-, based⟩⟩
    · exact prefixedInteger_le (by decide) (by decide) based
    · exact prefixedInteger_le (by decide) (by decide) based
    · exact prefixedInteger_le (by decide) (by decide) based
  · obtain ⟨low, high⟩ := decimalRun_le inside
    split at found
    · cases found
    · obtain rfl := Option.some.inj found
      exact ⟨Nat.le_trans low (le_optional ..), optional_le high⟩

theorem exponent_le (found : exponent source place = some stop) : place ≤ stop ∧ stop ≤ source.size := by
  unfold exponent at found
  dsimp only at found
  split at found
  · rename_i letter
    have bound : place < source.size := by
      simp only [Bool.or_eq_true] at letter
      rcases letter with letter | letter <;> exact lt_size_of_beq letter (by decide)
    have low := le_optional source (fun c => c == '+' || c == '-') (place + 1)
    have inside : optional source (fun c => c == '+' || c == '-') (place + 1) ≤ source.size := optional_le bound
    obtain ⟨more, high⟩ := decimalRun_le inside
    split at found
    · cases found
    · obtain rfl := Option.some.inj found
      exact ⟨by omega, high⟩
  · cases found

theorem float_le (inside : place ≤ source.size) (found : float source place = some stop) :
    place ≤ stop ∧ stop ≤ source.size := by
  have marked {whole : Nat} (low : place ≤ whole) (high : whole ≤ source.size) :
      place ≤ optional source (fun c => isLongMark c || isImaginaryMark c) whole ∧
        optional source (fun c => isLongMark c || isImaginaryMark c) whole ≤ source.size :=
    ⟨Nat.le_trans low (le_optional ..), optional_le high⟩
  obtain ⟨low, high⟩ := decimalRun_le inside
  unfold float at found
  dsimp only at found
  split at found
  · rename_i point
    have bound : decimalRun source place < source.size := lt_size_of_beq point (by decide)
    obtain ⟨more, end_⟩ : decimalRun source place + 1 ≤ _ ∧ _ := decimalRun_le bound
    split at found
    · cases found
    · obtain rfl := Option.some.inj found
      cases power : exponent source (decimalRun source (decimalRun source place + 1)) with
      | none => exact marked (by dsimp only [Option.getD]; omega) end_
      | some stop =>
        obtain ⟨after, last⟩ := exponent_le power
        exact marked (by dsimp only [Option.getD]; omega) last
  · split at found
    · cases found
    · obtain ⟨stop, power, rfl⟩ := Option.map_eq_some_iff.mp found
      obtain ⟨after, last⟩ := exponent_le power
      exact marked (by omega) last

end Numbers

section Strings

theorem escapeSequence_le (bound : place < source.size) (found : escapeSequence source place = some stop) :
    place ≤ stop ∧ stop ≤ source.size := by
  have digits {kind : Char → Bool} {count start : Nat} (low : place ≤ start) (inside : start ≤ source.size)
      (found : exactly source kind count start = some stop) : place ≤ stop ∧ stop ≤ source.size := by
    obtain ⟨more, high⟩ := exactly_le inside found
    exact ⟨by omega, high⟩
  have text {chars : List Char} {start : Nat} (low : place ≤ start) (inside : start ≤ source.size)
      (found : literal source chars start = some stop) : place ≤ stop ∧ stop ≤ source.size := by
    obtain ⟨more, high⟩ := literal_le inside found
    exact ⟨by omega, high⟩
  unfold escapeSequence at found
  dsimp only at found
  split at found
  · rename_i here
    exact digits (by omega) (lt_size_of_beq here (by decide)) found
  split at found
  · rename_i here
    exact digits (by omega) (lt_size_of_beq here (by decide)) found
  split at found
  · rename_i here
    exact digits (by omega) (lt_size_of_beq here (by decide)) found
  split at found
  · exact digits (by omega) bound found
  split at found
  · rename_i here
    exact text (by omega) (lt_size_of_beq here (by decide)) found
  split at found
  · rename_i here
    have next : place + 1 < source.size := by
      apply lt_size_of_peek
      intro none
      rw [none] at here
      exact absurd here (by decide)
    obtain rfl := Option.some.inj found
    exact ⟨by omega, next⟩
  split at found
  · rename_i here
    simp only [Bool.and_eq_true] at here
    have inside : place + 3 ≤ source.size := lt_size_of_beq here.2 (by decide)
    have low := source.le_skipWhile (fun c => c != '\x7d' && c != '\x00') (place + 3)
    split at found
    · cases found
    · exact text (by omega) (skipWhile_le inside) found
  · cases found

theorem lineContinuation_le (bound : place < source.size) (found : lineContinuation source place = some stop) :
    place ≤ stop ∧ stop ≤ source.size := by
  unfold lineContinuation at found
  dsimp only at found
  split at found
  · rename_i here
    obtain rfl := Option.some.inj found
    exact ⟨by omega, lt_size_of_beq here (by decide)⟩
  split at found
  · rename_i here
    obtain ⟨low, high⟩ := literal_le (lt_size_of_beq here (by decide) : place + 2 ≤ source.size) found
    exact ⟨by omega, high⟩
  split at found
  · obtain rfl := Option.some.inj found
    omega
  · cases found

theorem backslashToken_le (bound : place < source.size) : (backslashToken source place).start = place ∧
    place ≤ (backslashToken source place).stop ∧ (backslashToken source place).stop ≤ source.size := by
  unfold backslashToken
  split
  · rename_i stop found
    exact ⟨rfl, escapeSequence_le bound found⟩
  · split
    · refine ⟨rfl, ?_⟩
      dsimp only
      omega
    · exact ⟨rfl, Nat.le_succ _, bound⟩

def Arrives (source : Source) (place : Nat) : Reading → Prop
  | .found lexeme => place ≤ lexeme.start ∧ lexeme.start ≤ lexeme.stop ∧ lexeme.stop ≤ source.size
  | .stuck start reached => place ≤ start ∧ start ≤ reached ∧ reached ≤ source.size

theorem Arrives.of_le {first : Nat} {reading : Reading} (arrives : Arrives source first reading) (low : place ≤ first) :
    Arrives source place reading := by
  cases reading with
  | found lexeme => exact ⟨Nat.le_trans low arrives.1, arrives.2⟩
  | stuck start reached => exact ⟨Nat.le_trans low arrives.1, arrives.2⟩

theorem formatToken_arrives (inside : place ≤ source.size) : Arrives source place (formatToken source place) := by
  have low := source.le_skipWhile (· == '\n') place
  have high : source.skipWhile (· == '\n') place ≤ source.size := skipWhile_le inside
  unfold formatToken
  dsimp only
  split
  · exact ⟨low, Nat.le_refl _, high⟩
  · rename_i more
    have bound := lt_size_of_not_atEnd more
    split
    · exact ⟨low, Nat.le_succ _, bound⟩
    split
    · exact ⟨low, Nat.le_succ _, bound⟩
    split
    · exact ⟨low, Nat.le_refl _, high⟩
    · exact ⟨low, source.le_skipWhile .., skipWhile_le high⟩

end Strings

section Words
variable {mode : Nat} {lexeme : Lexeme}

theorem word_le (found : word source mode place = some lexeme) :
    lexeme.start = place ∧ place ≤ lexeme.stop ∧ lexeme.stop ≤ source.size := by
  unfold word at found
  split at found
  · rename_i starts
    simp only [Bool.and_eq_true, Bool.not_eq_true'] at starts
    have bound : place < source.size := lt_size_of_not_atEnd (Bool.eq_false_iff.mp starts.2)
    have low := source.le_skipWhile isIdentifierContinue (place + 1)
    have high : source.skipWhile isIdentifierContinue (place + 1) ≤ source.size := skipWhile_le bound
    have plain : place ≤ source.skipWhile isIdentifierContinue (place + 1) := by omega
    dsimp only at found
    split at found
    · split at found
      · rename_i starred
        simp only [Bool.and_eq_true] at starred
        obtain rfl := Option.some.inj found
        exact ⟨rfl, by dsimp only; omega, lt_size_of_beq starred.2 (by decide)⟩
      · split at found <;> obtain rfl := Option.some.inj found <;> exact ⟨rfl, plain, high⟩
    · obtain rfl := Option.some.inj found
      exact ⟨rfl, plain, high⟩
  · cases found

theorem typeConversion_le (found : typeConversion source place = some stop) : place ≤ stop ∧ stop ≤ source.size := by
  unfold typeConversion at found
  dsimp only at found
  split at found
  · rename_i mark
    have next : place + 1 < source.size := by
      apply lt_size_of_peek
      intro none
      rw [none] at mark
      simp at mark
    obtain rfl := Option.some.inj found
    exact ⟨by omega, next⟩
  · cases found

theorem operator_eq (found : operator source mode place = some lexeme) :
    ∃ sign ∈ punctuation, lexeme.symbol = sign.2 ∧ lexeme.start = place ∧
      literal source sign.1.toList place = some lexeme.stop := by
  obtain ⟨sign, member, found⟩ := List.exists_of_findSome?_eq_some found
  refine ⟨sign, member, ?_⟩
  split at found
  rename_i text symbol
  split at found
  · obtain ⟨stop, here, rfl⟩ := Option.map_eq_some_iff.mp found
    exact ⟨rfl, rfl, here⟩
  · cases found

theorem ruled_eq {symbol : Nat} {stop : Option Nat} (found : ruled mode symbol place stop = some lexeme) :
    lexeme.symbol = symbol ∧ lexeme.start = place ∧ stop = some lexeme.stop := by
  unfold ruled at found
  split at found
  · obtain ⟨stop, here, rfl⟩ := Option.map_eq_some_iff.mp found
    exact ⟨rfl, rfl, here⟩
  · cases found

theorem longer_eq {first second : Option Lexeme} (found : longer first second = some lexeme) :
    first = some lexeme ∨ second = some lexeme := by
  unfold longer at found
  split at found
  · split at found
    · exact .inr found
    · exact .inl found
  · exact .inl found
  · exact .inr found

theorem foldl_longer {candidates : List (Option Lexeme)} {first : Option Lexeme}
    (found : candidates.foldl longer first = some lexeme) : first = some lexeme ∨ some lexeme ∈ candidates := by
  induction candidates generalizing first with
  | nil => exact .inl found
  | cons candidate candidates ih =>
    rcases ih found with here | later
    · rcases longer_eq here with here | here
      · exact .inl here
      · exact .inr (here ▸ List.mem_cons_self)
    · exact .inr (List.mem_cons_of_mem _ later)

inductive Token (source : Source) (mode place : Nat) (lexeme : Lexeme) : Prop
  | operator {sign : String × Nat} (listed : sign ∈ punctuation) (symbol : lexeme.symbol = sign.2)
      (start : lexeme.start = place)
      (found : literal source sign.1.toList place = some lexeme.stop) : Token source mode place lexeme
  | word (found : word source mode place = some lexeme) : Token source mode place lexeme
  | ruled (symbol : lexeme.symbol ∈ [Symbol.integer, Symbol.float, Symbol.typeConversion, Symbol.comment,
        Symbol.lineContinuation])
      (start : lexeme.start = place) (ahead : place < source.size → place ≤ lexeme.stop ∧ lexeme.stop ≤ source.size) :
      Token source mode place lexeme

theorem token_of_tokenAt (found : tokenAt source mode place = some lexeme) : Token source mode place lexeme := by
  unfold tokenAt at found
  rcases foldl_longer found with sign | listed
  · obtain ⟨sign, listed, symbol, start, found⟩ := operator_eq sign
    exact .operator listed symbol start found
  simp only [List.mem_cons, List.not_mem_nil, or_false] at listed
  rcases listed with found | found | found | found | found | found
  · exact .word found.symm
  · obtain ⟨symbol, start, stop⟩ := ruled_eq found.symm
    exact .ruled (by simp [symbol]) start fun bound => integer_le (Nat.le_of_lt bound) stop
  · obtain ⟨symbol, start, stop⟩ := ruled_eq found.symm
    exact .ruled (by simp [symbol]) start fun bound => float_le (Nat.le_of_lt bound) stop
  · obtain ⟨symbol, start, stop⟩ := ruled_eq found.symm
    exact .ruled (by simp [symbol]) start fun _ => typeConversion_le stop
  · obtain ⟨symbol, start, stop⟩ := ruled_eq found.symm
    refine .ruled (by simp [symbol]) start fun bound => ?_
    split at stop
    · rw [← Option.some.inj stop]
      exact ⟨source.le_skipWhile .., skipWhile_le (Nat.le_of_lt bound)⟩
    · cases stop
  · obtain ⟨symbol, start, stop⟩ := ruled_eq found.symm
    refine .ruled (by simp [symbol]) start fun bound => ?_
    split at stop
    · exact lineContinuation_le bound stop
    · cases stop

theorem Token.ahead (token : Token source mode place lexeme) (bound : place < source.size) :
    lexeme.start = place ∧ place ≤ lexeme.stop ∧ lexeme.stop ≤ source.size := by
  cases token with
  | operator listed symbol start found => exact ⟨start, literal_le (Nat.le_of_lt bound) found⟩
  | word found => exact word_le found
  | ruled symbol start ahead => exact ⟨start, ahead bound⟩

theorem reachedWithout_le (bound : place < source.size) :
    place ≤ reachedWithout source place ∧ reachedWithout source place ≤ source.size := by
  unfold reachedWithout
  dsimp only
  split
  · exact ⟨Nat.le_trans (Nat.le_succ _) (le_optional ..), optional_le bound⟩
  split
  · exact ⟨Nat.le_succ _, bound⟩
  · exact ⟨Nat.le_refl _, Nat.le_of_lt bound⟩

theorem read_arrives (inside : place ≤ source.size) : Arrives source place (read mode source place) := by
  obtain ⟨low, high⟩ := tokenStart_le inside
  unfold read
  dsimp only
  split
  · exact (formatToken_arrives high).of_le low
  split
  · rename_i backslash
    simp only [Bool.and_eq_true] at backslash
    obtain ⟨start, ahead, last⟩ := backslashToken_le (lt_size_of_beq backslash.2 (by decide))
    exact ⟨by omega, by omega, last⟩
  have more := source.le_skipWhile isSeparator (tokenStart source place)
  have last : source.skipWhile isSeparator (tokenStart source place) ≤ source.size := skipWhile_le high
  split
  · split
    · exact ⟨Nat.le_trans low more, Nat.le_refl _, last⟩
    · exact ⟨Nat.le_trans low more, Nat.le_refl _, last⟩
  · rename_i unfinished
    have bound := lt_size_of_not_atEnd unfinished
    split
    · rename_i lexeme found
      obtain ⟨start, ahead, stop⟩ := (token_of_tokenAt found).ahead bound
      exact ⟨by omega, by omega, stop⟩
    · exact ⟨Nat.le_trans low more, reachedWithout_le bound⟩

end Words

section Spelling

def IsIdentifier (name : String) : Prop :=
  ∃ first rest, name.toList = first :: rest ∧ isIdentifierStart first = true ∧ ∀ c ∈ rest, isIdentifierContinue c = true

/-- Words that may also be names: `print`, `match`, `async`, `exec`, `type` and `await`. -/
def softKeywords : List Nat := [12, 26, 28, 42, 43, 95]

structure Spelled (source : Source) (lexeme : Lexeme) : Prop where
  word : lexeme.symbol = Symbol.identifier → IsIdentifier (source.slice lexeme.start lexeme.stop)
  period : lexeme.symbol = Symbol.period → source.slice lexeme.start lexeme.stop = "."
  hard : lexeme.symbol ∉ softKeywords

variable {mode : Nat} {lexeme : Lexeme}

theorem spelled_of_symbol (symbol : Nat) (same : lexeme.symbol = symbol)
    (other : symbol ∉ Symbol.identifier :: Symbol.period :: softKeywords) : Spelled source lexeme := by
  simp only [List.mem_cons, not_or, ← same] at other
  exact ⟨fun word => absurd word other.1, fun period => absurd period other.2.1, other.2.2⟩

theorem isIdentifier_slice (bound : place < source.size) (starts : isIdentifierStart (source.peek place) = true) :
    IsIdentifier (source.slice place (source.skipWhile isIdentifierContinue (place + 1))) := by
  have low := source.le_skipWhile isIdentifierContinue (place + 1)
  have peek {index : Nat} (inside : index < source.chars.toList.length) :
      source.chars.toList[index] = source.peek index := by
    rw [Source.peek, Array.getD, dif_pos (by simpa using inside)]
    rfl
  have here : place < source.chars.toList.length := bound
  refine ⟨source.peek place, (source.chars.toList.drop (place + 1)).take
    (source.skipWhile isIdentifierContinue (place + 1) - (place + 1)), ?_, starts, fun c member => ?_⟩
  · rw [toList_slice, List.drop_eq_getElem_cons here, peek here, ← List.take_succ_cons]
    congr 1
    omega
  · obtain ⟨index, inside, rfl⟩ := List.mem_iff_getElem.mp member
    simp only [List.length_take, List.length_drop] at inside
    rw [List.getElem_take, List.getElem_drop, peek]
    exact skipWhile_kept (Nat.le_add_right (place + 1) index) (by omega)

theorem spelled_word (found : word source mode place = some lexeme) : Spelled source lexeme := by
  unfold word at found
  split at found
  · rename_i starts
    simp only [Bool.and_eq_true, Bool.not_eq_true'] at starts
    have bound : place < source.size := lt_size_of_not_atEnd (Bool.eq_false_iff.mp starts.2)
    have plain : Spelled source ⟨Symbol.identifier, place, source.skipWhile isIdentifierContinue (place + 1)⟩ :=
      ⟨fun _ => isIdentifier_slice bound starts.1, nofun, (by decide : Symbol.identifier ∉ softKeywords)⟩
    dsimp only at found
    split at found
    · split at found
      · obtain rfl := Option.some.inj found
        exact spelled_of_symbol Symbol.exceptStar rfl (by decide)
      · split at found
        · obtain rfl := Option.some.inj found
          exact spelled_of_symbol Symbol.except rfl (by decide)
        · obtain rfl := Option.some.inj found
          exact plain
    · obtain rfl := Option.some.inj found
      exact plain
  · cases found

theorem spelled_token (token : Token source mode place lexeme) : Spelled source lexeme := by
  cases token with
  | @operator sign listed symbol start found =>
    have signs : ∀ sign ∈ punctuation, sign.2 ∉ Symbol.identifier :: softKeywords ∧
        (sign.2 = Symbol.period → sign.1 = ".") := by
      decide
    obtain ⟨other, only⟩ := signs sign listed
    rw [← symbol] at other only
    simp only [List.mem_cons, not_or] at other
    refine ⟨fun word => absurd word other.1, fun period => ?_, other.2⟩
    obtain ⟨stop, text⟩ := literal_eq found
    rw [← String.toList_inj, toList_slice, start, stop, Nat.add_sub_cancel_left, text, only period]
  | word found => exact spelled_word found
  | ruled symbol start ahead =>
    have all : ∀ symbol ∈ [Symbol.integer, Symbol.float, Symbol.typeConversion, Symbol.comment, Symbol.lineContinuation],
        symbol ∉ Symbol.identifier :: Symbol.period :: softKeywords := by decide
    exact spelled_of_symbol _ rfl (all _ symbol)

theorem spelled_format (found : formatToken source place = .found lexeme) : Spelled source lexeme := by
  unfold formatToken at found
  dsimp only at found
  split at found
  · cases found
  split at found
  · obtain rfl := Reading.found.inj found
    exact spelled_of_symbol Symbol.openBrace rfl (by decide)
  split at found
  · obtain rfl := Reading.found.inj found
    exact spelled_of_symbol Symbol.closeBrace rfl (by decide)
  split at found
  · cases found
  · obtain rfl := Reading.found.inj found
    exact spelled_of_symbol Symbol.formatText rfl (by decide)

theorem spelled_backslash : Spelled source (backslashToken source place) := by
  unfold backslashToken
  split
  · exact spelled_of_symbol Symbol.escapeSequence rfl (by decide)
  split
  · exact spelled_of_symbol Symbol.lineContinuation rfl (by decide)
  · exact spelled_of_symbol Symbol.loneBackslash rfl (by decide)

theorem spelled_read (found : read mode source place = .found lexeme) : Spelled source lexeme := by
  unfold read at found
  dsimp only at found
  split at found
  · exact spelled_format found
  split at found
  · obtain rfl := Reading.found.inj found
    exact spelled_backslash
  split at found
  · split at found
    · obtain rfl := Reading.found.inj found
      exact spelled_of_symbol Symbol.endOfText rfl (by decide)
    · cases found
  · split at found
    · rename_i token known
      obtain rfl := Reading.found.inj found
      exact spelled_token (token_of_tokenAt known)
    · cases found

end Spelling

end Lexis

namespace Layout

theorem margin_le {comments : Bool} {so result : Margin} (inside : so.stop ≤ source.size)
    (found : margin source comments so = some result) : so.stop ≤ result.stop ∧ result.stop ≤ source.size := by
  fun_induction margin source comments so with
  | case1 so bound c line ih | case2 so bound c line blank ih | case3 so bound c line blank other ih
  | case4 so bound c line blank other tab ih =>
    obtain ⟨low, high⟩ := ih bound found
    exact ⟨Nat.le_of_succ_le low, high⟩
  | case5 so bound c line blank other tab comment ended further stop ih =>
    obtain ⟨low, high⟩ := ih (Nat.min_le_right ..) found
    exact ⟨Nat.le_trans (Nat.le_min.mpr ⟨by omega, Nat.le_of_lt bound⟩) low, high⟩
  | case6 | case9 => cases found
  | case7 so bound c line blank other tab comment joined further next ended =>
    obtain rfl := Option.some.inj found
    exact ⟨Nat.le_of_succ_le further, Lexis.optional_le bound⟩
  | case8 so bound c line blank other tab comment joined further next more ended ih =>
    obtain ⟨low, high⟩ := ih (lt_size_of_beq ended (by decide)) found
    exact ⟨Nat.le_trans (Nat.le_of_succ_le further) (Nat.le_of_succ_le low), high⟩
  | case10 so =>
    obtain rfl := Option.some.inj found
    exact ⟨Nat.le_refl _, inside⟩
  | case11 so beyond =>
    obtain rfl := Option.some.inj found
    exact ⟨Nat.le_refl _, inside⟩

def layoutSymbols : List Nat :=
  [Symbol.newline, Symbol.indent, Symbol.dedent, Symbol.stringStart, Symbol.stringContent, Symbol.escapeInterpolation,
    Symbol.stringEnd]

theorem lineToken_symbol {expected : Expected} {memory after : Memory} {margin : Margin} {symbol : Nat}
    (found : lineToken source expected memory margin = some (symbol, after)) : symbol ∈ layoutSymbols := by
  unfold lineToken at found
  dsimp only at found
  repeat' split at found
  all_goals first
    | cases found; done
    | obtain ⟨rfl, rfl⟩ := Prod.mk.inj (Option.some.inj found); decide

def Ends (source : Source) (place : Nat) : StringReading → Prop
  | .token symbol stop => min place source.size ≤ stop ∧ stop ≤ source.size ∧ symbol ∈ layoutSymbols
  | .nothing => True
  | .ended stop => min place source.size ≤ stop ∧ stop ≤ source.size

theorem Ends.of_lt {later : Nat} {reading : StringReading} (ends : Ends source later reading)
    (bound : place < source.size)
    (less : place < later) : Ends source place reading := by
  cases reading with
  | token symbol stop => exact ⟨Nat.le_trans (by omega) ends.1, ends.2⟩
  | nothing => trivial
  | ended stop => exact ⟨Nat.le_trans (by omega) ends.1, ends.2⟩

theorem tripleQuote_ends {mark : Char} {content : Bool} (real : mark ≠ '\x00') (bound : place < source.size) :
    Ends source place (tripleQuote source mark content place) := by
  unfold tripleQuote
  split
  · rename_i second
    have next := lt_size_of_beq second real
    split
    · rename_i third
      have last := lt_size_of_beq third real
      split
      · exact ⟨Nat.min_le_left .., Nat.le_of_lt bound, by decide⟩
      · exact ⟨by omega, last, by decide⟩
    · exact ⟨by omega, next, by decide⟩
  · exact ⟨by omega, bound, by decide⟩

theorem stringPart_ends {quote : Quote} {content : Bool} : Ends source place (stringPart source quote content place) := by
  have found {content : Bool} {place : Nat} (bound : place < source.size) :
      Ends source place (if content then .token Symbol.stringContent place else .nothing) := by
    split
    · exact ⟨Nat.min_le_left .., Nat.le_of_lt bound, by decide⟩
    · trivial
  fun_induction stringPart source quote content place with
  | case1 content place bound => exact ⟨Nat.min_le_left .., Nat.le_of_lt bound⟩
  | case2 content place bound | case5 content place bound => exact found bound
  | case3 content place bound c real brace backslash raw further ih => exact ih.of_lt bound further
  | case4 content place bound c real brace backslash raw named ih => exact ih.of_lt bound (by omega)
  | case6 content place bound c real brace backslash mark triple =>
    refine tripleQuote_ends (fun none => real ?_) bound
    rw [beq_iff_eq.mp mark, none]
    rfl
  | case7 place bound => exact ⟨Nat.min_le_left .., Nat.le_of_lt bound, by decide⟩
  | case8 content place bound => exact ⟨by omega, bound, by decide⟩
  | case9 => trivial
  | case10 content place bound c real brace backslash mark line ih => exact ih.of_lt bound (Nat.lt_succ_self _)
  | case11 content place beyond => exact ⟨Nat.min_le_right .., Nat.le_refl _⟩

theorem openQuote_le {quote : Quote} (found : openQuote source place = some (quote, stop)) :
    place ≤ stop ∧ stop ≤ source.size := by
  unfold openQuote quoteLetters at found
  dsimp only at found
  have low := source.le_skipWhile (fun c => "fFrRbBuU".toList.contains c) place
  revert found low
  generalize source.skipWhile (fun c => "fFrRbBuU".toList.contains c) place = reached
  intro found low
  split at found
  · rename_i mark
    obtain ⟨-, rfl⟩ := Prod.mk.inj (Option.some.inj found)
    exact ⟨by omega, lt_size_of_beq mark (by decide)⟩
  split at found
  · rename_i mark
    have real : source.peek reached ≠ '\x00' := by
      intro none
      rw [none] at mark
      exact absurd mark (by decide)
    split at found
    · rename_i more
      simp only [Bool.and_eq_true] at more
      obtain ⟨-, rfl⟩ := Prod.mk.inj (Option.some.inj found)
      exact ⟨by omega, lt_size_of_beq more.2 real⟩
    · obtain ⟨-, rfl⟩ := Prod.mk.inj (Option.some.inj found)
      exact ⟨by omega, lt_size_of_peek real⟩
  · cases found

/-- A layout token stands behind a place, within the text. -/
structure Scanned (source : Source) (place : Nat) (lexeme : Lexeme) : Prop where
  symbol : lexeme.symbol ∈ layoutSymbols
  bounds : place ≤ source.size → place ≤ lexeme.start ∧ lexeme.start ≤ lexeme.stop ∧ lexeme.stop ≤ source.size

theorem afterBlanks_scanned {expected : Expected} {memory : Memory} {start : Nat} {scan : Scan Memory}
    (ahead : start ≤ source.size → start ≤ place ∧ place ≤ source.size)
    (found : afterBlanks source expected memory start place = some scan) : Scanned source start scan.lexeme := by
  unfold afterBlanks at found
  dsimp only at found
  split at found
  · cases found
  · rename_i margin blanks
    split at found
    · rename_i symbol after line
      obtain rfl := Option.some.inj found
      refine ⟨lineToken_symbol line, fun inside => ?_⟩
      obtain ⟨low, high⟩ := ahead inside
      dsimp only
      split <;> refine ⟨?_, Nat.min_le_right .., high⟩ <;> omega
    · split at found
      · split at found
        · rename_i quote stop opened
          obtain rfl := Option.some.inj found
          refine ⟨(by decide : Symbol.stringStart ∈ layoutSymbols), fun inside => ?_⟩
          obtain ⟨low, high⟩ := ahead inside
          obtain ⟨further, bound⟩ := margin_le high blanks
          obtain ⟨more, last⟩ := openQuote_le opened
          dsimp only at further ⊢
          split <;> refine ⟨?_, ?_, last⟩ <;> omega
        · cases found
      · cases found

theorem scan_scanned {expected : Nat} {memory : Option Memory} {result : Scan Memory}
    (found : scan expected source place memory = some result) : Scanned source place result.lexeme := by
  suffices scanned : Scanned source (Lexis.tokenStart source place) result.lexeme by
    refine ⟨scanned.symbol, fun inside => ?_⟩
    obtain ⟨low, high⟩ := Lexis.tokenStart_le inside
    obtain ⟨start, stop⟩ := scanned.bounds high
    exact ⟨Nat.le_trans low start, stop⟩
  unfold scan at found
  dsimp only at found
  generalize Lexis.tokenStart source place = start at found ⊢
  split at found
  · exact afterBlanks_scanned (fun inside => ⟨Nat.le_refl _, inside⟩) found
  rename_i quote _
  split at found
  · rename_i brace
    split at found
    · rename_i doubled
      obtain rfl := Option.some.inj found
      refine ⟨(by decide : Symbol.escapeInterpolation ∈ layoutSymbols),
        fun inside => ⟨Nat.le_refl _, by dsimp only; omega, ?_⟩⟩
      apply lt_size_of_peek
      rw [← beq_iff_eq.mp doubled]
      intro none
      rw [none] at brace
      simp at brace
    · cases found
  · have ends : Ends source start (stringPart source quote false start) := stringPart_ends
    split at found
    · rename_i symbol stop read
      rw [read] at ends
      obtain ⟨low, high, listed⟩ := ends
      obtain rfl := Option.some.inj found
      refine ⟨listed, fun inside => ⟨Nat.le_refl _, ?_, high⟩⟩
      dsimp only
      omega
    · cases found
    · rename_i stop read
      rw [read] at ends
      obtain ⟨low, high⟩ := ends
      exact afterBlanks_scanned (fun inside => ⟨by omega, high⟩) found

end Layout

end Places

section Lexemes
open Lexis
variable {source : Source}

theorem readsWithin (source : Source) : language.ReadsWithin source where
  scanned inside found := (Layout.scan_scanned found).bounds inside
  read {mode place lexeme} inside found := by
    have arrives : Arrives source place (language.read mode source place) := read_arrives inside
    rw [found] at arrives
    exact arrives
  stuck {mode place start reached} inside stopped := by
    have arrives : Arrives source place (language.read mode source place) := read_arrives inside
    rw [stopped] at arrives
    exact arrives
  word_ne := by decide
  layout found same := by
    have others : language.word ∉ Layout.layoutSymbols := by decide
    exact others (same ▸ (Layout.scan_scanned found).symbol)
  keyword {start stop keyword} known same := by
    have others : ∀ entry ∈ Lexis.keywords, entry.2 ≠ Symbol.identifier := by decide
    obtain ⟨before, after, split, -⟩ := List.lookup_eq_some_iff.mp known
    exact others (source.slice start stop, keyword) (by simp [split]) same

theorem parse_eq_listed (rejected : List String) (source : Source) : parse rejected source =
    ((Parser.parse Automaton.listed source).toNode Automaton.listed).checked rejected := by
  rw [← Automaton.language_eq_listed]
  rfl

theorem whole_parse (source : Source) : Whole language source Symbol.module_ (Parser.parse language source) :=
  Parser.parse_whole Automaton.orderly (readsWithin source)

theorem spelled_scan {expected place : Nat} {memory : Option Memory} {scan : Scan Memory}
    (found : Layout.scan expected source place memory = some scan) : Spelled source scan.lexeme := by
  have others : ∀ symbol ∈ Layout.layoutSymbols, symbol ∉ Symbol.identifier :: Symbol.period :: softKeywords := by decide
  exact spelled_of_symbol _ rfl (others _ (Layout.scan_scanned found).symbol)

variable {symbol start stop : Nat}

theorem isIdentifier_of_lexed (lexed : Lexed language source symbol start stop)
    (word : symbol = Symbol.identifier ∨ symbol ∈ softKeywords) : IsIdentifier (source.slice start stop) := by
  cases lexed with
  | scanned found =>
    have spelled := spelled_scan found
    exact spelled.word (word.resolve_right spelled.hard)
  | read found =>
    have spelled := spelled_read found
    exact spelled.word (word.resolve_right spelled.hard)
  | keyword found same => exact (spelled_read found).word same

theorem period_of_lexed (lexed : Lexed language source symbol start stop) (period : symbol = Symbol.period) :
    source.slice start stop = "." := by
  cases lexed with
  | scanned found => exact (spelled_scan found).period period
  | read found => exact (spelled_read found).period period
  | keyword found same spelled =>
    have others : ∀ word ∈ keywords, word.2 ≠ Symbol.period := by decide
    obtain ⟨before, after, whole, -⟩ := List.lookup_eq_some_iff.mp spelled
    exact absurd period (others _ (whole ▸ List.mem_append_right before List.mem_cons_self))

end Lexemes

end SourceAtlas.Python
