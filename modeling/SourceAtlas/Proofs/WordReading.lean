import SourceAtlas.Proofs.PythonTokens

/-! How words and single signs are read where the text ahead is known, with blanks in front of them. What follows a
word matters only by its first character, which must not go on with it. -/
namespace SourceAtlas.Python
open SourceAtlas.Syntax

def Ahead (source : Source) (place : Nat) (chars : List Char) : Prop :=
  ∃ before : List Char, before.length = place ∧ source.chars.toList = before ++ chars

section Ahead
variable {source : Source} {place : Nat} {c : Char} {chars run rest : List Char} {keep : Char → Bool}

theorem ahead_ofString (text : String) : Ahead (.ofString text) 0 text.toList :=
  ⟨[], rfl, rfl⟩

theorem Ahead.skip (ahead : Ahead source place (run ++ rest)) : Ahead source (place + run.length) rest := by
  obtain ⟨before, rfl, all⟩ := ahead
  exact ⟨before ++ run, List.length_append, by rw [all, List.append_assoc]⟩

theorem Ahead.tail (ahead : Ahead source place (c :: rest)) : Ahead source (place + 1) rest :=
  Ahead.skip (show Ahead source place ([c] ++ rest) from ahead)

theorem Ahead.size (ahead : Ahead source place chars) : source.size = place + chars.length := by
  obtain ⟨before, rfl, all⟩ := ahead
  rw [Source.size, ← Array.length_toList, all, List.length_append]

theorem Ahead.head? (ahead : Ahead source place chars) : source.chars[place]? = chars.head? := by
  obtain ⟨before, rfl, all⟩ := ahead
  rw [← Array.getElem?_toList, all, List.getElem?_append_right (Nat.le_refl _), Nat.sub_self, List.head?_eq_getElem?]

theorem Ahead.peek (ahead : Ahead source place chars) : source.peek place = chars.head?.getD '\x00' := by
  rw [Source.peek, Array.getD_eq_getD_getElem?, ahead.head?]

theorem Ahead.atEnd (ahead : Ahead source place chars) : source.atEnd place = chars.isEmpty := by
  have size : source.chars.size = place + chars.length := ahead.size
  unfold Source.atEnd
  rw [size]
  cases chars <;> simp

theorem Ahead.slice (ahead : Ahead source place (run ++ rest)) :
    source.slice place (place + run.length) = String.ofList run := by
  obtain ⟨before, rfl, all⟩ := ahead
  rw [← String.toList_inj, toList_slice, all, List.drop_left, Nat.add_sub_cancel_left, List.take_left,
    String.toList_ofList]

theorem Ahead.skipWhile (ahead : Ahead source place (run ++ rest)) (kept : ∀ c ∈ run, keep c = true)
    (stops : ∀ c ∈ rest.head?, keep c = false) : source.skipWhile keep place = place + run.length := by
  induction run generalizing place with
  | nil =>
    have head := ahead.head?
    unfold Source.skipWhile
    split
    · next bound =>
      rw [Array.getElem?_eq_getElem bound] at head
      rw [stops _ head.symm]
      rfl
    · rfl
  | cons c run ih =>
    obtain ⟨here, later⟩ := List.forall_mem_cons.mp kept
    have bound : place < source.chars.size := by
      have size : source.chars.size = _ := ahead.size
      simp only [List.cons_append, List.length_cons] at size
      omega
    have known : source.chars[place] = c := by
      have head := ahead.head?
      rw [Array.getElem?_eq_getElem bound] at head
      exact Option.some.inj head
    unfold Source.skipWhile
    rw [dif_pos bound, known, if_pos here, ih ahead.tail later, List.length_cons]
    omega

end Ahead

namespace Lexis

/-- A character that can neither go on with a word nor be taken for a blank, a comment, a number or a quotation mark. -/
def signs : List Char := ['.', ',', '*']

/-- Characters that no word starts with: blanks, those that a number, a comment, a joined line or a conversion starts
with, and those of the signs. -/
def otherStarts : List Char :=
  [' ', '\t', '\r', '\n', '\x0c', byteOrderMark, '\u2060', '\u200B', '.', '!', '#', '\\'] ++
    (List.range 10).map (fun digit => Char.ofNat (48 + digit)) ++ punctuation.filterMap fun sign => sign.1.toList.head?

theorem starts_apart : otherStarts.all (fun c => !isIdentifierStart c) = true ∧
    (' ' :: signs).all (fun c => !isIdentifierContinue c) = true := by
  decide +kernel

theorem not_start {c : Char} (member : c ∈ otherStarts) : isIdentifierStart c = false := by
  simpa using List.all_eq_true.mp starts_apart.1 c member

section Tokens
variable {source : Source} {place mode : Nat} {c : Char} {rest : List Char}

theorem number_none (ahead : Ahead source place (c :: rest)) (digit : c.isDigit = false) :
    integer source place = none ∧ (c ≠ '.' → float source place = none) := by
  have peek : source.peek place = c := ahead.peek
  have run : decimalRun source place = place := by
    have head := ahead.head?
    unfold decimalRun
    split
    · next bound =>
      rw [Array.getElem?_eq_getElem bound] at head
      have known : source.chars[place] = c := Option.some.inj head
      simp [known, digit]
    · rfl
  have zero : (c == '0') = false := by
    rw [beq_eq_false_iff_ne]
    rintro rfl
    simp at digit
  constructor
  · simp [integer, prefixedInteger, peek, zero, run]
  · intro other
    simp [float, run, peek, other]

theorem literal_none {text : List Char} (ahead : Ahead source place (c :: rest)) (filled : text ≠ [])
    (other : text.head? ≠ some c) : literal source text place = none := by
  obtain ⟨first, text, rfl⟩ := List.exists_cons_of_ne_nil filled
  rw [literal, ahead.head?, if_neg fun same => other (by simpa using same.symm)]

theorem operator_none (ahead : Ahead source place (c :: rest)) (start : isIdentifierStart c = true) :
    operator source mode place = none := by
  have filled : ∀ sign ∈ punctuation, sign.1.toList ≠ [] := by decide
  rw [operator, List.findSome?_eq_none_iff]
  intro sign listed
  have other : sign.1.toList.head? ≠ some c := by
    intro head
    have member : c ∈ otherStarts :=
      List.mem_append_right _ (List.mem_filterMap.mpr ⟨sign, listed, head⟩)
    rw [not_start member] at start
    cases start
  dsimp only
  rw [literal_none ahead (filled sign listed) other]
  simp

/-- The only sign of a mode that starts with a character is the one that is made of it alone. -/
def lonely (mode : Nat) (c : Char) (symbol : Nat) : Bool :=
  punctuation.all (fun sign => !mode.testBit sign.2 || sign.1.toList.head? != some c || sign.1.toList == [c]) &&
    punctuation.find? (fun sign => mode.testBit sign.2 && sign.1.toList == [c]) == some (String.ofList [c], symbol)

theorem operator_sign {symbol : Nat} (ahead : Ahead source place (c :: rest)) (only : lonely mode c symbol = true) :
    operator source mode place = some ⟨symbol, place, place + 1⟩ := by
  have filled : ∀ sign ∈ punctuation, sign.1.toList ≠ [] := by decide
  have single : literal source [c] place = some (place + 1) := by
    rw [literal, ahead.head?, List.head?_cons, if_pos rfl, literal]
  unfold lonely at only
  simp only [Bool.and_eq_true, beq_iff_eq, List.all_eq_true, Bool.or_eq_true, bne_iff_ne] at only
  obtain ⟨others, found⟩ := only
  unfold operator
  revert others found filled
  generalize punctuation = listed
  intro filled others found
  induction listed with
  | nil => cases found
  | cons sign listed ih =>
    obtain ⟨text, id⟩ := sign
    obtain ⟨full, filled⟩ := List.forall_mem_cons.mp filled
    obtain ⟨here, others⟩ := List.forall_mem_cons.mp others
    rw [List.findSome?_cons]
    rw [List.find?_cons] at found
    dsimp only at here found full ⊢
    cases looked : mode.testBit id with
    | false =>
      simp only [looked, Bool.false_and, Bool.false_eq_true, if_false] at found ⊢
      exact ih filled others found
    | true =>
      by_cases same : text.toList = [c]
      · simp only [looked, same, Bool.true_and, beq_self_eq_true, Option.some.injEq, Prod.mk.injEq] at found
        simp only [if_true, same, single, Option.map_some, found.2]
      · have apart : text.toList.head? ≠ some c := by simpa [looked, same] using here
        simp only [looked, Bool.true_and, beq_eq_false_iff_ne.mpr same] at found
        simp only [if_true, literal_none ahead full apart, Option.map_none]
        exact ih filled others found

theorem longer_none (first : Option Lexeme) : longer first none = first := by
  cases first <;> rfl

theorem tokenAt_eq (ahead : Ahead source place (c :: rest)) (digit : c.isDigit = false)
    (plain : c ≠ '!' ∧ c ≠ '#' ∧ c ≠ '\\') (whole : c = '.' → mode.testBit Symbol.float = false) :
    tokenAt source mode place = longer (operator source mode place) (word source mode place) := by
  have peek : source.peek place = c := ahead.peek
  obtain ⟨noInteger, noFloat⟩ := number_none ahead digit
  have float : ruled mode Symbol.float place (float source place) = none := by
    by_cases dot : c = '.'
    · simp [ruled, whole dot]
    · simp [ruled, noFloat dot]
  have none (symbol : Nat) : ruled mode symbol place none = none := by simp [ruled]
  simp [tokenAt, float, noInteger, none, peek, plain, typeConversion, longer_none]

theorem tokenAt_word {name : String} (spelled : IsIdentifier name) (ahead : Ahead source place (name.toList ++ rest))
    (ends : ∀ c ∈ rest.head?, isIdentifierContinue c = false) (hard : mode.testBit Symbol.exceptStar = false ∧
      mode.testBit Symbol.except = false) :
    tokenAt source mode place = some ⟨Symbol.identifier, place, place + name.toList.length⟩ := by
  obtain ⟨first, tail, chars, start, continues⟩ := spelled
  have here : Ahead source place (first :: (tail ++ rest)) := by rwa [chars] at ahead
  have other {c : Char} (member : c ∈ otherStarts) : first ≠ c := by
    rintro rfl
    rw [not_start member] at start
    cases start
  have digit : first.isDigit = false := by
    by_contra digit
    rw [Bool.not_eq_false, Char.isDigit_iff_toNat] at digit
    change 48 ≤ first.toNat ∧ first.toNat ≤ 57 at digit
    have member : first ∈ (List.range 10).map fun digit => Char.ofNat (48 + digit) := by
      refine List.mem_map.mpr ⟨first.toNat - 48, List.mem_range.mpr (by omega), ?_⟩
      rw [Nat.add_sub_cancel' digit.1, Char.ofNat_toNat]
    exact other (List.mem_append_left _ (List.mem_append_right _ member)) rfl
  have stop : source.skipWhile isIdentifierContinue (place + 1) = place + name.toList.length := by
    rw [here.tail.skipWhile continues ends, chars, List.length_cons]
    omega
  rw [tokenAt_eq here digit ⟨other (by decide), other (by decide), other (by decide)⟩
    fun dot => absurd dot (other (by decide)), operator_none here start]
  have more : source.atEnd place = false := here.atEnd
  simp [word, here.peek, start, more, stop, hard, longer]

theorem tokenAt_sign {symbol : Nat} (sign : c ∈ signs) (ahead : Ahead source place (c :: rest))
    (only : lonely mode c symbol = true) (whole : mode.testBit Symbol.float = false ∨ c ≠ '.') :
    tokenAt source mode place = some ⟨symbol, place, place + 1⟩ := by
  have plain : signs.all (fun c => c.isDigit = false ∧ (c ≠ '!' ∧ c ≠ '#' ∧ c ≠ '\\') ∧ c ∈ otherStarts) = true := by decide
  obtain ⟨digit, plain, other⟩ := of_decide_eq_true (List.all_eq_true.mp plain c sign)
  rw [tokenAt_eq ahead digit plain fun dot => whole.resolve_right (not_not_intro dot), operator_sign ahead only]
  simp [word, ahead.peek, not_start other, longer]

theorem tokenStart_eq (other : source.peek place ≠ byteOrderMark) : tokenStart source place = place := by
  unfold tokenStart
  split
  · next beginning =>
    simp only [Bool.and_eq_true, decide_eq_true_eq, beq_iff_eq] at beginning
    obtain ⟨rfl, mark⟩ := beginning
    exact absurd mark other
  · rfl

def isSolid (c : Char) : Bool :=
  !isSeparator c && c != '#' && c != '\\'

theorem peek_blanks {blanks : Nat} (ahead : Ahead source place (List.replicate blanks ' ' ++ c :: rest))
    (solid : isSolid c = true) : source.peek place ≠ byteOrderMark ∧ source.peek place ≠ '\\' := by
  rw [ahead.peek]
  cases blanks with
  | zero =>
    have other {d : Char} (hollow : isSolid d = false) : c ≠ d := by
      rintro rfl
      rw [solid] at hollow
      cases hollow
    exact ⟨other (by decide), other (by decide)⟩
  | succ blanks =>
    change ' ' ≠ byteOrderMark ∧ ' ' ≠ '\\'
    decide

theorem read_blanks {set blanks : Nat} {lexeme : Lexeme} (plain : (modes.getD set 0).testBit Symbol.formatText = false)
    (ahead : Ahead source place (List.replicate blanks ' ' ++ c :: rest)) (solid : isSolid c = true)
    (found : tokenAt source (modes.getD set 0) (place + blanks) = some lexeme) : read set source place = .found lexeme := by
  obtain ⟨unmarked, unjoined⟩ := peek_blanks ahead solid
  have there := ahead.skip
  rw [List.length_replicate] at there
  have ends : isSeparator c = false := by
    simp only [isSolid, Bool.and_eq_true, Bool.not_eq_true'] at solid
    exact solid.1.1
  have start : source.skipWhile isSeparator place = place + blanks := by
    rw [ahead.skipWhile (by simp [isSeparator]) (by simpa using ends), List.length_replicate]
  have more : source.atEnd (place + blanks) = false := there.atEnd
  unfold read
  simp only [tokenStart_eq unmarked, plain, beq_eq_false_iff_ne.mpr unjoined, start, more, found, Bool.and_false,
    Bool.false_eq_true, if_false]

theorem read_end {set : Nat} (plain : (modes.getD set 0).testBit Symbol.formatText = false)
    (ending : (modes.getD set 0).testBit Symbol.endOfText = true) (ahead : Ahead source place []) :
    read set source place = .found ⟨Symbol.endOfText, place, place⟩ := by
  have peek : source.peek place = '\x00' := ahead.peek
  have unmarked : source.peek place ≠ byteOrderMark := by
    rw [peek]
    decide
  have start : source.skipWhile isSeparator place = place :=
    Ahead.skipWhile (show Ahead source place ([] ++ []) from ahead) nofun nofun
  have unjoined : ('\x00' == '\\') = false := by decide
  have last : source.atEnd place = true := ahead.atEnd
  unfold read
  simp only [tokenStart_eq unmarked, plain, peek, unjoined, start, last, ending, Bool.and_false, Bool.false_eq_true, if_false,
    if_true]

end Tokens

end Lexis

namespace Layout
variable {source : Source} {place : Nat} {c : Char} {rest : List Char}

theorem beq_hollow (solid : Lexis.isSolid c = true) :
    ∀ d ∈ ['\n', ' ', '\r', '\x0c', '\t', '#', '\\'], (c == d) = false := by
  have hollow : ['\n', ' ', '\r', '\x0c', '\t', '#', '\\'].all (!Lexis.isSolid ·) = true := by decide
  intro d listed
  rw [beq_eq_false_iff_ne]
  rintro rfl
  have soft : Lexis.isSolid c = false := by simpa using List.all_eq_true.mp hollow c listed
  rw [soft] at solid
  cases solid

theorem margin_blanks {blanks indent : Nat} {comments : Bool} (solid : Lexis.isSolid c = true)
    (ahead : Ahead source place (List.replicate blanks ' ' ++ c :: rest)) :
    margin source comments ⟨place, false, indent, none⟩ = some ⟨place + blanks, false, indent + blanks, none⟩ := by
  induction blanks generalizing place indent with
  | zero =>
    have head : source.chars[place]? = some c := ahead.head?
    obtain ⟨bound, known⟩ := Array.getElem?_eq_some_iff.mp head
    have other := beq_hollow solid
    simp only [List.forall_mem_cons] at other
    rw [margin, dif_pos bound]
    simp [known, other]
  | succ blanks ih =>
    have head : source.chars[place]? = some ' ' := ahead.head?
    obtain ⟨bound, known⟩ := Array.getElem?_eq_some_iff.mp head
    rw [margin, dif_pos bound]
    simp only [known]
    rw [if_neg (by decide), if_pos (by decide), ih ahead.tail]
    simp [Nat.add_assoc, Nat.add_comm 1]

theorem margin_end {comments : Bool} (ahead : Ahead source place []) :
    margin source comments ⟨place, false, 0, none⟩ = some ⟨place, true, 0, none⟩ := by
  have size : source.chars.size = place := ahead.size
  rw [margin, dif_neg (by rw [size]; exact Nat.lt_irrefl _)]

theorem openQuote_none {run : List Char} (ahead : Ahead source place (run ++ rest))
    (letters : ∀ c ∈ run, "fFrRbBuU".toList.contains c = true)
    (other : ∀ c ∈ rest.head?, c ∉ "fFrRbBuU\x60'\"".toList) : openQuote source place = none := by
  have wider : "fFrRbBuU".toList ⊆ "fFrRbBuU\x60'\"".toList := by decide
  have stop : source.skipWhile (fun c => "fFrRbBuU".toList.contains c) place = place + run.length := by
    refine ahead.skipWhile letters fun c first => ?_
    simpa using fun member => other c first (wider member)
  have unmarked : source.peek (place + run.length) ∉ ['\x60', '\'', '"'] := by
    rw [ahead.skip.peek]
    cases rest with
    | nil => decide
    | cons c rest =>
      have marks : ['\x60', '\'', '"'] ⊆ "fFrRbBuU\x60'\"".toList := by decide
      exact fun member => other c rfl (marks member)
  simp only [List.mem_cons, List.not_mem_nil, or_false, not_or] at unmarked
  unfold openQuote quoteLetters
  simp only [stop, beq_eq_false_iff_ne.mpr unmarked.1, beq_eq_false_iff_ne.mpr unmarked.2.1,
    beq_eq_false_iff_ne.mpr unmarked.2.2, Bool.or_self, Bool.false_eq_true, if_false]

theorem scan_blanks {set blanks : Nat} {memory : Option Memory} (looks : set ∈ [2, 9, 14]) (solid : Lexis.isSolid c = true)
    (ahead : Ahead source place (List.replicate blanks ' ' ++ c :: rest))
    (unquoted : set = 2 → openQuote source (place + blanks) = none) : scan set source place memory = none := by
  have start := Lexis.tokenStart_eq (Lexis.peek_blanks ahead solid).1
  have here (comments : Bool) : margin source comments ⟨place, false, 0, none⟩ = _ := margin_blanks solid ahead
  simp only [List.mem_cons, List.not_mem_nil, or_false] at looks
  rcases looks with rfl | rfl | rfl
  · simp [scan, start, afterBlanks, here, lineToken, expectations, Expected.recovering, unquoted rfl]
  · simp [scan, start, afterBlanks, here, lineToken, expectations, Expected.recovering]
  · simp [scan, start, afterBlanks, here, lineToken, expectations, Expected.recovering]

theorem scan_newline (ahead : Ahead source place []) :
    scan 9 source place none = some ⟨⟨Symbol.newline, place, place⟩, emptyMemory⟩ := by
  have peek : source.peek place = '\x00' := ahead.peek
  have start : Lexis.tokenStart source place = place := Lexis.tokenStart_eq (by rw [peek]; decide)
  simp [scan, start, afterBlanks, margin_end ahead, lineToken, expectations, Expected.recovering, emptyMemory]

theorem scan_end {memory : Option Memory} (empty : ∀ known ∈ memory, known = emptyMemory) (ahead : Ahead source place []) :
    scan 2 source place memory = none := by
  have peek : source.peek place = '\x00' := ahead.peek
  have start : Lexis.tokenStart source place = place := Lexis.tokenStart_eq (by rw [peek]; decide)
  have unquoted : openQuote source place = none :=
    openQuote_none (show Ahead source place ([] ++ []) from ahead) nofun nofun
  have same : memory.getD emptyMemory = emptyMemory := by
    cases memory with
    | none => rfl
    | some known => exact empty known rfl
  unfold scan
  rw [same]
  simp [start, afterBlanks, margin_end ahead, lineToken, expectations, Expected.recovering, emptyMemory, unquoted]

end Layout

end SourceAtlas.Python
