import SourceAtlas.Bytes
import Mathlib.Data.String.Basic

/-! UTF-8 as it is written and read. Every text is read back from its bytes, texts and
their bytes have the same order, and replaced bytes never look like an ASCII character. -/
namespace SourceAtlas.Bytes

private theorem finish_zero (bits : Nat) (low high : UInt8) (rest : Bytes) :
    finish 0 bits low high rest = (Char.ofNat bits, rest) := by
  cases rest <;> simp [finish]

private theorem finish_succ (following bits : Nat) {low high byte : UInt8} (rest : Bytes)
    (lower : low.toNat ≤ byte.toNat) (upper : byte.toNat ≤ high.toNat) :
    finish (following + 1) bits low high (byte :: rest) =
      finish following (bits * 64 + byte.toNat % 64) 0x80 0xBF rest := by
  rw [finish]
  simp [UInt8.le_iff_toNat_le, lower, upper]

theorem decodeFirst_of_lead {byte : UInt8} {lead : Lead} (rest : Bytes)
    (large : 0x80 ≤ byte.toNat) (announced : lead? byte = some lead) :
    decodeFirst byte rest = finish lead.following lead.bits lead.low lead.high rest := by
  have notSmall : ¬ byte < 0x80 := by
    simp only [UInt8.lt_iff_toNat_lt, UInt8.reduceToNat]
    omega
  rw [decodeFirst, if_neg notSmall, announced]

private theorem lead_two {byte : UInt8} (lower : 0xC2 ≤ byte.toNat) (upper : byte.toNat ≤ 0xDF) :
    lead? byte = some ⟨1, byte.toNat - 0xC0, 0x80, 0xBF⟩ := by
  simp [lead?, UInt8.le_iff_toNat_le, lower, upper]

/-- The first byte to follow is in the announced range, since shorter forms and surrogates are
no characters. -/
private theorem lead_three {byte second : UInt8} {v : Nat}
    (first : byte.toNat = v / 4096 + 0xE0) (next : second.toNat = v / 64 % 64 + 0x80)
    (lower : 0x7FF < v) (upper : v ≤ 0xFFFF) (scalar : v < 0xD800 ∨ 0xDFFF < v) :
    ∃ low high, lead? byte = some ⟨2, v / 4096, low, high⟩ ∧
      low.toNat ≤ second.toNat ∧ second.toNat ≤ high.toNat := by
  have notTwo : ¬ byte.toNat ≤ 0xDF := by omega
  by_cases lowest : byte.toNat = 0xE0
  · refine ⟨0xA0, 0xBF, ?_, ?_, ?_⟩
    · have bits : v / 4096 = 0 := by omega
      simp [lead?, UInt8.le_iff_toNat_le, ← UInt8.toNat_inj, lowest, bits]
    · simp only [UInt8.reduceToNat]; omega
    · simp only [UInt8.reduceToNat]; omega
  · by_cases surrogate : byte.toNat = 0xED
    · refine ⟨0x80, 0x9F, ?_, ?_, ?_⟩
      · have bits : v / 4096 = 13 := by omega
        simp [lead?, UInt8.le_iff_toNat_le, ← UInt8.toNat_inj, surrogate, bits]
      · simp only [UInt8.reduceToNat]; omega
      · simp only [UInt8.reduceToNat]; omega
    · refine ⟨0x80, 0xBF, ?_, ?_, ?_⟩
      · have range : 0xE1 ≤ byte.toNat ∧ byte.toNat ≤ 0xEF := by omega
        have bits : byte.toNat - 0xE0 = v / 4096 := by omega
        simp [lead?, UInt8.le_iff_toNat_le, ← UInt8.toNat_inj, lowest, surrogate, notTwo, range, bits]
      · simp only [UInt8.reduceToNat]; omega
      · simp only [UInt8.reduceToNat]; omega

private theorem lead_four {byte second : UInt8} {v : Nat}
    (first : byte.toNat = v / 262144 + 0xF0) (next : second.toNat = v / 4096 % 64 + 0x80)
    (lower : 0xFFFF < v) (upper : v < 0x110000) :
    ∃ low high, lead? byte = some ⟨3, v / 262144, low, high⟩ ∧
      low.toNat ≤ second.toNat ∧ second.toNat ≤ high.toNat := by
  have notThree : ¬ byte.toNat ≤ 0xEF := by omega
  have notTwo : ¬ byte.toNat ≤ 0xDF := by omega
  have notSurrogate : byte.toNat ≠ 0xED := by omega
  have notLowest : byte.toNat ≠ 0xE0 := by omega
  by_cases lowest : byte.toNat = 0xF0
  · refine ⟨0x90, 0xBF, ?_, ?_, ?_⟩
    · have bits : v / 262144 = 0 := by omega
      simp [lead?, UInt8.le_iff_toNat_le, ← UInt8.toNat_inj, lowest, bits]
    · simp only [UInt8.reduceToNat]; omega
    · simp only [UInt8.reduceToNat]; omega
  · by_cases highest : byte.toNat = 0xF4
    · refine ⟨0x80, 0x8F, ?_, ?_, ?_⟩
      · have bits : v / 262144 = 4 := by omega
        simp [lead?, UInt8.le_iff_toNat_le, ← UInt8.toNat_inj, highest, bits]
      · simp only [UInt8.reduceToNat]; omega
      · simp only [UInt8.reduceToNat]; omega
    · refine ⟨0x80, 0xBF, ?_, ?_, ?_⟩
      · have range : 0xF1 ≤ byte.toNat ∧ byte.toNat ≤ 0xF3 := by omega
        have bits : byte.toNat - 0xF0 = v / 262144 := by omega
        simp [lead?, UInt8.le_iff_toNat_le, ← UInt8.toNat_inj, lowest, notTwo, notThree,
          notSurrogate, notLowest, range, bits]
      · simp only [UInt8.reduceToNat]; omega
      · simp only [UInt8.reduceToNat]; omega


theorem toNat_ofNat_of_valid {value : Nat} (valid : value.isValidChar) :
    (Char.ofNat value).toNat = value := by
  rw [Char.ofNat, dif_pos valid]
  rfl

theorem decodeFirst_encode (c : Char) (rest : Bytes) :
    ∃ byte tail, String.utf8EncodeChar c = byte :: tail ∧ decodeFirst byte (tail ++ rest) = (c, rest) := by
  have scalar : c.val.toNat < 0xD800 ∨ 0xDFFF < c.val.toNat ∧ c.val.toNat < 0x110000 := c.valid
  have whole : Char.ofNat c.val.toNat = c := Char.ofNat_toNat c
  unfold String.utf8EncodeChar
  generalize c.val.toNat = v at *
  dsimp only
  split_ifs with one two three
  · refine ⟨_, _, rfl, ?_⟩
    have first : (UInt8.ofNat v).toNat = v := by
      rw [UInt8.toNat_ofNat']
      omega
    have small : UInt8.ofNat v < 0x80 := by
      simp only [UInt8.lt_iff_toNat_lt, first, UInt8.reduceToNat]
      omega
    rw [decodeFirst, if_pos small, first, whole]
    rfl
  · refine ⟨_, _, rfl, ?_⟩
    have first : (UInt8.ofNat (v / 64 % 0x20 + 0xC0)).toNat = v / 64 % 0x20 + 0xC0 := by
      rw [UInt8.toNat_ofNat']
      omega
    have second : (UInt8.ofNat (v % 0x40 + 0x80)).toNat = v % 0x40 + 0x80 := by
      rw [UInt8.toNat_ofNat']
      omega
    rw [decodeFirst_of_lead _ (by omega) (lead_two (by omega) (by omega)), List.cons_append,
      finish_succ _ _ _ (by simp only [UInt8.reduceToNat]; omega) (by simp only [UInt8.reduceToNat]; omega),
      List.nil_append, finish_zero]
    have value : ((UInt8.ofNat (v / 64 % 0x20 + 0xC0)).toNat - 0xC0) * 64 +
        (UInt8.ofNat (v % 0x40 + 0x80)).toNat % 64 = v := by omega
    rw [value, whole]
  · refine ⟨_, _, rfl, ?_⟩
    have first : (UInt8.ofNat (v / 4096 % 0x10 + 0xE0)).toNat = v / 4096 + 0xE0 := by
      rw [UInt8.toNat_ofNat']
      omega
    have second : (UInt8.ofNat (v / 64 % 0x40 + 0x80)).toNat = v / 64 % 0x40 + 0x80 := by
      rw [UInt8.toNat_ofNat']
      omega
    have third : (UInt8.ofNat (v % 0x40 + 0x80)).toNat = v % 0x40 + 0x80 := by
      rw [UInt8.toNat_ofNat']
      omega
    obtain ⟨low, high, announced, lower, upper⟩ :=
      lead_three first second (by omega) (by omega) (by omega)
    rw [decodeFirst_of_lead _ (by omega) announced, List.cons_append, finish_succ _ _ _ lower upper,
      List.cons_append,
      finish_succ _ _ _ (by simp only [UInt8.reduceToNat]; omega) (by simp only [UInt8.reduceToNat]; omega),
      List.nil_append, finish_zero]
    have value : (v / 4096 * 64 + (UInt8.ofNat (v / 64 % 0x40 + 0x80)).toNat % 64) * 64 +
        (UInt8.ofNat (v % 0x40 + 0x80)).toNat % 64 = v := by omega
    rw [value, whole]
  · refine ⟨_, _, rfl, ?_⟩
    have first : (UInt8.ofNat (v / 262144 % 0x08 + 0xF0)).toNat = v / 262144 + 0xF0 := by
      rw [UInt8.toNat_ofNat']
      omega
    have second : (UInt8.ofNat (v / 4096 % 0x40 + 0x80)).toNat = v / 4096 % 0x40 + 0x80 := by
      rw [UInt8.toNat_ofNat']
      omega
    have third : (UInt8.ofNat (v / 64 % 0x40 + 0x80)).toNat = v / 64 % 0x40 + 0x80 := by
      rw [UInt8.toNat_ofNat']
      omega
    have fourth : (UInt8.ofNat (v % 0x40 + 0x80)).toNat = v % 0x40 + 0x80 := by
      rw [UInt8.toNat_ofNat']
      omega
    obtain ⟨low, high, announced, lower, upper⟩ := lead_four first second (by omega) (by omega)
    rw [decodeFirst_of_lead _ (by omega) announced, List.cons_append, finish_succ _ _ _ lower upper,
      List.cons_append,
      finish_succ _ _ _ (by simp only [UInt8.reduceToNat]; omega) (by simp only [UInt8.reduceToNat]; omega),
      List.cons_append,
      finish_succ _ _ _ (by simp only [UInt8.reduceToNat]; omega) (by simp only [UInt8.reduceToNat]; omega),
      List.nil_append, finish_zero]
    have value : ((v / 262144 * 64 + (UInt8.ofNat (v / 4096 % 0x40 + 0x80)).toNat % 64) * 64 +
        (UInt8.ofNat (v / 64 % 0x40 + 0x80)).toNat % 64) * 64 +
        (UInt8.ofNat (v % 0x40 + 0x80)).toNat % 64 = v := by omega
    rw [value, whole]

theorem encode_ascii {c : Char} (small : c.toNat < 0x80) :
    String.utf8EncodeChar c = [UInt8.ofNat c.toNat] := by
  have within : c.val.toNat ≤ 0x7F := Nat.le_of_lt_succ small
  simp only [String.utf8EncodeChar, within, if_true]
  rfl

theorem le_of_mem_encode {c : Char} (large : 0x80 ≤ c.toNat) {byte : UInt8}
    (member : byte ∈ String.utf8EncodeChar c) : 0x80 ≤ byte.toNat := by
  have beyond : ¬ c.val.toNat ≤ 0x7F := Nat.not_le_of_lt large
  simp only [String.utf8EncodeChar, if_neg beyond] at member
  split_ifs at member with two three
  all_goals
    simp only [List.mem_cons, List.not_mem_nil, or_false] at member
  · rcases member with rfl | rfl <;> simp only [UInt8.toNat_ofNat'] <;> omega
  · rcases member with rfl | rfl | rfl <;> simp only [UInt8.toNat_ofNat'] <;> omega
  · rcases member with rfl | rfl | rfl | rfl <;> simp only [UInt8.toNat_ofNat'] <;> omega

private theorem decodeOnto_encode (chars : List Char) (text : String) :
    decodeOnto text (chars.flatMap String.utf8EncodeChar) = text ++ String.ofList chars := by
  induction chars generalizing text with
  | nil => simp [decodeOnto]
  | cons c chars ih =>
    obtain ⟨byte, tail, encoded, decoded⟩ := decodeFirst_encode c (chars.flatMap String.utf8EncodeChar)
    rw [List.flatMap_cons, encoded, List.cons_append, decodeOnto, decoded, ih]
    apply String.toList_inj.mp
    simp

theorem toText_ofText (text : String) : toText (ofText text) = text := by
  rw [toText, ofText, decodeOnto_encode]
  simp

theorem toText?_ofText (text : String) : toText? (ofText text) = some text := by
  simp [toText?, toText_ofText]

private theorem decodeOnto_ne_empty (text : String) (bytes : Bytes) (nonempty : text ≠ "" ∨ bytes ≠ []) :
    decodeOnto text bytes ≠ "" := by
  fun_induction decodeOnto text bytes with
  | case1 text => simpa using nonempty
  | case2 text byte rest _ ih => exact ih (.inl String.push_ne_empty)

theorem toText_ne_empty {bytes : Bytes} (nonempty : bytes ≠ []) : toText bytes ≠ "" :=
  decodeOnto_ne_empty "" bytes (.inr nonempty)

theorem mem_of_mem_ofText {text : String} {byte : UInt8} (small : byte.toNat < 0x80)
    (member : byte ∈ ofText text) : Char.ofNat byte.toNat ∈ text.toList := by
  obtain ⟨c, inText, inForm⟩ := List.mem_flatMap.mp member
  have ascii : c.toNat < 0x80 := by
    by_contra large
    exact absurd (le_of_mem_encode (Nat.le_of_not_lt large) inForm) (Nat.not_le_of_lt small)
  rw [encode_ascii ascii, List.mem_singleton] at inForm
  have value : byte.toNat = c.toNat := by
    rw [inForm]
    rw [UInt8.toNat_ofNat']
    omega
  rwa [value, Char.ofNat_toNat]

def IsText (bytes : Bytes) : Prop :=
  ∃ text, ofText text = bytes

theorem IsText.ofText_toText {bytes : Bytes} (isText : IsText bytes) : ofText (toText bytes) = bytes := by
  obtain ⟨text, rfl⟩ := isText
  rw [Bytes.toText_ofText]

theorem IsText.append {left right : Bytes} (first : IsText left) (second : IsText right) :
    IsText (left ++ right) := by
  obtain ⟨text, rfl⟩ := first
  obtain ⟨more, rfl⟩ := second
  exact ⟨text ++ more, by simp [ofText]⟩

theorem isText_of_ascii {bytes : Bytes} (ascii : ∀ byte ∈ bytes, byte.toNat < 0x80) : IsText bytes := by
  induction bytes with
  | nil => exact ⟨"", rfl⟩
  | cons byte bytes ih =>
    have small := ascii byte List.mem_cons_self
    have valid : byte.toNat.isValidChar := Or.inl (by omega)
    have value := toNat_ofNat_of_valid valid
    have single : IsText [byte] := by
      refine ⟨String.singleton (Char.ofNat byte.toNat), ?_⟩
      have encoded := encode_ascii (show (Char.ofNat byte.toNat).toNat < 0x80 by omega)
      rw [value, UInt8.ofNat_toNat] at encoded
      simp [ofText, encoded]
    exact single.append (ih fun other member => ascii other (List.mem_cons_of_mem _ member))

section Order

private theorem digits_lt {v w : Nat} (less : v < w) :
    v / 64 < w / 64 ∨ v / 64 = w / 64 ∧ v % 64 < w % 64 := by omega

private theorem three_digits_lt {v w : Nat} (less : v < w) :
    v / 4096 < w / 4096 ∨ v / 4096 = w / 4096 ∧ (v / 64 % 64 < w / 64 % 64 ∨
      v / 64 % 64 = w / 64 % 64 ∧ v % 64 < w % 64) := by
  rcases digits_lt less with high | ⟨high, last⟩
  · have second := digits_lt high
    simp only [Nat.div_div_eq_div_mul, Nat.reduceMul] at second
    rcases second with top | ⟨top, middle⟩
    · exact .inl top
    · exact .inr ⟨top, .inl middle⟩
  · have top : v / 64 / 64 = w / 64 / 64 := congrArg (· / 64) high
    simp only [Nat.div_div_eq_div_mul, Nat.reduceMul] at top
    exact .inr ⟨top, .inr ⟨congrArg (· % 64) high, last⟩⟩

private theorem four_digits_lt {v w : Nat} (less : v < w) :
    v / 262144 < w / 262144 ∨ v / 262144 = w / 262144 ∧ (v / 4096 % 64 < w / 4096 % 64 ∨
      v / 4096 % 64 = w / 4096 % 64 ∧ (v / 64 % 64 < w / 64 % 64 ∨
        v / 64 % 64 = w / 64 % 64 ∧ v % 64 < w % 64)) := by
  rcases three_digits_lt less with high | ⟨high, last⟩
  · have second := digits_lt high
    simp only [Nat.div_div_eq_div_mul, Nat.reduceMul] at second
    rcases second with top | ⟨top, middle⟩
    · exact .inl top
    · exact .inr ⟨top, .inl middle⟩
  · have top : v / 4096 / 64 = w / 4096 / 64 := congrArg (· / 64) high
    simp only [Nat.div_div_eq_div_mul, Nat.reduceMul] at top
    exact .inr ⟨top, .inr ⟨congrArg (· % 64) high, last⟩⟩

theorem encode_lt {c d : Char} (before : c < d) (left right : Bytes) :
    String.utf8EncodeChar c ++ left < String.utf8EncodeChar d ++ right := by
  have less : c.val.toNat < d.val.toNat := before
  have bound : d.val.toNat < 0xD800 ∨ 0xDFFF < d.val.toNat ∧ d.val.toNat < 0x110000 := d.valid
  unfold String.utf8EncodeChar
  generalize c.val.toNat = v at *
  generalize d.val.toNat = w at *
  have last := digits_lt less
  have lastThree := three_digits_lt less
  have lastFour := four_digits_lt less
  dsimp only
  -- Forms of different lengths differ in the first byte, forms of one length digit by digit.
  split_ifs <;> simp only [List.cons_append, List.nil_append,
    List.cons_lt_cons_iff, UInt8.lt_iff_toNat_lt, ← UInt8.toNat_inj, UInt8.toNat_ofNat']
  iterate 5 · omega
  · clear lastThree lastFour
    omega
  iterate 4 · omega
  · clear last lastFour
    omega
  iterate 4 · omega
  · clear last lastThree
    have vTop : v / 262144 % 8 = v / 262144 := by omega
    have wTop : w / 262144 % 8 = w / 262144 := by omega
    rw [vTop, wTop]
    omega

private theorem flatMap_encode_lt {left right : List Char} (before : left < right) :
    left.flatMap String.utf8EncodeChar < right.flatMap String.utf8EncodeChar := by
  induction right generalizing left with
  | nil => simp at before
  | cons d right ih =>
    cases left with
    | nil =>
      obtain ⟨byte, tail, encoded, _⟩ := decodeFirst_encode d []
      simp [encoded]
    | cons c left =>
      rcases List.cons_lt_cons_iff.mp before with less | ⟨rfl, rest⟩
      · exact encode_lt less _ _
      · simpa [List.flatMap_cons] using List.append_left_lt (ih rest)

theorem ofText_lt_iff (left right : String) : ofText left < ofText right ↔ left < right := by
  constructor
  · intro before
    rcases lt_trichotomy left right with less | rfl | greater
    · exact less
    · exact absurd before (List.lt_irrefl _)
    · have after := flatMap_encode_lt (String.lt_iff_toList_lt.mp greater)
      exact absurd before (List.lt_asymm after)
  · intro less
    exact flatMap_encode_lt (String.lt_iff_toList_lt.mp less)

end Order

section Ascii

private theorem finish_suffix (following bits : Nat) (low high : UInt8) (bytes : Bytes) :
    (finish following bits low high bytes).2 <:+ bytes := by
  fun_induction finish following bits low high bytes with
  | case1 => simp
  | case2 => simp
  | case3 bits low high byte rest following inside ih => exact ih.trans (List.suffix_cons ..)
  | case4 => simp

private theorem decodeFirst_suffix (byte : UInt8) (rest : Bytes) :
    (decodeFirst byte rest).2 <:+ rest := by
  unfold decodeFirst
  split
  · simp
  · split
    · exact finish_suffix ..
    · simp

private theorem finish_ge (following bits : Nat) (low high : UInt8) (bytes : Bytes) :
    (finish following bits low high bytes).1 = replacement ∨
      ∃ value, bits * 64 ^ following ≤ value ∧
        (finish following bits low high bytes).1 = Char.ofNat value := by
  fun_induction finish following bits low high bytes with
  | case1 following bits =>
    by_cases done : following = 0
    · exact .inr ⟨bits, by simp [done], by simp [done]⟩
    · exact .inl (by simp [done])
  | case2 bits => exact .inr ⟨bits, by simp, rfl⟩
  | case3 bits low high byte rest following inside ih =>
    refine ih.imp_right ?_
    rintro ⟨value, bound, equal⟩
    refine ⟨value, le_trans ?_ bound, equal⟩
    rw [Nat.pow_succ, Nat.mul_comm (64 ^ following), ← Nat.mul_assoc]
    exact Nat.mul_le_mul_right _ (Nat.le_add_right ..)
  | case4 => exact .inl rfl

private theorem finish_large {following bits : Nat} {low high : UInt8} (bytes : Bytes)
    (lower : 0x80 ≤ low.toNat) (upper : high.toNat ≤ 0xBF)
    (large : 0x80 ≤ (bits * 64 + (low.toNat - 0x80)) * 64 ^ following) :
    (finish (following + 1) bits low high bytes).1 = replacement ∨
      ∃ value, 0x80 ≤ value ∧ (finish (following + 1) bits low high bytes).1 = Char.ofNat value := by
  cases bytes with
  | nil => exact .inl (by simp [finish])
  | cons byte rest =>
    rw [finish]
    split_ifs with inside
    · refine (finish_ge _ _ _ _ _).imp_right ?_
      rintro ⟨value, bound, equal⟩
      refine ⟨value, le_trans large (le_trans (Nat.mul_le_mul_right _ ?_) bound), equal⟩
      simp only [UInt8.le_iff_toNat_le, Bool.and_eq_true, decide_eq_true_eq] at inside
      omega
    · exact .inl rfl

private theorem lead_large {byte : UInt8} {lead : Lead} (announced : lead? byte = some lead) :
    ∃ following, lead.following = following + 1 ∧ 0x80 ≤ lead.low.toNat ∧ lead.high.toNat ≤ 0xBF ∧
      0x80 ≤ (lead.bits * 64 + (lead.low.toNat - 0x80)) * 64 ^ following := by
  simp only [lead?, UInt8.le_iff_toNat_le, Bool.and_eq_true, decide_eq_true_eq, beq_iff_eq,
    ← UInt8.toNat_inj, UInt8.reduceToNat] at announced
  split_ifs at announced <;> cases announced
  · exact ⟨0, rfl, by simp, by simp, by simp; omega⟩
  iterate 3 · exact ⟨1, rfl, by simp, by simp, by simp; omega⟩
  iterate 3 · exact ⟨2, rfl, by simp, by simp, by simp; omega⟩

private theorem toNat_ofNat_cases (value : Nat) :
    (Char.ofNat value).toNat = 0 ∨ (Char.ofNat value).toNat = value := by
  by_cases valid : value.isValidChar
  · exact .inr (toNat_ofNat_of_valid valid)
  · left
    rw [Char.ofNat, dif_neg valid]
    rfl

private theorem decodeFirst_ascii {byte : UInt8} {rest : Bytes} {c : Char} (nonzero : 0 < c.toNat)
    (small : c.toNat < 0x80) (decoded : (decodeFirst byte rest).1 = c) :
    byte = UInt8.ofNat c.toNat := by
  have notReplacement : c ≠ replacement := by
    rintro rfl
    exact absurd small (by decide)
  unfold decodeFirst at decoded
  split at decoded
  · rename_i below
    have bound : byte.toNat < 0x80 := by simpa [UInt8.lt_iff_toNat_lt] using below
    have read : Char.ofNat byte.toNat = c := decoded
    have size := toNat_ofNat_cases byte.toNat
    rw [read] at size
    have same : c.toNat = byte.toNat := by omega
    simp [same]
  · split at decoded
    · rename_i lead announced
      obtain ⟨following, equal, lower, upper, large⟩ := lead_large announced
      rw [equal] at decoded
      rcases finish_large rest lower upper large with replaced | ⟨value, bound, read⟩
      · exact absurd (decoded.symm.trans replaced) notReplacement
      · have size := toNat_ofNat_cases value
        rw [← read, decoded] at size
        omega
    · exact absurd decoded.symm notReplacement

private theorem mem_of_mem_decodeOnto (text : String) (bytes : Bytes) {c : Char}
    (nonzero : 0 < c.toNat) (small : c.toNat < 0x80) (member : c ∈ (decodeOnto text bytes).toList) :
    c ∈ text.toList ∨ UInt8.ofNat c.toNat ∈ bytes := by
  fun_induction decodeOnto text bytes with
  | case1 => exact .inl member
  | case2 text byte rest _ ih =>
    rcases ih member with before | after
    · simp only [String.toList_push, List.mem_append, List.mem_singleton] at before
      rcases before with early | last
      · exact .inl early
      · exact .inr (by simp [decodeFirst_ascii nonzero small last.symm])
    · exact .inr (List.mem_cons_of_mem _ ((decodeFirst_suffix byte rest).subset after))

theorem mem_of_mem_toText {bytes : Bytes} {c : Char} (nonzero : 0 < c.toNat)
    (small : c.toNat < 0x80) (member : c ∈ (toText bytes).toList) :
    UInt8.ofNat c.toNat ∈ bytes := by
  simpa using mem_of_mem_decodeOnto "" bytes nonzero small member

end Ascii
end SourceAtlas.Bytes
