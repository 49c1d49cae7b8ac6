import SourceAtlas.Proofs.Survey

/-! Texts that are read from any bytes. Each character of such a text comes from its own UTF-8 form or from bytes that
belong to no character and are all above ASCII, so what is replaced never reaches over an ASCII byte. -/
namespace SourceAtlas.Bytes

section Pieces

/-- The bytes that one character of a text is read from. -/
inductive Piece : Bytes → Char → Prop
  | form (c : Char) : Piece (String.utf8EncodeChar c) c
  | broken {bytes : Bytes} (large : ∀ byte ∈ bytes, 0x80 ≤ byte.toNat) : Piece bytes replacement

def Continues (low high : UInt8) : Bytes → Prop
  | [] => True
  | byte :: rest => (low.toNat ≤ byte.toNat ∧ byte.toNat ≤ high.toNat) ∧
      ∀ later ∈ rest, 0x80 ≤ later.toNat ∧ later.toNat ≤ 0xBF

theorem Continues.range {low high : UInt8} {bytes : Bytes} (continues : Continues low high bytes)
    (lower : 0x80 ≤ low.toNat) (upper : high.toNat ≤ 0xBF) : ∀ byte ∈ bytes, 0x80 ≤ byte.toNat ∧ byte.toNat ≤ 0xBF := by
  cases bytes with
  | nil => simp
  | cons first rest =>
    obtain ⟨⟨above, below⟩, later⟩ := continues
    exact List.forall_mem_cons.mpr ⟨by omega, later⟩

def value (bits : Nat) (bytes : Bytes) : Nat :=
  bytes.foldl (fun number byte => number * 64 + byte.toNat % 64) bits

/-- As many bytes are taken as continue a lead, and either they are all that were announced or they are replaced. -/
theorem finish_takes (following bits : Nat) (low high : UInt8) (bytes : Bytes) : ∃ taken,
    bytes = taken ++ (finish following bits low high bytes).2 ∧ Continues low high taken ∧
      (taken.length = following ∧ (finish following bits low high bytes).1 = Char.ofNat (value bits taken) ∨
        (finish following bits low high bytes).1 = replacement) := by
  fun_induction finish following bits low high bytes with
  | case1 following bits =>
    refine ⟨[], rfl, trivial, ?_⟩
    by_cases done : following = 0
    · exact .inl ⟨done.symm, by simp [done, value]⟩
    · exact .inr (by simp [done])
  | case2 bits low high byte rest => exact ⟨[], rfl, trivial, .inl ⟨rfl, rfl⟩⟩
  | case3 bits low high byte rest following inside ih =>
    obtain ⟨taken, split, continues, outcome⟩ := ih
    simp only [UInt8.le_iff_toNat_le, Bool.and_eq_true, decide_eq_true_eq] at inside
    refine ⟨byte :: taken, congrArg (byte :: ·) split, ⟨inside, continues.range (by decide) (by decide)⟩, ?_⟩
    exact outcome.imp_left fun whole => ⟨congrArg (· + 1) whole.1, whole.2⟩
  | case4 => exact ⟨[], rfl, trivial, .inr rfl⟩

theorem lead_range {byte : UInt8} {lead : Lead} (announced : lead? byte = some lead) :
    0x80 ≤ lead.low.toNat ∧ lead.high.toNat ≤ 0xBF := by
  unfold lead? at announced
  dsimp only at announced
  split_ifs at announced <;> cases announced <;> simp

section Forms
variable {byte second third fourth : UInt8} {bits : Nat}

private theorem encode_two (first : byte.toNat = bits + 0xC0) (low : 2 ≤ bits) (high : bits < 0x20)
    (continues : ∀ later ∈ [second], 0x80 ≤ later.toNat ∧ later.toNat ≤ 0xBF) :
    String.utf8EncodeChar (Char.ofNat (value bits [second])) = [byte, second] := by
  simp only [List.forall_mem_cons] at continues
  have number : value bits [second] = bits * 64 + second.toNat % 64 := rfl
  have known : (Char.ofNat (value bits [second])).val.toNat = value bits [second] :=
    toNat_ofNat_of_valid (.inl (by omega))
  rw [String.utf8EncodeChar, known]
  generalize value bits [second] = v at number ⊢
  rw [if_neg (by omega), if_pos (by omega)]
  simp only [List.cons.injEq, ← UInt8.toNat_inj, UInt8.toNat_ofNat', and_true]
  omega

private theorem encode_three (first : byte.toNat = bits + 0xE0) (high : bits < 0x10)
    (continues : ∀ later ∈ [second, third], 0x80 ≤ later.toNat ∧ later.toNat ≤ 0xBF)
    (long : 0x20 ≤ value bits [second]) (scalar : value bits [second] < 0x360 ∨ 0x37F < value bits [second]) :
    String.utf8EncodeChar (Char.ofNat (value bits [second, third])) = [byte, second, third] := by
  simp only [List.forall_mem_cons] at continues
  have top : value bits [second] = bits * 64 + second.toNat % 64 := rfl
  have number : value bits [second, third] = value bits [second] * 64 + third.toNat % 64 := rfl
  have known : (Char.ofNat (value bits [second, third])).val.toNat = value bits [second, third] :=
    toNat_ofNat_of_valid (show _ < 0xD800 ∨ 0xDFFF < _ ∧ _ < 0x110000 by omega)
  rw [String.utf8EncodeChar, known]
  generalize value bits [second, third] = v at number ⊢
  rw [if_neg (by omega), if_neg (by omega), if_pos (by omega)]
  simp only [List.cons.injEq, ← UInt8.toNat_inj, UInt8.toNat_ofNat', and_true]
  omega

private theorem encode_four (first : byte.toNat = bits + 0xF0)
    (continues : ∀ later ∈ [second, third, fourth], 0x80 ≤ later.toNat ∧ later.toNat ≤ 0xBF)
    (long : 0x10 ≤ value bits [second]) (last : value bits [second] < 0x110) :
    String.utf8EncodeChar (Char.ofNat (value bits [second, third, fourth])) = [byte, second, third, fourth] := by
  simp only [List.forall_mem_cons] at continues
  have top : value bits [second] = bits * 64 + second.toNat % 64 := rfl
  have number : value bits [second, third, fourth] =
    (value bits [second] * 64 + third.toNat % 64) * 64 + fourth.toNat % 64 := rfl
  have known : (Char.ofNat (value bits [second, third, fourth])).val.toNat = value bits [second, third, fourth] :=
    toNat_ofNat_of_valid (show _ < 0xD800 ∨ 0xDFFF < _ ∧ _ < 0x110000 by omega)
  rw [String.utf8EncodeChar, known]
  generalize value bits [second, third, fourth] = v at number ⊢
  rw [if_neg (by omega), if_neg (by omega), if_neg (by omega)]
  simp only [List.cons.injEq, ← UInt8.toNat_inj, UInt8.toNat_ofNat', and_true]
  omega

theorem encode_of_lead {lead : Lead} {taken : Bytes} (announced : lead? byte = some lead)
    (continues : Continues lead.low lead.high taken) (whole : taken.length = lead.following) :
    String.utf8EncodeChar (Char.ofNat (value lead.bits taken)) = byte :: taken := by
  have range : 0x80 ≤ lead.low.toNat ∧ lead.high.toNat ≤ 0xBF := lead_range announced
  have all := continues.range range.1 range.2
  simp only [lead?, UInt8.le_iff_toNat_le, Bool.and_eq_true, decide_eq_true_eq, beq_iff_eq,
    ← UInt8.toNat_inj, UInt8.reduceToNat] at announced
  split_ifs at announced <;> cases announced <;> dsimp only at continues whole ⊢
  · obtain ⟨second, rfl⟩ := List.length_eq_one_iff.mp whole
    exact encode_two (by omega) (by omega) (by omega) all
  iterate 3
    obtain ⟨second, third, rfl⟩ := List.length_eq_two.mp whole
    have first := continues.1
    simp only [UInt8.reduceToNat] at first
    have top (bits : Nat) : value bits [second] = bits * 64 + second.toNat % 64 := rfl
    exact encode_three (by omega) (by omega) all (by rw [top]; omega) (by rw [top]; omega)
  iterate 3
    obtain ⟨second, third, fourth, rfl⟩ := List.length_eq_three.mp whole
    have first := continues.1
    simp only [UInt8.reduceToNat] at first
    have top (bits : Nat) : value bits [second] = bits * 64 + second.toNat % 64 := rfl
    exact encode_four (by omega) all (by rw [top]; omega) (by rw [top]; omega)

end Forms

theorem decodeFirst_piece (byte : UInt8) (rest : Bytes) : ∃ taken,
    byte :: rest = taken ++ (decodeFirst byte rest).2 ∧ Piece taken (decodeFirst byte rest).1 := by
  by_cases small : byte.toNat < 0x80
  · have below : byte < 0x80 := by simpa [UInt8.lt_iff_toNat_lt] using small
    have number : (Char.ofNat byte.toNat).toNat = byte.toNat := toNat_ofNat_of_valid (.inl (by omega))
    have form : String.utf8EncodeChar (Char.ofNat byte.toNat) = [byte] := by
      rw [encode_ascii (by omega), number, UInt8.ofNat_toNat]
    refine ⟨[byte], ?_, ?_⟩
    · rw [decodeFirst, if_pos below]
      rfl
    · rw [decodeFirst, if_pos below, ← form]
      exact .form _
  have large : 0x80 ≤ byte.toNat := Nat.le_of_not_lt small
  cases announced : lead? byte with
  | none =>
    have replaced : decodeFirst byte rest = (replacement, rest) := by
      have notBelow : ¬ byte < 0x80 := by simpa [UInt8.lt_iff_toNat_lt] using large
      rw [decodeFirst, if_neg notBelow, announced]
    rw [replaced]
    exact ⟨[byte], rfl, .broken (List.forall_mem_singleton.mpr large)⟩
  | some lead =>
    rw [decodeFirst_of_lead rest large announced]
    obtain ⟨taken, split, continues, outcome⟩ := finish_takes lead.following lead.bits lead.low lead.high rest
    refine ⟨byte :: taken, congrArg (byte :: ·) split, ?_⟩
    rcases outcome with ⟨whole, read⟩ | replaced
    · rw [read, ← encode_of_lead announced continues whole]
      exact .form _
    · obtain ⟨lower, upper⟩ := lead_range announced
      rw [replaced]
      exact .broken (List.forall_mem_cons.mpr ⟨large, fun later member => (continues.range lower upper later member).1⟩)

end Pieces

section Runs

/-- What holds of no bytes, and of bytes if it holds of those after their first character, holds of all. -/
theorem decode_induction {motive : Bytes → Prop} (nil : motive [])
    (step : ∀ byte rest, motive (decodeFirst byte rest).2 → motive (byte :: rest)) (bytes : Bytes) : motive bytes := by
  induction size : bytes.length using Nat.strongRecOn generalizing bytes with
  | ind size ih =>
    cases bytes with
    | nil => exact nil
    | cons byte rest =>
      have shorter := length_decodeFirst_le byte rest
      rw [List.length_cons] at size
      exact step byte rest (ih _ (by omega) _ rfl)

theorem decodeOnto_append (front text : String) (bytes : Bytes) :
    decodeOnto (front ++ text) bytes = front ++ decodeOnto text bytes := by
  fun_induction decodeOnto text bytes with
  | case1 text => rw [decodeOnto]
  | case2 text byte rest _ ih =>
    rw [decodeOnto, ← ih, ← String.append_singleton, String.append_assoc, String.append_singleton]

theorem toText_nil : toText [] = "" := by
  rw [toText, decodeOnto]

theorem toText_cons (byte : UInt8) (rest : Bytes) :
    toText (byte :: rest) = String.singleton (decodeFirst byte rest).1 ++ toText (decodeFirst byte rest).2 := by
  rw [toText, decodeOnto, toText, ← decodeOnto_append]
  congr 1
  apply String.toList_inj.mp
  simp

theorem Piece.ascii {taken : Bytes} {c : Char} (piece : Piece taken c) :
    [c].filter (·.toNat < 0x80) = (taken.filter (·.toNat < 0x80)).map fun byte => Char.ofNat byte.toNat := by
  cases piece with
  | form =>
    by_cases small : c.toNat < 0x80
    · have same : (UInt8.ofNat c.toNat).toNat = c.toNat := by
        rw [UInt8.toNat_ofNat']
        omega
      simp [encode_ascii small, same, small, -UInt8.toNat_ofNat']
    · have none : (String.utf8EncodeChar c).filter (·.toNat < 0x80) = [] := by
        simpa using fun byte member => le_of_mem_encode (Nat.le_of_not_lt small) member
      rw [none]
      simpa using Nat.le_of_not_lt small
  | broken large =>
    have none : taken.filter (·.toNat < 0x80) = [] := by simpa using large
    rw [none]
    decide

/-- The ASCII characters of a text are the bytes below 128 that it is read from, in their order. -/
theorem ascii_toText (bytes : Bytes) : (toText bytes).toList.filter (·.toNat < 0x80) =
    (bytes.filter (·.toNat < 0x80)).map fun byte => Char.ofNat byte.toNat := by
  induction bytes using decode_induction with
  | nil => simp [toText_nil]
  | step byte rest ih =>
    obtain ⟨taken, split, piece⟩ := decodeFirst_piece byte rest
    rw [toText_cons, String.toList_append, String.toList_singleton, List.filter_append, piece.ascii, ih, split,
      List.filter_append, List.map_append]

theorem ofText_toText_of_intact {bytes : Bytes} (intact : replacement ∉ (toText bytes).toList) :
    ofText (toText bytes) = bytes := by
  induction bytes using decode_induction with
  | nil => rw [toText_nil]; rfl
  | step byte rest ih =>
    obtain ⟨taken, split, piece⟩ := decodeFirst_piece byte rest
    rw [toText_cons, String.toList_append, String.toList_singleton, List.singleton_append, List.mem_cons, not_or] at intact
    have form : taken = String.utf8EncodeChar (decodeFirst byte rest).1 := by
      generalize (decodeFirst byte rest).1 = first at piece intact ⊢
      cases piece with
      | form => rfl
      | broken => exact absurd rfl intact.1
    have behind := ih intact.2
    rw [ofText] at behind ⊢
    rw [toText_cons, String.toList_append, String.toList_singleton, List.singleton_append, List.flatMap_cons, behind,
      ← form, split]

end Runs

section Cuts

theorem toText_ofText_append (text : String) (rest : Bytes) : toText (ofText text ++ rest) = text ++ toText rest := by
  obtain ⟨chars, rfl⟩ : ∃ chars, text = String.ofList chars := ⟨text.toList, by simp⟩
  rw [ofText, String.toList_ofList]
  induction chars with
  | nil => simp
  | cons c chars ih =>
    obtain ⟨byte, tail, encoded, decoded⟩ := decodeFirst_encode c (chars.flatMap String.utf8EncodeChar ++ rest)
    rw [List.flatMap_cons, List.append_assoc, encoded, List.cons_append, toText_cons, decoded, ih]
    apply String.toList_inj.mp
    simp

section Ascii
variable {ascii : UInt8} (small : ascii.toNat < 0x80) (more : Bytes)
include small

theorem finish_append (following bits : Nat) {low high : UInt8} (lower : 0x80 ≤ low.toNat) (bytes : Bytes) :
    finish following bits low high (bytes ++ ascii :: more) =
      ((finish following bits low high bytes).1, (finish following bits low high bytes).2 ++ ascii :: more) := by
  fun_induction finish following bits low high bytes with
  | case1 following bits low high =>
    have outside : ¬ low ≤ ascii := by
      rw [UInt8.le_iff_toNat_le]
      omega
    cases following <;> simp [finish, outside]
  | case2 bits low high byte rest => rfl
  | case3 bits low high byte rest following inside ih => rw [List.cons_append, finish, if_pos inside, ih (by decide)]
  | case4 bits low high byte rest following outside => rw [List.cons_append, finish, if_neg outside]

theorem decodeFirst_append (byte : UInt8) (rest : Bytes) : decodeFirst byte (rest ++ ascii :: more) =
    ((decodeFirst byte rest).1, (decodeFirst byte rest).2 ++ ascii :: more) := by
  unfold decodeFirst
  split
  · rfl
  cases announced : lead? byte with
  | none => rfl
  | some lead => exact finish_append small more _ _ (lead_range announced).1 rest

theorem toText_append_ascii (bytes : Bytes) :
    toText (bytes ++ ascii :: more) = toText bytes ++ toText (ascii :: more) := by
  induction bytes using decode_induction with
  | nil => simp [toText_nil]
  | step byte rest ih =>
    rw [List.cons_append, toText_cons, decodeFirst_append small, ih, toText_cons byte rest, String.append_assoc]

end Ascii

/-- Bytes that can be read apart: the first are a text, or the second start with an ASCII byte. -/
def Parted (first second : Bytes) : Prop :=
  IsText first ∨ ∃ byte ∈ second.head?, byte.toNat < 0x80

theorem Parted.toText_append {first second : Bytes} (parted : Parted first second) :
    toText (first ++ second) = toText first ++ toText second := by
  rcases parted with ⟨text, rfl⟩ | ⟨byte, starts, small⟩
  · rw [toText_ofText_append, toText_ofText]
  · obtain ⟨more, rfl⟩ := List.head?_eq_some_iff.mp starts
    exact toText_append_ascii small more first

theorem splitOn_toText (bytes : Bytes) :
    (toText bytes).toList.splitOn '\n' = (bytes.splitOn 0x0A).map fun line => (toText line).toList := by
  induction size : bytes.length using Nat.strongRecOn generalizing bytes with
  | ind size ih =>
    by_cases newline : (0x0A : UInt8) ∈ bytes
    · obtain ⟨first, rest, rfl⟩ := List.append_of_mem newline
      rw [List.length_append, List.length_cons] at size
      have ended : toText (0x0A :: rest) = "\n" ++ toText rest := toText_ofText_append "\n" rest
      rw [List.splitOn_append_cons_self, toText_append_ascii (by decide), ended, String.toList_append,
        String.toList_append, List.map_append, ← ih first.length (by omega) first rfl,
        ← ih rest.length (by omega) rest rfl]
      exact List.splitOn_append_cons_self ..
    · have single : '\n' ∉ (toText bytes).toList := fun inside =>
        newline (mem_of_mem_toText (by decide) (by decide) inside)
      rw [List.splitOn_eq_singleton newline, List.splitOn_eq_singleton single]
      rfl

end Cuts

end SourceAtlas.Bytes

namespace SourceAtlas
open Bytes

section Files
variable {fs : FileSystem} {path : Path} {content : Bytes}

theorem openEntry_of_read (readable : fs.read path = .ok content) :
    ∃ location locked, fs.openEntry path = .ok (location, .file content locked) := by
  unfold FileSystem.read at readable
  cases opened : fs.openEntry path with
  | error fault =>
    rw [opened] at readable
    cases readable
  | ok found =>
    rw [opened] at readable
    rcases found with ⟨location, entry⟩
    cases entry with
    | file other locked =>
      obtain rfl : other = content := Except.ok.inj readable
      exact ⟨location, locked, rfl⟩
    | directory | link => cases readable

theorem readText_of_read (readable : fs.read path = .ok content) {limit : Option Nat}
    (within : ∀ most ∈ limit, content.length ≤ most) : readText fs limit path = .ok (toText content) := by
  obtain ⟨location, locked, opened⟩ := openEntry_of_read readable
  exact (HasText.intro opened within).readText

theorem readText_tooLarge (readable : fs.read path = .ok content) {most : Nat} (above : most < content.length) :
    readText fs (some most) path = .error (.tooLarge path content.length most) := by
  obtain ⟨location, locked, opened⟩ := openEntry_of_read readable
  exact (LacksText.tooLarge (status_of_openEntry opened) rfl above).readText

/-- Reading a file that can be read fails only if it is larger than a limit; else its bytes are read as a text. Any
bytes are: UTF-8 as it is, ASCII bytes as themselves and in their order, and parts that begin with an ASCII byte or
come after a text, such as lines, apart from what is in front of them. -/
theorem readText_lossy (readable : fs.read path = .ok content) (limit : Option Nat) :
    (∀ problem, readText fs limit path = .error problem ↔
      ∃ most, limit = some most ∧ most < content.length ∧ problem = .tooLarge path content.length most) ∧
    ((∀ most ∈ limit, content.length ≤ most) → readText fs limit path = .ok (toText content)) ∧
    ∀ bytes : Bytes,
      (IsText bytes → ofText (toText bytes) = bytes) ∧
      (toText bytes).toList.filter (·.toNat < 0x80) =
        (bytes.filter (·.toNat < 0x80)).map (fun byte => Char.ofNat byte.toNat) ∧
      toText (ofText (toText bytes)) = toText bytes ∧
      (∀ first second, bytes = first ++ second → Parted first second →
        toText bytes = toText first ++ toText second) ∧
      (toText bytes).toList.splitOn '\n' = (bytes.splitOn 0x0A).map fun line => (toText line).toList := by
  refine ⟨fun problem => ⟨fun failed => ?_, ?_⟩, readText_of_read readable, fun bytes => ?_⟩
  · by_cases within : ∀ most ∈ limit, content.length ≤ most
    · rw [readText_of_read readable within] at failed
      cases failed
    · push Not at within
      obtain ⟨most, rfl, above⟩ := within
      rw [readText_tooLarge readable above] at failed
      exact ⟨most, rfl, above, (Except.error.inj failed).symm⟩
  · rintro ⟨most, rfl, above, rfl⟩
    exact readText_tooLarge readable above
  · refine ⟨IsText.ofText_toText, ascii_toText bytes, toText_ofText _, ?_, splitOn_toText bytes⟩
    rintro first second rfl parted
    exact parted.toText_append

/-- A file `t` in which a character breaks off before the end of a line, and a byte that starts none follows. -/
def brokenSystem : FileSystem where
  top := .directory [([0x74], .file [0x61, 0xE2, 0x82, 0x0A, 0xFF, 0x62] false)] false
  working := []

theorem readText_lossy_broken : brokenSystem.read [0x74] = .ok [0x61, 0xE2, 0x82, 0x0A, 0xFF, 0x62] ∧
    readText brokenSystem (some 5) [0x74] = .error (.tooLarge [0x74] 6 5) ∧
    readText brokenSystem (some 6) [0x74] = .ok "a\uFFFD\n\uFFFDb" ∧
    Parted [0x61, 0xE2, 0x82] [0x0A, 0xFF, 0x62] ∧
    toText [0x61, 0xE2, 0x82] ++ toText [0x0A, 0xFF, 0x62] = "a\uFFFD\n\uFFFDb" := by
  have readable : brokenSystem.read [0x74] = .ok [0x61, 0xE2, 0x82, 0x0A, 0xFF, 0x62] := rfl
  have text : toText [0x61, 0xE2, 0x82, 0x0A, 0xFF, 0x62] = "a\uFFFD\n\uFFFDb" := by decide +kernel
  have parted : Parted [0x61, 0xE2, 0x82] [0x0A, 0xFF, 0x62] := .inr ⟨0x0A, rfl, by decide⟩
  have lossy := readText_lossy readable (some 6)
  refine ⟨readable, ((readText_lossy readable (some 5)).1 _).mpr ⟨5, rfl, by decide, rfl⟩, ?_, parted, ?_⟩
  · rw [lossy.2.1 (by simp), text]
  · rw [← (lossy.2.2 _).2.2.2.1 _ _ rfl parted]
    exact text

end Files

end SourceAtlas
