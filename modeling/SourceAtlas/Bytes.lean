/-! Bytes and the text they are read as. Bytes that are no UTF-8 are replaced, one
replacement character for each longest piece that begins like a character. -/
namespace SourceAtlas

abbrev Bytes := List UInt8

namespace Bytes

def ofText (text : String) : Bytes :=
  text.toList.flatMap String.utf8EncodeChar

def replacement : Char := '�'

/-- What a byte announces that starts a character of several bytes: how many follow, the
bits that it holds itself, and the range of the first byte to follow. Later ones may be
any continuation byte. -/
structure Lead where
  following : Nat
  bits : Nat
  low : UInt8
  high : UInt8

/-- Ranges leave out characters in longer forms than needed, surrogates and what is
beyond the last character. -/
def lead? (byte : UInt8) : Option Lead :=
  let bits := byte.toNat
  if 0xC2 ≤ byte && byte ≤ 0xDF then some ⟨1, bits - 0xC0, 0x80, 0xBF⟩
  else if byte == 0xE0 then some ⟨2, bits - 0xE0, 0xA0, 0xBF⟩
  else if byte == 0xED then some ⟨2, bits - 0xE0, 0x80, 0x9F⟩
  else if 0xE1 ≤ byte && byte ≤ 0xEF then some ⟨2, bits - 0xE0, 0x80, 0xBF⟩
  else if byte == 0xF0 then some ⟨3, bits - 0xF0, 0x90, 0xBF⟩
  else if 0xF1 ≤ byte && byte ≤ 0xF3 then some ⟨3, bits - 0xF0, 0x80, 0xBF⟩
  else if byte == 0xF4 then some ⟨3, bits - 0xF0, 0x80, 0x8F⟩
  else none

/-- Reads the bytes that a lead announces. What comes after them is returned, also where
one of them is not as announced. -/
def finish (following bits : Nat) (low high : UInt8) : Bytes → Char × Bytes
  | [] => (if following = 0 then Char.ofNat bits else replacement, [])
  | byte :: rest =>
    match following with
    | 0 => (Char.ofNat bits, byte :: rest)
    | following + 1 =>
      if low ≤ byte && byte ≤ high then
        finish following (bits * 64 + byte.toNat % 64) 0x80 0xBF rest
      else (replacement, byte :: rest)

def decodeFirst (byte : UInt8) (rest : Bytes) : Char × Bytes :=
  if byte < 0x80 then (Char.ofNat byte.toNat, rest)
  else
    match lead? byte with
    | some lead => finish lead.following lead.bits lead.low lead.high rest
    | none => (replacement, rest)

theorem length_finish_le (following bits : Nat) (low high : UInt8) (bytes : Bytes) :
    (finish following bits low high bytes).2.length ≤ bytes.length := by
  fun_induction finish following bits low high bytes <;> simp_all
  omega

theorem length_decodeFirst_le (byte : UInt8) (rest : Bytes) :
    (decodeFirst byte rest).2.length ≤ rest.length := by
  unfold decodeFirst
  split
  · simp
  · split
    · exact length_finish_le ..
    · simp

def decodeOnto (text : String) : Bytes → String
  | [] => text
  | byte :: rest =>
    have := length_decodeFirst_le byte rest
    decodeOnto (text.push (decodeFirst byte rest).1) (decodeFirst byte rest).2
termination_by bytes => bytes.length

def toText (bytes : Bytes) : String :=
  decodeOnto "" bytes

def toText? (bytes : Bytes) : Option String :=
  let text := toText bytes
  if ofText text = bytes then some text else none

end Bytes

end SourceAtlas
