import SourceAtlas.Proofs.PythonTokens
import SourceAtlas.Proofs.TreeNodes
import SourceAtlas.Proofs.Utf8
import SourceAtlas.Python.Reading

/-! Where a syntax error is reported. Every node of a parse stands within the text, and the lengths that are added up in
front of it are those of the text in front of it. So the reported line and column are those of a byte of the text at
which a character starts, or of its end. Errors of a parse are flagged on the way to them and positions do not go back,
so that the more kinds are rejected, the earlier a text is. -/
namespace SourceAtlas.Syntax

def lineEnd : UInt8 := 0x0A

def byteOffset (text : String) (place : Nat) : Nat :=
  (Bytes.ofText (String.ofList (text.toList.take place))).length

/-- A position names a byte of a text, one at which a character starts, or the end of the text. Its line is counted by
the line ends in front of it, its column by the bytes behind the last of them. -/
structure Designates (text : String) (offset : Nat) (position : Position) : Prop where
  inside : offset ≤ (Bytes.ofText text).length
  boundary : ∃ before after, text = before ++ after ∧ offset = (Bytes.ofText before).length
  line : position.line = ((Bytes.ofText text).take offset).count lineEnd + 1
  column : position.column = (((Bytes.ofText text).take offset).reverse.takeWhile (· != lineEnd)).length + 1

section Encoding

theorem lineEnd_mem_encode {c : Char} : lineEnd ∈ String.utf8EncodeChar c ↔ c = '\n' := by
  constructor
  · intro member
    by_cases small : c.toNat < 0x80
    · rw [Bytes.encode_ascii small, List.mem_singleton] at member
      have same : c.toNat = '\n'.toNat := by
        have value := congrArg UInt8.toNat member
        rw [UInt8.toNat_ofNat', Nat.mod_eq_of_lt (by omega)] at value
        exact value.symm
      exact Char.toNat_inj.mp same
    · exact absurd (Bytes.le_of_mem_encode (Nat.not_lt.mp small) member) (by decide)
  · rintro rfl
    decide

theorem encode_lineEnd : String.utf8EncodeChar '\n' = [lineEnd] := by decide

/-- The length of a stretch of text, read off its bytes. -/
def Length.ofBytes (bytes : List UInt8) : Length :=
  ⟨bytes.length, bytes.count lineEnd, (bytes.reverse.takeWhile (· != lineEnd)).length⟩

theorem Length.push_ofBytes (bytes : List UInt8) (c : Char) :
    (ofBytes bytes).push c = ofBytes (bytes ++ String.utf8EncodeChar c) := by
  have size : (bytes ++ String.utf8EncodeChar c).length = bytes.length + c.utf8Size := by
    rw [List.length_append, String.length_utf8EncodeChar]
  by_cases line : c = '\n'
  · subst line
    ext
    · exact size.symm
    · simp [ofBytes, push, encode_lineEnd]
    · simp [ofBytes, push, encode_lineEnd]
  · have other : ∀ byte ∈ (String.utf8EncodeChar c).reverse, (byte != lineEnd) = true := by
      intro byte member
      rw [bne_iff_ne]
      rintro rfl
      exact line (lineEnd_mem_encode.mp (List.mem_reverse.mp member))
    ext
    · exact size.symm
    · simp [ofBytes, push, line, List.count_eq_zero.mpr fun member => line (lineEnd_mem_encode.mp member)]
    · simp only [ofBytes, push, if_neg line, List.reverse_append, List.takeWhile_append_of_pos other, List.length_append,
        List.length_reverse, String.length_utf8EncodeChar]
      exact Nat.add_comm _ _

theorem Length.foldl_push_ofBytes (chars : List Char) (bytes : List UInt8) :
    chars.foldl push (ofBytes bytes) = ofBytes (bytes ++ chars.flatMap String.utf8EncodeChar) := by
  induction chars generalizing bytes with
  | nil => rw [List.flatMap_nil, List.append_nil, List.foldl_nil]
  | cons c chars ih => rw [List.foldl_cons, push_ofBytes, ih, List.flatMap_cons, List.append_assoc]

/-- What is counted character by character from the start of a text is what can be counted in its bytes. -/
theorem between_ofString (text : String) (place : Nat) : (Source.ofString text).between 0 place =
    .ofBytes (Bytes.ofText (String.ofList (text.toList.take place))) := by
  rw [Source.between, Source.advance_eq_foldl, Array.toList_extract, List.extract_eq_take_drop, List.drop_zero,
    Bytes.ofText, String.toList_ofList]
  exact Length.foldl_push_ofBytes (text.toList.take place) []

theorem designates_between (text : String) (place : Nat) :
    Designates text ((Source.ofString text).between 0 place).bytes ((Source.ofString text).between 0 place).toPosition := by
  have split : text = String.ofList (text.toList.take place) ++ String.ofList (text.toList.drop place) := by
    rw [← String.ofList_append, List.take_append_drop, String.ofList_toList]
  have bytes : Bytes.ofText text = Bytes.ofText (String.ofList (text.toList.take place)) ++
      Bytes.ofText (String.ofList (text.toList.drop place)) := by
    simp only [Bytes.ofText, String.toList_ofList]
    rw [← List.flatMap_append, List.take_append_drop]
  rw [between_ofString]
  generalize String.ofList (text.toList.take place) = before at split bytes
  have front : (Bytes.ofText text).take (Length.ofBytes (Bytes.ofText before)).bytes = Bytes.ofText before := by
    rw [bytes]
    exact List.take_left ..
  refine ⟨?_, ⟨before, _, split, rfl⟩, ?_, ?_⟩
  · rw [bytes, List.length_append]
    exact Nat.le_add_right _ _
  · rw [front]
    rfl
  · rw [front]
    rfl

end Encoding

theorem Whole.flagged {σ : Type} {language : Language σ} {source : Source} {root : Nat} {tree : Tree σ}
    (whole : Whole language source root tree) : (tree.toNode language).Flagged := by
  refine whole.measured.flagged whole.origin (fun gathered => ?_) fun error => Nat.pos_of_ne_zero fun free => ?_
  · rcases whole.label with other | other <;> simp [gathered] at other
  · obtain ⟨⟨rule, -, fills⟩, -⟩ := whole.derives free
    exact absurd (error.symm.trans fills.label) (by simp)

end SourceAtlas.Syntax

namespace SourceAtlas.Python
open SourceAtlas.Syntax

/-- Rejecting two lists of kinds together, a text is rejected at the earlier of the positions for each of them. -/
theorem parse_append_eq_error_iff (source : Source) (first second : List String) (position : Position) :
    parse (first ++ second) source = .error position ↔
      (parse first source = .error position ∧ ∀ other, parse second source = .error other → position ≤ other) ∨
      (parse second source = .error position ∧ ∀ other, parse first source = .error other → position ≤ other) :=
  have whole := whole_parse source
  whole.flagged.checked_append_eq_error_iff (whole.measured.toNode whole.origin).ascends

/-- A rejected text is rejected for a node of its parse, which starts within the text. What was added up for it along the
tree comes to the bytes in front of it, and the reported position designates the byte with which it starts. -/
theorem parse_error_designates (text : String) (rejected : List String) {position : Position}
    (failed : parse rejected (.ofString text) = .error position) :
    ∃ node, ((Parser.parse language (.ofString text)).toNode language).offender? rejected = some node ∧
      position = node.position.toPosition ∧ node.start ≤ text.length ∧
      node.position.bytes = byteOffset text node.start ∧ Designates text node.position.bytes position := by
  have whole := whole_parse (.ofString text)
  obtain ⟨node, found, rfl, stands⟩ := whole.measured.of_checked whole.origin failed
  refine ⟨node, found, rfl, ?_, ?_, ?_⟩
  · have inside := Nat.le_trans stands.order stands.inside
    rwa [Source.size, Source.ofString, List.size_toArray, String.length_toList] at inside
  · rw [stands.position, between_ofString]
    rfl
  · rw [stands.position]
    exact designates_between text node.start

def rejectedAt : Except Position Node → Option Position
  | .error position => some position
  | .ok _ => none

theorem eq_error_of_rejectedAt {outcome : Except Position Node} {position : Position}
    (rejected : rejectedAt outcome = some position) : outcome = .error position := by
  cases outcome with
  | error other => rw [Option.some.inj rejected]
  | ok node => cases rejected

set_option maxRecDepth 100000 in
theorem parse_error_designates_second : parse [] (.ofString "é\r\n\té;é é") = .error ⟨2, 5⟩ ∧
    ∃ node, ((Parser.parse language (.ofString "é\r\n\té;é é")).toNode language).offender? [] = some node ∧
      ⟨2, 5⟩ = node.position.toPosition ∧ node.start ≤ "é\r\n\té;é é".length ∧
      node.position.bytes = byteOffset "é\r\n\té;é é" node.start ∧ Designates "é\r\n\té;é é" node.position.bytes ⟨2, 5⟩ := by
  have failed : parse [] (.ofString "é\r\n\té;é é") = .error ⟨2, 5⟩ := by
    rw [parse_eq_listed]
    apply eq_error_of_rejectedAt
    decide +kernel
  exact ⟨failed, parse_error_designates _ _ failed⟩

end SourceAtlas.Python
