import SourceAtlas.Syntax.Source
import Mathlib.Algebra.Group.Defs

/-! Lengths of stretches of a text. The length of two stretches side by side is the sum of their lengths, so what a
reader counts on its way does not depend on where it began to count. -/
namespace SourceAtlas.Syntax

namespace Length
variable (first second : Length) (c : Char)

@[simp] theorem bytes_zero : (0 : Length).bytes = 0 := rfl

@[simp] theorem row_zero : (0 : Length).row = 0 := rfl

@[simp] theorem column_zero : (0 : Length).column = 0 := rfl

@[simp] theorem bytes_add : (first + second).bytes = first.bytes + second.bytes := rfl

@[simp] theorem row_add : (first + second).row = first.row + second.row := rfl

@[simp] theorem column_add : (first + second).column =
    if 0 < second.row then second.column else first.column + second.column := rfl

theorem push_eq_add : first.push c = first + push 0 c := by
  by_cases line : c = '\n'
  all_goals ext <;> simp [push, line]

instance : AddMonoid Length where
  add_assoc a b c := by
    ext
    · exact Nat.add_assoc _ _ _
    · exact Nat.add_assoc _ _ _
    · simp only [column_add, row_add]
      split <;> split <;> grind
  zero_add a := by ext <;> simp
  add_zero a := by ext <;> simp
  nsmul := nsmulRec

theorem add_sub_cancel_left : first + second - first = second := by
  ext
  · exact Nat.add_sub_cancel_left _ _
  · exact Nat.add_sub_cancel_left _ _
  · change (if first.row < first.row + second.row then (first + second).column
      else (first + second).column - first.column) = second.column
    by_cases rows : 0 < second.row <;> simp [rows]

end Length

namespace Source
variable (source : Source)

def between (start stop : Nat) : Length :=
  source.advance 0 start stop

theorem advance_eq_foldl (position : Length) (start stop : Nat) :
    source.advance position start stop = (source.chars.extract start stop).toList.foldl Length.push position := by
  rw [advance, Array.foldl_eq_foldl_extract, Array.foldl_toList]

theorem foldl_push_eq (position : Length) (chars : List Char) :
    chars.foldl Length.push position = position + chars.foldl Length.push 0 := by
  induction chars generalizing position with
  | nil => exact (add_zero position).symm
  | cons c chars ih =>
    rw [List.foldl_cons, List.foldl_cons, ih, ih (Length.push 0 c), Length.push_eq_add, add_assoc]

theorem advance_eq (position : Length) (start stop : Nat) :
    source.advance position start stop = position + source.between start stop := by
  rw [between, advance_eq_foldl, advance_eq_foldl, foldl_push_eq]

@[simp] theorem between_self (place : Nat) : source.between place place = 0 := by
  simp [between, advance_eq_foldl]

theorem between_add {start middle stop : Nat} (first : start ≤ middle) (second : middle ≤ stop) :
    source.between start middle + source.between middle stop = source.between start stop := by
  rw [← advance_eq, between, between, advance_eq_foldl, advance_eq_foldl, advance_eq_foldl, ← List.foldl_append,
    ← Array.toList_append, Array.extract_append_extract, Nat.min_eq_left first, Nat.max_eq_right second]

end Source

end SourceAtlas.Syntax
