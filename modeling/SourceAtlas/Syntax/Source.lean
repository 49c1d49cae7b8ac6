/-! Texts prepared for scanning. A place is a number of characters: place `i`
stands before the `i`-th character, so every place is a character boundary, and
the last place is the end of the text. -/
namespace SourceAtlas.Syntax

structure Source where
  chars : Array Char

/-- Where something stands in a text: lines and columns count from one, and a
column counts the bytes of its line. -/
structure Position where
  line : Nat
  column : Nat
deriving DecidableEq, Repr

/-- How far a stretch of text goes: its bytes, the rows that end in it, and the bytes
behind the last of them. -/
@[ext]
structure Length where
  bytes : Nat
  row : Nat
  column : Nat
deriving DecidableEq, Inhabited

namespace Length

instance : Zero Length := ⟨⟨0, 0, 0⟩⟩

/-- One stretch behind another. Columns only add up in one row. -/
instance : Add Length where
  add first second :=
    { bytes := first.bytes + second.bytes
      row := first.row + second.row
      column := if 0 < second.row then second.column else first.column + second.column }

/-- What is left of a stretch behind another one that it begins with. -/
instance : Sub Length where
  sub whole first :=
    { bytes := whole.bytes - first.bytes
      row := whole.row - first.row
      column := if first.row < whole.row then whole.column else whole.column - first.column }

/-- A stretch with one more character. -/
def push (length : Length) (c : Char) : Length :=
  { bytes := length.bytes + c.utf8Size
    row := if c = '\n' then length.row + 1 else length.row
    column := if c = '\n' then 0 else length.column + c.utf8Size }

/-- The position behind a stretch from the start of the text. -/
def toPosition (length : Length) : Position :=
  ⟨length.row + 1, length.column + 1⟩

end Length

namespace Source

def ofString (text : String) : Source :=
  ⟨text.toList.toArray⟩

def size (source : Source) : Nat :=
  source.chars.size

/-- The character after a place; at the end of the text it reads as NUL. -/
def peek (source : Source) (place : Nat) : Char :=
  source.chars.getD place '\x00'

def atEnd (source : Source) (place : Nat) : Bool :=
  source.chars.size ≤ place

/-- Moves over the text from one place to another one. -/
def advance (source : Source) (position : Length) (start stop : Nat) : Length :=
  source.chars.foldl Length.push position start stop

def skipWhile (source : Source) (keep : Char → Bool) (place : Nat) : Nat :=
  if h : place < source.chars.size then
    if keep source.chars[place] then source.skipWhile keep (place + 1) else place
  else place
termination_by source.chars.size - place

theorem le_skipWhile (source : Source) (keep : Char → Bool) (place : Nat) :
    place ≤ source.skipWhile keep place := by
  fun_induction skipWhile source keep place <;> omega

def slice (source : Source) (start stop : Nat) : String :=
  String.ofList (source.chars.extract start stop).toList

end Source

end SourceAtlas.Syntax
