/-! Sets of characters given by their borders. A sorted array of code points
lists, in turn, where the set begins and where it stops, so a code point is in
the set when an odd number of borders lies at or below it. -/
namespace SourceAtlas.Unicode

/-- How many of the borders between `low` and `high` are at most `point`, plus
`low`; the borders are sorted, so halving finds it. -/
def Spans.search (borders : Array Nat) (point : Nat) (low high : Nat) : Nat :=
  if low < high then
    let middle := (low + high) / 2
    if borders.getD middle 0 ≤ point then search borders point (middle + 1) high
    else search borders point low middle
  else low
termination_by high - low

def Spans.sums (total : Nat) : List Nat → List Nat
  | [] => []
  | gap :: gaps => (total + gap) :: sums (total + gap) gaps

/-- Borders by the gaps between them, the first one counted from zero. -/
def Spans.ofGaps (gaps : List Nat) : Array Nat :=
  (sums 0 gaps).toArray

/-- Borders by the gaps between them, where some gaps come several times in a row. -/
def Spans.ofRuns (runs : List (Nat × List Nat)) : Array Nat :=
  ofGaps (runs.flatMap fun run => (List.replicate run.1 run.2).flatten)

/-- A set of characters, by the borders of its spans. -/
structure Spans where
  borders : Array Nat

def Spans.contains (spans : Spans) (c : Char) : Bool :=
  search spans.borders c.toNat 0 spans.borders.size % 2 == 1

/-- The number kept with the last run that starts at or before a character. Runs are
sorted, and each is its start times 256 plus the number. -/
def Spans.valueAt (runs : Array Nat) (c : Char) : Nat :=
  runs.getD (search runs (c.toNat * 256 + 255) 0 runs.size - 1) 255 % 256

end SourceAtlas.Unicode
