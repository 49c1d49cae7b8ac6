/-! How alike two words are. -/
namespace SourceAtlas.Text

/-- Marks the first unmarked occurrence of a character whose index is in a range. The
index of the first character is given. -/
def mark (c : Char) (low high : Nat) : Nat → List (Char × Bool) → Option (List (Char × Bool))
  | _, [] => none
  | index, (other, marked) :: rest =>
    if low ≤ index && index ≤ high && other = c && !marked then some ((other, true) :: rest)
    else (mark c low high (index + 1) rest).map ((other, marked) :: ·)

/-- Pairs the characters of a word off with those of another at most so far away. Returns
those that found a partner, and the other word with the partners marked. -/
def pairOff (range : Nat) : Nat → List Char → List (Char × Bool) → List Char × List (Char × Bool)
  | _, [], other => ([], other)
  | index, c :: rest, other =>
    match mark c (index - range) (index + range) 0 other with
    | some marked =>
      let (paired, result) := pairOff range (index + 1) rest marked
      (c :: paired, result)
    | none => pairOff range (index + 1) rest other

/-- The share of characters that two words have in common at near places, lowered for
those in another order; one for equal words and zero for words with nothing in common. -/
def similarity (left right : String) : Float :=
  let range := max left.length right.length / 2 - 1
  let (paired, other) := pairOff range 0 left.toList (right.toList.map (·, false))
  let partners := (other.filter (·.2)).map (·.1)
  let moved := ((paired.zip partners).filter fun (a, b) => a ≠ b).length / 2
  let count := paired.length
  if left.isEmpty && right.isEmpty then 1
  else if count = 0 then 0
  else
    (count.toFloat / left.length.toFloat + count.toFloat / right.length.toFloat +
      (count - moved).toFloat / count.toFloat) / 3

/-- The word that is most like a given one, if any is enough like it; of several the
last. -/
def closest? (word : String) (candidates : List String) : Option String :=
  ((candidates.map fun candidate => (similarity word candidate, candidate)).foldl
    (fun best (likeness, candidate) =>
      if likeness ≤ 0.7 then best
      else
        match best with
        | some (highest, _) => if likeness < highest then best else some (likeness, candidate)
        | none => some (likeness, candidate))
    none).map (·.2)

end SourceAtlas.Text
