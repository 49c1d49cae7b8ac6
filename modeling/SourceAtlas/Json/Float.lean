/-! Numbers with a fraction or an exponent: their values as double precision numbers, and
the shortest digits that stand for such a value. -/
namespace SourceAtlas.Json

/-- A positive double precision number `mantissa * 2 ^ exponent`; `narrow` marks those
whose smaller neighbour is only half as far away as the larger one. -/
structure Binary where
  mantissa : Nat
  exponent : Int
  narrow : Bool

namespace Binary

def ofFloat (value : Float) : Binary :=
  let bits := value.toBits.toNat
  let fraction := bits % 0x10000000000000
  let biased : Nat := bits / 0x10000000000000 % 0x800
  if biased = 0 then ⟨fraction, -1074, false⟩
  else ⟨fraction + 0x10000000000000, Int.ofNat biased - 1075, fraction = 0 && 1 < biased⟩

/-- The multiple of `10 ^ power` that is nearest to a number, if one of the two around it
reads back as that number. All values are compared as multiples of a quarter of the
distance to the larger neighbour. -/
def onGrid? (number : Binary) (power : Int) : Option Nat :=
  let quarter := number.exponent - 2
  let scale := Nat.pow 2 quarter.toNat * Nat.pow 10 (-power).toNat
  let unit := Nat.pow 2 (-quarter).toNat * Nat.pow 10 power.toNat
  let value := 4 * number.mantissa * scale
  let low := (if number.narrow then 4 * number.mantissa - 1 else 4 * number.mantissa - 2) * scale
  let high := (4 * number.mantissa + 2) * scale
  let inside := fun digits : Nat =>
    let point := digits * unit
    if number.mantissa % 2 = 0 then low ≤ point && point ≤ high else low < point && point < high
  let below := value / unit
  let above := below + 1
  match inside below && 0 < below, inside above with
  | true, true =>
    let toBelow := value - below * unit
    let toAbove := above * unit - value
    if toBelow < toAbove || (toBelow = toAbove && below % 2 = 0) then some below else some above
  | true, false => some below
  | false, true => some above
  | false, false => none

/-- The fewest digits that read back as a number, with the power of ten of the last one.
Powers are tried from large to small. -/
def shortestFrom (number : Binary) : (count : Nat) → (power : Int) → Nat × Int
  | 0, power => (number.mantissa, power)
  | count + 1, power =>
    match number.onGrid? power with
    | some digits => (digits, power)
    | none => shortestFrom number count (power - 1)

def shortest (number : Binary) : Nat × Int :=
  number.shortestFrom 640 309

end Binary

section Printing

/-- Where positional notation ends: the power of ten of the first digit is within these
bounds. -/
structure FloatFormat where
  leastPower : Int
  greatestPower : Int

/-- Positional from `0.00001` up to sixteen digits in front of the point. -/
def floatFormat : FloatFormat := ⟨-5, 15⟩

def zeros (count : Nat) : List Char := List.replicate count '0'

def positional (digits : List Char) (first : Int) : List Char :=
  if first < 0 then '0' :: '.' :: zeros (-first - 1).toNat ++ digits
  else
    let whole := first.toNat + 1
    if digits.length ≤ whole then digits ++ zeros (whole - digits.length) ++ ['.', '0']
    else digits.take whole ++ '.' :: digits.drop whole

/-- Digits with a point after the first one and an exponent of at least two digits. -/
def scientific (digits : List Char) (first : Int) : List Char :=
  let point := if digits.length = 1 then digits else digits.take 1 ++ '.' :: digits.drop 1
  let exponent := (toString first.natAbs).toList
  point ++ ['e', if first < 0 then '-' else '+'] ++ zeros (2 - exponent.length) ++ exponent

def floatText (value : Float) : String :=
  let sign := if value.toBits >>> 63 == 1 then "-" else ""
  if value == 0.0 then sign ++ "0.0"
  else
    let (digits, power) := (Binary.ofFloat value).shortest
    let chars := (toString digits).toList
    let first := power + (chars.length : Int) - 1
    let written :=
      if floatFormat.leastPower ≤ first && first ≤ floatFormat.greatestPower then
        positional chars first
      else scientific chars first
    sign ++ String.ofList written

end Printing

section Reading

def powerOfTen (power : Nat) : Float :=
  Float.ofScientific 1 false power

/-- Divides by powers of ten until the power is in the table of those up to `10 ^ 308`. -/
def scaleDown (value : Float) : (count : Nat) → (power : Nat) → Float
  | 0, _ => value
  | count + 1, power =>
    if power ≤ 308 then value / powerOfTen power
    else if value == 0.0 then value
    else scaleDown (value / powerOfTen 308) count (power - 308)

/-- The value of `significand * 10 ^ exponent`, rounded once for the significand and once
for each multiplication or division; none if it is too large. -/
def floatOf? (positive : Bool) (significand : Nat) (exponent : Int) : Option Float :=
  let start := significand.toUInt64.toFloat
  let scaled :=
    if exponent < 0 then some (scaleDown start (exponent.natAbs / 308 + 1) exponent.natAbs)
    else if exponent ≤ 308 then
      let value := start * powerOfTen exponent.toNat
      if value.isInf then none else some value
    else if start == 0.0 then some start
    else none
  scaled.map fun value => if positive then value else -value

end Reading

end SourceAtlas.Json
