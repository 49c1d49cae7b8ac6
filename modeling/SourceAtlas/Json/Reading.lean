import SourceAtlas.Bytes
import SourceAtlas.Json.Fault
import SourceAtlas.Json.Float
import SourceAtlas.Text.Quoted

/-! Reads JSON for those who know what they expect. A reader moves over the text byte by
byte; where it fails, it has moved as far as it had to look. -/
namespace SourceAtlas.Json

/-- What is left to read, and how many bytes have been read. -/
structure Progress where
  rest : Bytes
  place : Nat := 0

/-- Reads something off a text. A failure keeps the progress. -/
abbrev Reader := ExceptT Fault (StateM Progress)

namespace Reader

section Moving

def peek? : Reader (Option UInt8) := return (← get).rest.head?

def peek : Reader UInt8 := return (← peek?).getD 0

def skip : Reader Unit :=
  modify fun progress =>
    match progress.rest with
    | [] => progress
    | _ :: rest => { rest, place := progress.place + 1 }

def next? : Reader (Option UInt8) := do
  let byte ← peek?
  skip
  return byte

def fail {α : Type} (cause : Cause) : Reader α := do
  throw ⟨cause, some (← get).place⟩

def failAtNext {α : Type} (cause : Cause) : Reader α := do
  let progress ← get
  throw ⟨cause, some (if progress.rest.isEmpty then progress.place else progress.place + 1)⟩

def reject {α : Type} (message : String) : Reader α :=
  throw ⟨.data message, none⟩

def withPlace {α : Type} (reader : Reader α) : Reader α := do
  tryCatch reader fun fault => do
    match fault.place with
    | some _ => throw fault
    | none => throw { fault with place := some (← get).place }

def isBlank (byte : UInt8) : Bool :=
  byte == 0x20 || byte == 0x0A || byte == 0x09 || byte == 0x0D

def skipWhile (kind : UInt8 → Bool) : Reader Unit :=
  modify fun progress =>
    let taken := progress.rest.takeWhile kind
    { rest := progress.rest.drop taken.length, place := progress.place + taken.length }

def peekSolid? : Reader (Option UInt8) := do
  skipWhile isBlank
  peek?

end Moving

def byteOf (c : Char) : UInt8 := c.toNat.toUInt8

def isDigit (byte : UInt8) : Bool :=
  byteOf '0' ≤ byte && byte ≤ byteOf '9'

section Strings

def hexValue? (byte : UInt8) : Option Nat :=
  if isDigit byte then some (byte.toNat - 48)
  else if byteOf 'a' ≤ byte && byte ≤ byteOf 'f' then some (byte.toNat - 87)
  else if byteOf 'A' ≤ byte && byte ≤ byteOf 'F' then some (byte.toNat - 55)
  else none

def hexEscape : Reader Nat := do
  let progress ← get
  match progress.rest with
  | a :: b :: c :: d :: rest =>
    set { rest, place := progress.place + 4 : Progress }
    match [a, b, c, d].mapM hexValue? with
    | some digits => return digits.foldl (fun value digit => 16 * value + digit) 0
    | none => fail .invalidEscape
  | rest =>
    set { rest := [], place := progress.place + rest.length : Progress }
    fail .endInString

def nextInString : Reader UInt8 := do
  match ← next? with
  | some byte => return byte
  | none => fail .endInString

def expectInEscape (expected : Char) : Reader Unit := do
  match ← peek? with
  | none => fail .endInString
  | some byte =>
    skip
    if byte != byteOf expected then fail .unfinishedEscape

/-- A character given by its number. One beyond the first 65536 is given by two numbers. -/
def unicodeEscape : Reader Char := do
  let first ← hexEscape
  if 0xDC00 ≤ first && first ≤ 0xDFFF then fail .loneSurrogate
  if first < 0xD800 || 0xDBFF < first then return Char.ofNat first
  expectInEscape '\\'
  expectInEscape 'u'
  let second ← hexEscape
  if second < 0xDC00 || 0xDFFF < second then fail .loneSurrogate
  return Char.ofNat ((first - 0xD800) * 1024 + (second - 0xDC00) + 0x10000)

def shortEscape? (byte : UInt8) : Option Char :=
  [(byteOf '"', '"'), (byteOf '\\', '\\'), (byteOf '/', '/'), (byteOf 'b', '\x08'),
    (byteOf 'f', '\x0c'), (byteOf 'n', '\n'), (byteOf 'r', '\r'), (byteOf 't', '\t')].lookup byte

def escape : Reader Char := do
  let byte ← nextInString
  match shortEscape? byte with
  | some c => return c
  | none => if byte == byteOf 'u' then unicodeEscape else fail .invalidEscape

def isPlain (byte : UInt8) : Bool :=
  byte != byteOf '"' && byte != byteOf '\\' && 0x20 ≤ byte

def stringFrom : (fuel : Nat) → (read : Bytes) → Reader String
  | 0, _ => fail .endInString
  | fuel + 1, read => do
    let plain := (← get).rest.takeWhile isPlain
    skipWhile isPlain
    let read := plain.reverse ++ read
    match ← peek? with
    | none => fail .endInString
    | some byte =>
      skip
      if byte == byteOf '"' then return Bytes.toText read.reverse
      else if byte == byteOf '\\' then
        let c ← escape
        stringFrom fuel ((Bytes.ofText (String.singleton c)).reverse ++ read)
      else fail .controlCharacter

def stringBody : Reader String := do
  stringFrom ((← get).rest.length + 1) []

end Strings

section Numbers

/-- Decimal digits, up to `limit` as their value; the flag tells whether the next digit
would go beyond it. -/
def digitsFrom (limit : Nat) : (fuel : Nat) → (value count : Nat) → Reader (Nat × Nat × Bool)
  | 0, value, count => return (value, count, false)
  | fuel + 1, value, count => do
    let byte ← peek
    if isDigit byte then
      let larger := 10 * value + (byte.toNat - 48)
      if limit < larger then return (value, count, true)
      skip
      digitsFrom limit fuel larger (count + 1)
    else return (value, count, false)

def maxSignificand : Nat := 18446744073709551615

def maxExponent : Nat := 2147483647

def floatOf (positive : Bool) (significand : Nat) (exponent : Int) : Reader Float := do
  match floatOf? positive significand exponent with
  | some value => return value
  | none => fail .numberOutOfRange

def isExponentMark (byte : UInt8) : Bool :=
  byte == byteOf 'e' || byte == byteOf 'E'

def exponentSign : Reader Bool := do
  let byte ← peek
  if byte == byteOf '+' then
    skip
    return true
  if byte == byteOf '-' then
    skip
    return false
  return true

def withExponent (positive : Bool) (significand : Nat) (exponent : Int) : Reader Float := do
  skip
  let positiveExponent ← exponentSign
  match ← next? with
  | none => fail .endInValue
  | some byte =>
    unless isDigit byte do fail .invalidNumber
    let (value, _, more) ← digitsFrom maxExponent (← get).rest.length (byte.toNat - 48) 0
    if more then
      skip
      if significand ≠ 0 && positiveExponent then fail .numberOutOfRange
      skipWhile isDigit
      return if positive then 0.0 else -0.0
    let shift : Int := if positiveExponent then value else -value
    floatOf positive significand (exponent + shift)

def endNumber (positive : Bool) (significand : Nat) (exponent : Int) : Reader Float := do
  if isExponentMark (← peek) then withExponent positive significand exponent
  else floatOf positive significand exponent

/-- Reads the digits after a point that comes next. Digits beyond what the significand can
hold are passed over. -/
def withFraction (positive : Bool) (significand : Nat) (exponent : Int) : Reader Float := do
  skip
  let (value, count, more) ← digitsFrom maxSignificand (← get).rest.length significand 0
  if more then
    skipWhile isDigit
    endNumber positive value (exponent - count)
  else if count = 0 then
    match ← peek? with
    | some _ => failAtNext .invalidNumber
    | none => failAtNext .endInValue
  else endNumber positive value (exponent - count)

inductive Number where
  | integer (value : Int)
  | float (value : Float)

/-- Reads a number after its sign. Integers beyond 64 bits, and a negative zero, count as
floating point numbers. -/
def number (positive : Bool) : Reader Number := do
  match ← next? with
  | none => fail .endInValue
  | some byte =>
    unless isDigit byte do fail .invalidNumber
    if byte == byteOf '0' && isDigit (← peek) then failAtNext .invalidNumber
    let length := (← get).rest.length
    let (value, _, more) ← digitsFrom maxSignificand (if byte == byteOf '0' then 0 else length)
      (byte.toNat - 48) 0
    if more then
      let further := ((← get).rest.takeWhile isDigit).length
      skipWhile isDigit
      if (← peek) == byteOf '.' then return .float (← withFraction positive value further)
      return .float (← endNumber positive value further)
    let mark ← peek
    if mark == byteOf '.' then return .float (← withFraction positive value 0)
    if isExponentMark mark then return .float (← withExponent positive value 0)
    if positive then return .integer value
    if value = 0 || 9223372036854775808 < value then
      return .float (-(value.toUInt64.toFloat))
    return .integer (-(value : Int))

end Numbers

section Values

def wordRest : List Char → Reader Unit
  | [] => return
  | expected :: rest => do
    match ← next? with
    | none => fail .endInValue
    | some byte =>
      if byte != byteOf expected then fail .expectedIdentifier
      wordRest rest

/-- How a value is called in messages, if the next thing is one. What can be read at once
is read. -/
def describe : Reader String := do
  let byte ← peek
  let char := Char.ofNat byte.toNat
  if char == 'n' then
    skip
    wordRest "ull".toList
    return "null"
  if char == 't' then
    skip
    wordRest "rue".toList
    return "boolean `true`"
  if char == 'f' then
    skip
    wordRest "alse".toList
    return "boolean `false`"
  if char == '-' || isDigit byte then
    if char == '-' then skip
    match ← number (char != '-') with
    | .integer value => return "integer `" ++ toString value ++ "`"
    | .float value => return "floating point `" ++ floatText value ++ "`"
  if char == '"' then
    skip
    return "string " ++ Text.Quoted.quote (← stringBody)
  if char == '[' then return "sequence"
  if char == '\x7b' then return "map"
  failAtNext .expectedValue

def unexpected {α : Type} (expected : String) : Reader α :=
  withPlace do
    let found ← describe
    reject ("invalid type: " ++ found ++ ", expected " ++ expected)

def valueStart : Reader UInt8 := do
  match ← peekSolid? with
  | some byte => return byte
  | none => failAtNext .endInValue

def string : Reader String := do
  if (← valueStart) == byteOf '"' then
    skip
    stringBody
  else unexpected "a string"

end Values

section Lists

/-- Whether a list goes on. After the first element there is a comma. -/
def hasElement (first : Bool) : Reader Bool := do
  match ← peekSolid? with
  | none => failAtNext .endInList
  | some byte =>
    if byte == byteOf ']' then return false
    if first then return true
    if byte != byteOf ',' then failAtNext .expectedListEnd
    skip
    match ← peekSolid? with
    | none => failAtNext .endInValue
    | some byte =>
      if byte == byteOf ']' then failAtNext .trailingComma
      return true

def endList : Reader Unit := do
  match ← peekSolid? with
  | none => failAtNext .endInList
  | some byte =>
    if byte == byteOf ']' then skip
    else if byte == byteOf ',' then
      skip
      if (← peekSolid?) = some (byteOf ']') then failAtNext .trailingComma
      else failAtNext .trailingCharacters
    else failAtNext .trailingCharacters

def observing {α : Type} (reader : Reader α) : Reader (Except Fault α) :=
  tryCatch (do return .ok (← reader)) fun fault => return .error fault

/-- Reads something and then an end, also where it fails; of two failures the first
counts. -/
def endedBy {α : Type} (reader : Reader α) (ending : Reader Unit) : Reader α := do
  match ← observing reader with
  | .ok value =>
    ending
    return value
  | .error fault =>
    let _ ← observing ending
    throw fault

def elements {α : Type} (element : Reader α) : (fuel : Nat) → (first : Bool) → Reader (List α)
  | 0, _ => return []
  | fuel + 1, first => do
    if ← hasElement first then
      let value ← element
      return value :: (← elements element fuel false)
    return []

def deeper {α : Type} (levels : Nat) (body : (levels : Nat) → Reader α) : Reader α :=
  match levels with
  | 0 => failAtNext .tooDeep
  | levels + 1 => body levels

def list {α : Type} (levels : Nat) (element : (levels : Nat) → Reader α) : Reader (List α) := do
  if (← valueStart) == byteOf '[' then
    deeper levels fun levels => do
      skip
      withPlace (endedBy (elements (element levels) ((← get).rest.length + 1) true) endList)
  else unexpected "a sequence"

end Lists

section Objects

def key? (first : Bool) : Reader (Option String) := do
  match ← peekSolid? with
  | none => failAtNext .endInObject
  | some byte =>
    if byte == byteOf '\x7d' then return none
    if first then
      if byte != byteOf '"' then failAtNext .keyNotString
    else
      if byte != byteOf ',' then failAtNext .expectedObjectEnd
      skip
      match ← peekSolid? with
      | none => failAtNext .endInValue
      | some byte =>
        if byte == byteOf '\x7d' then failAtNext .trailingComma
        if byte != byteOf '"' then failAtNext .keyNotString
    skip
    return some (← stringBody)

def colon : Reader Unit := do
  match ← peekSolid? with
  | none => failAtNext .endInObject
  | some byte => if byte == byteOf ':' then skip else failAtNext .expectedColon

def endObject : Reader Unit := do
  match ← peekSolid? with
  | none => failAtNext .endInObject
  | some byte =>
    if byte == byteOf '\x7d' then skip
    else if byte == byteOf ',' then failAtNext .trailingComma
    else failAtNext .trailingCharacters

def members {α : Type} (value : Reader α) :
    (fuel : Nat) → (first : Bool) → Reader (List (String × α))
  | 0, _ => return []
  | fuel + 1, first => do
    match ← key? first with
    | none => return []
    | some key =>
      colon
      let value' ← value
      return (key, value') :: (← members value fuel false)

def object {α : Type} (levels : Nat) (value : (levels : Nat) → Reader α) :
    Reader (List (String × α)) := do
  if (← valueStart) == byteOf '\x7b' then
    deeper levels fun levels => do
      skip
      withPlace (endedBy (members (value levels) ((← get).rest.length + 1) true) endObject)
  else unexpected "a map"

end Objects

section Ignoring

def ignoreString : (fuel : Nat) → Reader Unit
  | 0 => fail .endInString
  | fuel + 1 => do
    skipWhile isPlain
    match ← peek? with
    | none => fail .endInString
    | some byte =>
      if byte == byteOf '"' then skip
      else if byte == byteOf '\\' then
        skip
        let letter ← nextInString
        if letter == byteOf 'u' then
          let _ ← hexEscape
        else if (shortEscape? letter).isNone then fail .invalidEscape
        ignoreString fuel
      else fail .controlCharacter

def ignoreExponent : Reader Unit := do
  skip
  let _ ← exponentSign
  match ← next? with
  | some byte => unless isDigit byte do fail .invalidNumber
  | none => fail .invalidNumber
  skipWhile isDigit

def ignoreNumber : Reader Unit := do
  match ← next? with
  | none => fail .invalidNumber
  | some byte =>
    unless isDigit byte do fail .invalidNumber
    if byte == byteOf '0' then
      if isDigit (← peek) then failAtNext .invalidNumber
    else skipWhile isDigit
    if (← peek) == byteOf '.' then
      skip
      unless isDigit (← peek) do failAtNext .invalidNumber
      skipWhile isDigit
    if isExponentMark (← peek) then ignoreExponent

/-- Goes over a value that has no parts, or over the start of one that has; then its
opening bracket is returned. -/
def ignoreStart : Reader (Option UInt8) := do
  let byte ← valueStart
  let char := Char.ofNat byte.toNat
  if char == 'n' then
    skip
    wordRest "ull".toList
    return none
  if char == 't' then
    skip
    wordRest "rue".toList
    return none
  if char == 'f' then
    skip
    wordRest "alse".toList
    return none
  if char == '-' then
    skip
    ignoreNumber
    return none
  if isDigit byte then
    ignoreNumber
    return none
  if char == '"' then
    skip
    ignoreString ((← get).rest.length + 1)
    return none
  if char == '[' || char == '\x7b' then
    skip
    return some byte
  failAtNext .expectedValue

def ignoreKey : Reader Unit := do
  match ← peekSolid? with
  | none => failAtNext .endInObject
  | some byte =>
    if byte != byteOf '"' then failAtNext .keyNotString
    skip
    ignoreString ((← get).rest.length + 1)
    colon

/-- Goes over closing brackets until another value comes. What is still open is returned;
`comma` tells whether the innermost bracket already has something in it. -/
def ignoreEnds : (opened : List UInt8) → (comma : Bool) → Reader (List UInt8)
  | [], _ => return []
  | bracket :: rest, comma => do
    let isList := bracket == byteOf '['
    match ← peekSolid? with
    | none => failAtNext (if isList then .endInList else .endInObject)
    | some byte =>
      if byte == byteOf ',' && comma then
        skip
        return bracket :: rest
      if byte == (if isList then byteOf ']' else byteOf '\x7d') then
        skip
        ignoreEnds rest true
      else if comma then failAtNext (if isList then .expectedListEnd else .expectedObjectEnd)
      else return bracket :: rest

/-- Goes over values until nothing is open any more. Nothing limits how deep they are. -/
def ignoreFrom : (fuel : Nat) → (opened : List UInt8) → Reader Unit
  | 0, _ => return
  | fuel + 1, opened => do
    let (opened, comma) ← match ← ignoreStart with
      | some bracket => pure (bracket :: opened, false)
      | none => pure (opened, true)
    match ← ignoreEnds opened comma with
    | [] => return
    | bracket :: rest =>
      if bracket == byteOf '\x7b' then ignoreKey
      ignoreFrom fuel (bracket :: rest)

def ignored : Reader Unit := do
  ignoreFrom ((← get).rest.length + 1) []

end Ignoring

def finished : Reader Unit := do
  if (← peekSolid?).isSome then failAtNext .trailingCharacters

def maxLevels : Nat := 127

def lineColumn (text : Bytes) (place : Nat) : Nat × Nat :=
  let before := text.take place
  (before.count 0x0A + 1, (before.reverse.takeWhile (· != 0x0A)).length)

def run {α : Type} (reader : (levels : Nat) → Reader α) (text : String) : Except ReadError α :=
  let bytes := Bytes.ofText text
  let whole : Reader α := do
    let value ← reader maxLevels
    finished
    return value
  match (ExceptT.run whole { rest := bytes }).1 with
  | .ok value => .ok value
  | .error fault =>
    let (line, column) := lineColumn bytes (fault.place.getD 0)
    .error ⟨fault.cause, line, column⟩

end Reader

end SourceAtlas.Json
