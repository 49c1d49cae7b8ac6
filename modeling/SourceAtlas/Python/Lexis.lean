import SourceAtlas.Python.Symbol
import SourceAtlas.Unicode.Identifier

/-! The tokens of Python that do not depend on the layout: words, numbers,
punctuation, comments and the pieces of string literals. In each mode some of
the tokens are looked for, and the longest one found is taken. -/
namespace SourceAtlas.Python.Lexis
open SourceAtlas.Syntax

/-- The tokens looked for in each mode, as bit masks over symbols. Mode 0 looks for
any token. -/
def modes : Array Nat := #[
  0x18777ffcfffc7bd0c60080ab97, 0x18710000ff007bd00000800b87, 0x18617ffcfffc5b50800080aa96,
  0x18710000fffc7bd0800080ab96, 0x18617ffcfffc5b508000802a96, 0x18710000fffc7bd08000802b96,
  0x18617ffc010052500000800886, 0x18007ffcfefc6bd0800080ab96, 0x18610000010053400200000883,
  0x18610000010053400400000883, 0x18007ffcfefc4bd08000802b96, 0x18100000fefc6bd08000802b96,
  0x18100000fefc6bd0800080ab96, 0x18000000000000004600800002, 0x18080000000030000000000000]

def punctuation : List (String × Nat) := [
  ("//=", 79), ("**=", 81), (">>=", 82), ("<<=", 83), ("...", 88), (">>", 13), (":=", 15),
  ("->", 38), ("**", 39), ("//", 60), ("<<", 63), ("<=", 66), ("==", 67), ("!=", 68), (">=", 69),
  ("<>", 71), ("+=", 74), ("-=", 75), ("*=", 76), ("/=", 77), ("@=", 78), ("%=", 80), ("&=", 84),
  ("^=", 85), ("|=", 86), (";", 2), (".", 4), ("(", 7), (")", 8), (",", 9), ("*", 11), (":", 23),
  ("=", 44), ("[", 46), ("]", 47), ("@", 48), ("-", 49), ("|", 51), ("\x7b", 52), ("\x7d", 53),
  ("+", 54), ("/", 58), ("%", 59), ("&", 61), ("^", 62), ("~", 64), ("<", 65), (">", 70)]

def keywords : List (String × Nat) := [
  ("import", 3), ("from", 5), ("__future__", 6), ("as", 10), ("print", 12), ("assert", 14),
  ("return", 16), ("del", 17), ("raise", 18), ("pass", 19), ("break", 20), ("continue", 21),
  ("if", 22), ("elif", 24), ("else", 25), ("match", 26), ("case", 27), ("async", 28), ("for", 29),
  ("in", 30), ("while", 31), ("try", 32), ("finally", 35), ("with", 36), ("def", 37),
  ("global", 40), ("nonlocal", 41), ("exec", 42), ("type", 43), ("class", 45), ("_", 50),
  ("not", 55), ("and", 56), ("or", 57), ("is", 72), ("lambda", 73), ("yield", 87), ("await", 95),
  ("True", 96), ("False", 97), ("None", 98)]

def keyword (source : Source) (start stop : Nat) : Option Nat :=
  keywords.lookup (source.slice start stop)

section Characters

def byteOrderMark : Char := '\uFEFF'

def isSeparator (c : Char) : Bool :=
  c == ' ' || c == '\t' || c == '\r' || c == '\n' || c == '\x0c' || c == byteOrderMark ||
    c == '\u2060' || c == '\u200B'

def isIdentifierStart (c : Char) : Bool :=
  c == '_' || Unicode.identifierStart.contains c

def isIdentifierContinue (c : Char) : Bool :=
  c == '_' || Unicode.identifierContinue.contains c

def isHexDigit (c : Char) : Bool :=
  c.isDigit || ('a' ≤ c && c ≤ 'f') || ('A' ≤ c && c ≤ 'F')

def isOctalDigit (c : Char) : Bool := '0' ≤ c && c ≤ '7'

def isBinaryDigit (c : Char) : Bool := c == '0' || c == '1'

def isLineCharacter (c : Char) : Bool := c != '\n' && c != '\x00'

end Characters

def literal (source : Source) : List Char → Nat → Option Nat
  | [], place => some place
  | c :: rest, place =>
    if source.chars[place]? = some c then literal source rest (place + 1) else none

def optional (source : Source) (kind : Char → Bool) (place : Nat) : Nat :=
  match source.chars[place]? with
  | some c => if kind c then place + 1 else place
  | none => place

theorem le_optional (source : Source) (kind : Char → Bool) (place : Nat) :
    place ≤ optional source kind place := by
  unfold optional
  split <;> (try split) <;> omega

/-- The place after exactly `count` characters of a kind. -/
def exactly (source : Source) (kind : Char → Bool) : Nat → Nat → Option Nat
  | 0, place => some place
  | count + 1, place =>
    match source.chars[place]? with
    | some c => if kind c then exactly source kind count (place + 1) else none
    | none => none

def tokenStart (source : Source) (place : Nat) : Nat :=
  if place = 0 && source.peek 0 == byteOrderMark then 1 else place

section Numbers

def decimalRun (source : Source) (place : Nat) : Nat :=
  if h : place < source.chars.size then
    let c := source.chars[place]
    if c.isDigit then
      if source.peek (place + 1) == '_' then
        if (source.peek (place + 2)).isDigit then decimalRun source (place + 2) else place + 2
      else decimalRun source (place + 1)
    else place
  else place
termination_by source.chars.size - place

def prefixedRun (source : Source) (digit : Char → Bool) (place : Nat) : Nat :=
  if h : place < source.chars.size then
    let c := source.chars[place]
    if digit c then prefixedRun source digit (place + 1)
    else if c == '_' && digit (source.peek (place + 1)) then prefixedRun source digit (place + 2)
    else place
  else place
termination_by source.chars.size - place

def isLongMark (c : Char) : Bool := c == 'l' || c == 'L'

def isImaginaryMark (c : Char) : Bool := c == 'j' || c == 'J'

def prefixedInteger (source : Source) (letters : List Char) (digit : Char → Bool) (place : Nat) :
    Option Nat :=
  if source.peek place == '0' && letters.contains (source.peek (place + 1)) then
    let stop := prefixedRun source digit (place + 2)
    if stop = place + 2 then none else some (optional source isLongMark stop)
  else none

def integer (source : Source) (place : Nat) : Option Nat :=
  let based := prefixedInteger source ['x', 'X'] isHexDigit place <|>
    prefixedInteger source ['o', 'O'] isOctalDigit place <|>
    prefixedInteger source ['b', 'B'] isBinaryDigit place
  match based with
  | some stop => some stop
  | none =>
    let stop := decimalRun source place
    if stop = place then none
    else some (optional source (fun c => isLongMark c || isImaginaryMark c) stop)

def exponent (source : Source) (place : Nat) : Option Nat :=
  if source.peek place == 'e' || source.peek place == 'E' then
    let digits := optional source (fun c => c == '+' || c == '-') (place + 1)
    let stop := decimalRun source digits
    if stop = digits then none else some stop
  else none

def float (source : Source) (place : Nat) : Option Nat :=
  let whole := decimalRun source place
  let mark := optional source fun c => isLongMark c || isImaginaryMark c
  if source.peek whole == '.' then
    let fraction := decimalRun source (whole + 1)
    if whole = place && fraction = whole + 1 then none
    else some (mark ((exponent source fraction).getD fraction))
  else if whole = place then none
  else (exponent source whole).map mark

end Numbers

section Strings

def isSimpleEscape (c : Char) : Bool :=
  ['\'', '"', 'a', 'b', 'f', 'r', 'n', 't', 'v', '\\'].contains c

def escapeSequence (source : Source) (place : Nat) : Option Nat :=
  let c := source.peek (place + 1)
  if c == 'u' then exactly source isHexDigit 4 (place + 2)
  else if c == 'U' then exactly source isHexDigit 8 (place + 2)
  else if c == 'x' then exactly source isHexDigit 2 (place + 2)
  else if c.isDigit then exactly source Char.isDigit 3 (place + 1)
  else if c == '\r' then literal source ['\n'] (place + 2)
  else if c == '\n' || isSimpleEscape c then some (place + 2)
  else if c == 'N' && source.peek (place + 2) == '\x7b' then
    let stop := source.skipWhile (fun c => c != '\x7d' && c != '\x00') (place + 3)
    if stop = place + 3 then none else literal source ['\x7d'] stop
  else none

/-- The place after a backslash that joins two lines. It may also stand in front of a
NUL or of the end of the text. -/
def lineContinuation (source : Source) (place : Nat) : Option Nat :=
  let c := source.peek (place + 1)
  if c == '\n' then some (place + 2)
  else if c == '\r' then literal source ['\n'] (place + 2)
  else if c == '\x00' then some (min (place + 2) source.size)
  else none

/-- A token that starts with a backslash, with nothing skipped in front of it: the
escape sequence if there is one. -/
def backslashToken (source : Source) (place : Nat) : Lexeme :=
  match escapeSequence source place with
  | some stop => ⟨Symbol.escapeSequence, place, stop⟩
  | none =>
    if source.peek (place + 1) == '\x00' then
      ⟨Symbol.lineContinuation, place, min (place + 2) source.size⟩
    else ⟨Symbol.loneBackslash, place, place + 1⟩

/-- A token inside the format of an interpolation: a brace, or all text up to the next
brace or line end. -/
def formatToken (source : Source) (place : Nat) : Reading :=
  let start := source.skipWhile (· == '\n') place
  let c := source.peek start
  if source.atEnd start then .stuck start start
  else if c == '\x7b' then .found ⟨Symbol.openBrace, start, start + 1⟩
  else if c == '\x7d' then .found ⟨Symbol.closeBrace, start, start + 1⟩
  else
    let stop := source.skipWhile (fun c => isLineCharacter c && c != '\x7b' && c != '\x7d') start
    if stop = start then .stuck start start else .found ⟨Symbol.formatText, start, stop⟩

end Strings

section Reading

/-- The word that starts here. `except` is told from other words at once, since it may
have a star behind it. -/
def word (source : Source) (mode place : Nat) : Option Lexeme :=
  if isIdentifierStart (source.peek place) && !source.atEnd place then
    let stop := source.skipWhile isIdentifierContinue (place + 1)
    if source.slice place stop = "except" then
      if mode.testBit Symbol.exceptStar && source.peek stop == '*' then
        some ⟨Symbol.exceptStar, place, stop + 1⟩
      else if mode.testBit Symbol.except then some ⟨Symbol.except, place, stop⟩
      else some ⟨Symbol.identifier, place, stop⟩
    else some ⟨Symbol.identifier, place, stop⟩
  else none

def operator (source : Source) (mode place : Nat) : Option Lexeme :=
  punctuation.findSome? fun (text, symbol) =>
    if mode.testBit symbol then
      (literal source text.toList place).map fun stop => ⟨symbol, place, stop⟩
    else none

def typeConversion (source : Source) (place : Nat) : Option Nat :=
  let c := source.peek (place + 1)
  if source.peek place == '!' && 'a' ≤ c && c ≤ 'z' then some (place + 2) else none

/-- The longer of two tokens; of two equally long ones the first. -/
def longer (first second : Option Lexeme) : Option Lexeme :=
  match first, second with
  | some a, some b => if a.stop < b.stop then some b else some a
  | a, none => a
  | none, b => b

def ruled (mode symbol place : Nat) (stop : Option Nat) : Option Lexeme :=
  if mode.testBit symbol then stop.map fun stop => ⟨symbol, place, stop⟩ else none

def tokenAt (source : Source) (mode place : Nat) : Option Lexeme :=
  let comment :=
    if source.peek place == '#' then some (source.skipWhile isLineCharacter place) else none
  let joined := if source.peek place == '\\' then lineContinuation source place else none
  [word source mode place,
    ruled mode Symbol.integer place (integer source place),
    ruled mode Symbol.float place (float source place),
    ruled mode Symbol.typeConversion place (typeConversion source place),
    ruled mode Symbol.comment place comment,
    ruled mode Symbol.lineContinuation place joined].foldl longer (operator source mode place)

/-- How far text that is no token looks like one: a backslash could have joined lines
and an exclamation mark could have begun an operator. -/
def reachedWithout (source : Source) (place : Nat) : Nat :=
  let c := source.peek place
  if c == '\\' then optional source (· == '\r') (place + 1)
  else if c == '!' then place + 1
  else place

def read (mode : Nat) (source : Source) (place : Nat) : Reading :=
  let mode := modes.getD mode 0
  let first := tokenStart source place
  if mode.testBit Symbol.formatText then formatToken source first
  else if mode.testBit Symbol.escapeSequence && source.peek first == '\\' then
    .found (backslashToken source first)
  else
    let start := source.skipWhile isSeparator first
    if source.atEnd start then
      if mode.testBit Symbol.endOfText then .found ⟨Symbol.endOfText, start, start⟩
      else .stuck start start
    else
      match tokenAt source mode start with
      | some lexeme => .found lexeme
      | none => .stuck start (reachedWithout source start)

end Reading

end SourceAtlas.Python.Lexis
