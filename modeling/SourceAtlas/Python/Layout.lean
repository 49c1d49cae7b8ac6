import SourceAtlas.Python.Lexis

/-! The tokens of Python that depend on what came before: line ends, changes of
indentation, and the parts of string literals. The scanner remembers the open
indentations and the open strings. -/
namespace SourceAtlas.Python
open SourceAtlas.Syntax

structure Quote where
  mark : Char
  triple : Bool
  raw : Bool
  bytes : Bool
  format : Bool
deriving DecidableEq

/-- What the scanner remembers, innermost first. An indentation is kept modulo 256;
the outermost one, zero, is left out. -/
structure Memory where
  insideFormat : Bool
  quotes : List Quote
  indents : List Nat
deriving DecidableEq

namespace Layout

/-- The layout tokens that are looked for. The closing brackets and `except` are not
read here, but it matters that they may come. -/
structure Expected where
  newline : Bool
  indent : Bool
  dedent : Bool
  stringStart : Bool
  stringParts : Bool
  closing : Bool
  except : Bool

/-- The sets of tokens that states look for. In set 1 anything may come. -/
def expectations : Array Expected :=
  let nothing : Expected := ⟨false, false, false, false, false, false, false⟩
  #[nothing,
    ⟨true, true, true, true, true, true, true⟩,
    { nothing with stringStart := true },
    { nothing with dedent := true, stringStart := true },
    { nothing with newline := true, stringStart := true },
    { nothing with newline := true, indent := true, stringStart := true },
    { nothing with stringStart := true, closing := true },
    { nothing with stringStart := true, closing := true },
    { nothing with stringStart := true, closing := true },
    { nothing with newline := true },
    { nothing with stringStart := true, except := true },
    { nothing with dedent := true, stringStart := true, except := true },
    { nothing with closing := true },
    { nothing with closing := true },
    nothing,
    { nothing with closing := true },
    { nothing with stringParts := true },
    { nothing with except := true },
    { nothing with dedent := true },
    { nothing with newline := true, indent := true }]

def Expected.recovering (expected : Expected) : Bool :=
  expected.stringParts && expected.indent

def memoryCapacity : Nat := 1022

def emptyMemory : Memory := ⟨false, [], []⟩

section Strings

/-- The outcome of reading on in a string: a token, no token, or the text ended (or
had a NUL) at a place. -/
inductive StringReading where
  | token (symbol stop : Nat)
  | nothing
  | ended (place : Nat)

def tripleQuote (source : Source) (mark : Char) (content : Bool) (place : Nat) : StringReading :=
  if source.peek (place + 1) == mark then
    if source.peek (place + 2) == mark then
      if content then .token Symbol.stringContent place
      else .token Symbol.stringEnd (place + 3)
    else .token Symbol.stringContent (place + 2)
  else .token Symbol.stringContent (place + 1)

def rawBackslash (source : Source) (mark : Char) (place : Nat) : Nat :=
  let next := Lexis.optional source (fun c => c == mark || c == '\\') (place + 1)
  if source.peek next == '\r' then Lexis.optional source (· == '\n') (next + 1)
  else Lexis.optional source (· == '\n') next

theorem lt_rawBackslash (source : Source) (mark : Char) (place : Nat) :
    place < rawBackslash source mark place := by
  have first := Lexis.le_optional source (fun c => c == mark || c == '\\') (place + 1)
  simp only [rawBackslash]
  split
  · exact Nat.lt_of_lt_of_le (by omega) (Lexis.le_optional ..)
  · exact Nat.lt_of_lt_of_le first (Lexis.le_optional ..)

/-- Reads on in a string. `content` says whether some content has been read. -/
def stringPart (source : Source) (quote : Quote) (content : Bool) (place : Nat) : StringReading :=
  if h : place < source.chars.size then
    let c := source.chars[place]
    let found := if content then StringReading.token Symbol.stringContent place else .nothing
    if c == '\x00' then .ended place
    else if (c == '\x7b' || c == '\x7d') && quote.format then found
    else if c == '\\' then
      if quote.raw then
        have := lt_rawBackslash source quote.mark place
        stringPart source quote content (rawBackslash source quote.mark place)
      else if quote.bytes && ['N', 'u', 'U'].contains (source.peek (place + 1)) then
        stringPart source quote true (place + 3)
      else found
    else if c == quote.mark then
      if quote.triple then tripleQuote source quote.mark content place
      else if content then .token Symbol.stringContent place
      else .token Symbol.stringEnd (place + 1)
    else if c == '\n' && content && !quote.triple then .nothing
    else stringPart source quote true (place + 1)
  else .ended source.chars.size
termination_by source.chars.size - place

def doubledBrace (source : Source) (place : Nat) : Bool :=
  source.peek place == source.peek (place + 1)

def quoteLetters (source : Source) (place : Nat) : Quote × Nat :=
  let stop := source.skipWhile (fun c => "fFrRbBuU".toList.contains c) place
  let letters := (source.slice place stop).toList
  let has := fun (lower upper : Char) => letters.any fun c => c == lower || c == upper
  ({ mark := '\x00', triple := false, raw := has 'r' 'R', bytes := has 'b' 'B'
     format := has 'f' 'F' }, stop)

def openQuote (source : Source) (place : Nat) : Option (Quote × Nat) :=
  let (quote, stop) := quoteLetters source place
  let mark := source.peek stop
  if mark == '\x60' then some ({ quote with mark }, stop + 1)
  else if mark == '\'' || mark == '"' then
    if source.peek (stop + 1) == mark && source.peek (stop + 2) == mark then
      some ({ quote with mark, triple := true }, stop + 3)
    else some ({ quote with mark }, stop + 1)
  else none

end Strings

section Margins

/-- The blanks in front of a token: where they end, whether a line ended in them, how
far the token is indented, and how far the first comment on a line of its own was. -/
structure Margin where
  stop : Nat
  lineEnded : Bool
  indent : Nat
  comment : Option Nat

/-- Goes over blanks, joined lines and, where `comments` is set, comments on lines of
their own. There is no layout token in front of a comment that follows something on
its line, nor after a backslash that joins nothing. -/
def margin (source : Source) (comments : Bool) (so : Margin) : Option Margin :=
  if h : so.stop < source.chars.size then
    let c := source.chars[so.stop]
    if c == '\n' then
      margin source comments { so with stop := so.stop + 1, lineEnded := true, indent := 0 }
    else if c == ' ' then
      margin source comments { so with stop := so.stop + 1, indent := so.indent + 1 }
    else if c == '\r' || c == '\x0c' then
      margin source comments { so with stop := so.stop + 1, indent := 0 }
    else if c == '\t' then
      margin source comments { so with stop := so.stop + 1, indent := so.indent + 8 }
    else if c == '#' && comments then
      if so.lineEnded then
        have := source.le_skipWhile Lexis.isLineCharacter (so.stop + 1)
        let stop := min (source.skipWhile Lexis.isLineCharacter (so.stop + 1) + 1) source.chars.size
        margin source comments
          { so with stop, indent := 0, comment := some (so.comment.getD so.indent) }
      else none
    else if c == '\\' then
      have := Lexis.le_optional source (· == '\r') (so.stop + 1)
      let next := Lexis.optional source (· == '\r') (so.stop + 1)
      if source.atEnd next then some { so with stop := next, lineEnded := true, indent := 0 }
      else if source.peek next == '\n' then margin source comments { so with stop := next + 1 }
      else none
    else some so
  else some { so with lineEnded := true, indent := 0 }
termination_by source.chars.size - so.stop

end Margins

/-- The tokens at a margin. Dedents are not made inside brackets or formats, nor in
front of a comment that still belongs to the block. -/
def lineToken (source : Source) (expected : Expected) (memory : Memory) (margin : Margin) :
    Option (Nat × Memory) :=
  let current := memory.indents.headD 0
  let quoteAhead := ['"', '\'', '\x60'].contains (source.peek margin.stop)
  let mayDedent := expected.dedent ||
    (!expected.newline && !(expected.stringStart && quoteAhead) && !expected.closing)
  let commentOutside := match margin.comment with
    | some indent => indent < current
    | none => true
  if !margin.lineEnded then none
  else if expected.indent && current < margin.indent then
    let indents := (margin.indent % 256 :: memory.indents).reverse
    some (Symbol.indent,
      { memory with indents := (indents.take (memoryCapacity - memory.quotes.length)).reverse })
  else if mayDedent && margin.indent < current && !memory.insideFormat && commentOutside then
    some (Symbol.dedent, { memory with indents := memory.indents.tail })
  else if expected.newline && !expected.recovering then some (Symbol.newline, memory)
  else none

/-- Reads a layout token at a margin, or the start of a string behind it. `start` is
where a token would start that skips nothing, `place` where the blanks begin. -/
def afterBlanks (source : Source) (expected : Expected) (memory : Memory) (start place : Nat) :
    Option (Scan Memory) :=
  let comments := expected.indent || expected.dedent || expected.newline || expected.except
  match margin source comments
    { stop := place, lineEnded := false, indent := 0, comment := none } with
  | none => none
  | some margin =>
    match lineToken source expected memory margin with
    | some (symbol, memory) =>
      let skipped := if place < margin.stop then margin.stop else start
      some ⟨⟨symbol, min skipped place, place⟩, memory⟩
    | none =>
      if margin.comment.isNone && expected.stringStart then
        match openQuote source margin.stop with
        | some (quote, stop) =>
          let start := if place < margin.stop then margin.stop else start
          some ⟨⟨Symbol.stringStart, start, stop⟩,
            { memory with quotes := quote :: memory.quotes, insideFormat := quote.format }⟩
        | none => none
      else none

/-- Reads a layout token. Inside a string, its content goes first. -/
def scan (expectedSet : Nat) (source : Source) (place : Nat) (remembered : Option Memory) :
    Option (Scan Memory) :=
  let expected := expectations.getD expectedSet ⟨false, false, false, false, false, false, false⟩
  let memory := remembered.getD emptyMemory
  let start := Lexis.tokenStart source place
  let inString := if expected.stringParts && !expected.recovering then memory.quotes.head? else none
  match inString with
  | none => afterBlanks source expected memory start start
  | some quote =>
    let c := source.peek start
    if quote.format && (c == '\x7b' || c == '\x7d') then
      if doubledBrace source start then
        some ⟨⟨Symbol.escapeInterpolation, start, start + 2⟩, memory⟩
      else none
    else
      match stringPart source quote false start with
      | .token symbol stop =>
        let memory :=
          if symbol == Symbol.stringEnd then
            { memory with quotes := memory.quotes.tail, insideFormat := false }
          else memory
        some ⟨⟨symbol, start, stop⟩, memory⟩
      | .nothing => none
      | .ended stop => afterBlanks source expected memory start stop

end Layout

end SourceAtlas.Python
