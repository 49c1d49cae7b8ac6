import SourceAtlas.Pattern.Expression
import SourceAtlas.Unicode.Letter
import SourceAtlas.Unicode.Word

/-! Reads written patterns. The reader keeps the open groups and brackets on stacks, so
that the fault it reports is the first one from the left. -/
namespace SourceAtlas.Pattern

/-- A group or a list of branches that is still open. A group remembers what stands in
front of it and whether blanks counted there. Parts are kept in reverse. -/
inductive OpenGroup where
  | group (span : Span) (kind : GroupKind) (start : Nat) (outer : List Expression)
    (ignoreBlanks : Bool)
  | alternation (start : Nat) (branches : List Expression)

/-- A bracket that is still open, with the items in front of it, or the left side of an
operation. -/
inductive OpenClass where
  | bracket (span : Span) (negated : Bool) (start : Nat) (outer : List ClassSet)
  | operation (kind : ClassOperation) (left : ClassSet)

structure ReaderState where
  place : Nat := 0
  ignoreBlanks : Bool := false
  groupCount : Nat := 0
  names : List (String × Span) := []
  openGroups : List OpenGroup := []
  openClasses : List OpenClass := []

abbrev Reader := ReaderT (Array Char) (StateT ReaderState (Except Fault))

namespace Reader

def fail {α : Type} (kind : FaultKind) (span : Span) : Reader α :=
  throw { kind, span }

def accept {α : Type} : Except Fault α → Reader α
  | .ok value => return value
  | .error fault => throw fault

section Moving

def place : Reader Nat := return (← get).place

def atEnd : Reader Bool := return (← read).size ≤ (← place)

def char : Reader Char := return (← read).getD (← place) '\x00'

def peek? : Reader (Option Char) := return (← read)[(← place) + 1]?

def spanHere : Reader Span := return ⟨← place, ← place⟩

def spanOfChar : Reader Span := return ⟨← place, (← place) + 1⟩

def spanFrom (start : Nat) : Reader Span := return ⟨start, ← place⟩

def moveTo (place : Nat) : Reader Unit := modify fun state => { state with place }

def bump : Reader Bool := do
  unless ← atEnd do moveTo ((← place) + 1)
  return !(← atEnd)

def bumpIf (expected : String) : Reader Bool := do
  let start ← place
  let chars := expected.toList
  if ((← read).extract start (start + chars.length)).toList = chars then
    moveTo (start + chars.length)
    return true
  return false

def bumpAny : List String → Reader Bool
  | [] => return false
  | expected :: rest => do
    if ← bumpIf expected then return true
    bumpAny rest

def afterBlanks (text : Array Char) (inComment : Bool) (place : Nat) : Nat :=
  if h : place < text.size then
    let c := text[place]
    if inComment then afterBlanks text (c != '\n') (place + 1)
    else if Unicode.blank.contains c then afterBlanks text false (place + 1)
    else if c == '#' then afterBlanks text true (place + 1)
    else place
  else place
termination_by text.size - place

def bumpBlanks : Reader Unit := do
  if (← get).ignoreBlanks then moveTo (afterBlanks (← read) false (← place))

def bumpWithBlanks : Reader Bool := do
  if ← bump then
    bumpBlanks
    return !(← atEnd)
  return false

/-- The first of some characters that is no blank. One number sign is passed over. -/
def firstSolid? (signSeen : Bool) : List Char → Option Char
  | [] => none
  | c :: rest =>
    if Unicode.blank.contains c then firstSolid? signSeen rest
    else if c == '#' && !signSeen then firstSolid? true rest
    else some c

def peekSolid? : Reader (Option Char) := do
  let rest := ((← read).extract ((← place) + 1) (← read).size).toList
  if (← get).ignoreBlanks then return (firstSolid? false rest).orElse fun _ => rest.head?
  return rest.head?

end Moving

section Numbers

/-- Takes characters of a kind, and blanks after each where they do not count. At most
`count` are taken. -/
def takeWhile (kind : Char → Bool) : (count : Nat) → Reader (List Char)
  | 0 => return []
  | count + 1 => do
    if ← atEnd then return []
    let c ← char
    if kind c then
      let _ ← bumpWithBlanks
      return c :: (← takeWhile kind count)
    return []

def skipBlankChars : (count : Nat) → Reader Unit
  | 0 => return
  | count + 1 => do
    if !(← atEnd) && Unicode.blank.contains (← char) then
      let _ ← bumpWithBlanks
      skipBlankChars count

def numeral (base : Nat) (digits : List Char) : Nat :=
  digits.foldl (fun value c =>
    base * value + (if c.isDigit then c.toNat - 48 else c.toLower.toNat - 87)) 0

def decimal : Reader (Except Fault Nat) := do
  let size := (← read).size
  skipBlankChars size
  let start ← place
  let digits ← takeWhile Char.isDigit size
  let span ← spanFrom start
  skipBlankChars size
  if digits.isEmpty then return .error { kind := .repetitionCountDecimalEmpty, span }
  let value := numeral 10 digits
  if 4294967295 < value then return .error { kind := .decimalInvalid, span }
  return .ok value

end Numbers

section Escapes

/-- One piece of a pattern that is no group, class or repetition. -/
inductive Primitive where
  | literal (written : Literal)
  | assertion (span : Span) (kind : Assertion)
  | dot (span : Span)
  | letter (span : Span) (kind : LetterClass) (negated : Bool)
  | property (span : Span) (query : PropertyQuery) (negated : Bool)

def Primitive.span : Primitive → Span
  | .literal written => written.span
  | .assertion span _ | .dot span | .letter span _ _ | .property span _ _ => span

def Primitive.toExpression : Primitive → Expression
  | .literal written => .literal written
  | .assertion span kind => .assertion span kind
  | .dot span => .dot span
  | .letter span kind negated => .letterClass span kind negated
  | .property span query negated => .propertyClass span query negated

def isHexDigit (c : Char) : Bool :=
  c.isDigit || ('a' ≤ c && c ≤ 'f') || ('A' ≤ c && c ≤ 'F')

def scalar? (value : Nat) : Option Char :=
  if value.isValidChar then some (Char.ofNat value) else none

def hexDigits : (count : Nat) → Reader (List Char)
  | 0 => return []
  | count + 1 => do
    let c ← char
    unless isHexDigit c do fail .escapeHexInvalidDigit (← spanOfChar)
    let more ← bumpWithBlanks
    if count ≠ 0 && !more then fail .escapeUnexpectedEnd (← spanHere)
    return c :: (← hexDigits count)

def bracedHexDigits : (count : Nat) → Reader (List Char)
  | 0 => return []
  | count + 1 => do
    let more ← bumpWithBlanks
    if !more then return []
    let c ← char
    if c == '\x7d' then return []
    unless isHexDigit c do fail .escapeHexInvalidDigit (← spanOfChar)
    return c :: (← bracedHexDigits count)

/-- The character of a hexadecimal escape whose letter comes next; `start` is where the
backslash is. -/
def hexEscape (start : Nat) : Reader Literal := do
  let letter ← char
  unless ← bumpWithBlanks do fail .escapeUnexpectedEnd (← spanHere)
  if (← char) == '\x7b' then
    let brace ← place
    let digits ← bracedHexDigits (← read).size
    if ← atEnd then fail .escapeUnexpectedEnd (← spanFrom brace)
    let stop ← place
    let _ ← bumpWithBlanks
    if digits.isEmpty then fail .escapeHexEmpty (← spanFrom brace)
    match scalar? (numeral 16 digits) with
    | some c => return { span := ← spanFrom start, char := c }
    | none => fail .escapeHexInvalid ⟨brace + 1, stop⟩
  else
    let first ← place
    let digits ← hexDigits (if letter == 'x' then 2 else if letter == 'u' then 4 else 8)
    match scalar? (numeral 16 digits) with
    | some c => return { span := ← spanFrom start, char := c, byteEscape := letter == 'x' }
    | none => fail .escapeHexInvalid (← spanFrom first)

def bracedName : (count : Nat) → Reader (List Char)
  | 0 => return []
  | count + 1 => do
    let more ← bumpWithBlanks
    if !more then return []
    let c ← char
    if c == '\x7d' then return []
    return c :: (← bracedName count)

def splitAt? (mark : List Char) : List Char → Option (List Char × List Char)
  | [] => none
  | c :: rest =>
    if mark.isPrefixOf (c :: rest) then some ([], (c :: rest).drop mark.length)
    else (splitAt? mark rest).map fun (before, after) => (c :: before, after)

def queryOf (name : List Char) : PropertyQuery :=
  let value := fun (parts : List Char × List Char) (differs : Bool) =>
    PropertyQuery.byValue (String.ofList parts.1) (String.ofList parts.2) differs
  match splitAt? ['!', '='] name, splitAt? [':'] name, splitAt? ['='] name with
  | some parts, _, _ => value parts true
  | none, some parts, _ => value parts false
  | none, none, some parts => value parts false
  | none, none, none => .byName (String.ofList name)

def propertyEscape (start : Nat) : Reader Primitive := do
  let negated := (← char) == 'P'
  unless ← bumpWithBlanks do fail .escapeUnexpectedEnd (← spanHere)
  let c ← char
  if c == '\x7b' then
    let name ← bracedName (← read).size
    if ← atEnd then fail .escapeUnexpectedEnd (← spanHere)
    let _ ← bump
    return .property (← spanFrom start) (queryOf name) negated
  if c == '\\' then fail .unicodeClassInvalid (← spanOfChar)
  let _ ← bumpWithBlanks
  return .property (← spanFrom start) (.byName (String.singleton c)) negated

def isBoundaryLetter (c : Char) : Bool :=
  c.isAlpha || c == '-'

/-- The name in braces of a special word boundary, if there is one. What looks like a
counted repetition is left to be read as such. -/
def boundaryName? (start : Nat) : Reader (Option Assertion) := do
  let brace ← place
  unless ← bumpWithBlanks do fail .wordBoundaryUnexpectedEnd (← spanFrom start)
  let first ← place
  unless isBoundaryLetter (← char) do
    moveTo brace
    return none
  let name ← takeWhile isBoundaryLetter (← read).size
  if (← atEnd) || (← char) != '\x7d' then fail .wordBoundaryUnclosed (← spanFrom brace)
  let stop ← place
  let _ ← bump
  match String.ofList name with
  | "start" => return some .wordStart
  | "end" => return some .wordEnd
  | "start-half" => return some .wordStartHalf
  | "end-half" => return some .wordEndHalf
  | _ => fail .wordBoundaryUnrecognized ⟨first, stop⟩

def isMeta (c : Char) : Bool :=
  "\\.+*?()|[]\x7b\x7d^$#&-~".toList.contains c

/-- Other characters that may be escaped: those of ASCII but letters, digits and angle
brackets. -/
def isEscapable (c : Char) : Bool :=
  isMeta c || (c.toNat < 128 && !c.isAlphanum && c != '<' && c != '>')

def controlEscape? (c : Char) : Option Char :=
  [('a', '\x07'), ('f', '\x0c'), ('t', '\t'), ('n', '\n'), ('r', '\r'), ('v', '\x0b')].lookup c

def assertionEscape? (c : Char) : Option Assertion :=
  [('A', .textStart), ('z', .textEnd), ('B', .notWordBoundary), ('<', .wordStart),
    ('>', .wordEnd)].lookup c

def letterEscape? (c : Char) : Option (LetterClass × Bool) :=
  [('d', .digit, false), ('D', .digit, true), ('s', .space, false), ('S', .space, true),
    ('w', .word, false), ('W', .word, true)].lookup c

def escape : Reader Primitive := do
  let start ← place
  unless ← bump do fail .escapeUnexpectedEnd (← spanFrom start)
  let c ← char
  if c.isDigit then fail .backreference ⟨start, (← place) + 1⟩
  if c == 'x' || c == 'u' || c == 'U' then return .literal (← hexEscape start)
  if c == 'p' || c == 'P' then return ← propertyEscape start
  let _ ← bump
  let span ← spanFrom start
  if let some (kind, negated) := letterEscape? c then return .letter span kind negated
  if isEscapable c then return .literal { span, char := c }
  if let some control := controlEscape? c then return .literal { span, char := control }
  if let some kind := assertionEscape? c then return .assertion span kind
  if c == 'b' then
    if !(← atEnd) && (← char) == '\x7b' then
      if let some kind ← boundaryName? start then return .assertion (← spanFrom start) kind
    return .assertion span .wordBoundary
  fail .escapeUnrecognized span

def primitive : Reader Primitive := do
  let c ← char
  if c == '\\' then return ← escape
  let span ← spanOfChar
  let _ ← bump
  if c == '.' then return .dot span
  if c == '^' then return .assertion span .lineStart
  if c == '$' then return .assertion span .lineEnd
  return .literal { span, char := c }

end Escapes

section Classes

def unclosedClass {α : Type} : Reader α := do
  let opened := (← get).openClasses.findSome? fun state =>
    match state with
    | .bracket span _ _ _ => some span
    | .operation _ _ => none
  fail .classUnclosed (opened.getD ⟨0, 0⟩)

def namedClass? (name : String) : Option NamedClass :=
  [("alnum", NamedClass.alnum), ("alpha", .alpha), ("ascii", .ascii), ("blank", .blank),
    ("cntrl", .cntrl), ("digit", .digit), ("graph", .graph), ("lower", .lower),
    ("print", .print), ("punct", .punct), ("space", .space), ("upper", .upper),
    ("word", .word), ("xdigit", .xdigit)].lookup name

def maybeNamedClass : Reader (Option ClassSet) := do
  let start ← place
  let text ← read
  let negated := text[start + 2]? = some '^'
  let first := if negated then start + 3 else start + 2
  let name := (text.extract first text.size).toList.takeWhile (· != ':')
  let stop := first + name.length
  if text[start + 1]? = some ':' && text[stop]? = some ':' && text[stop + 1]? = some ']' then
    match namedClass? (String.ofList name) with
    | some kind =>
      moveTo (stop + 2)
      return some (.named ⟨start, stop + 2⟩ kind negated)
    | none => return none
  return none

def leadingDashes (start : Nat) : (count : Nat) → Reader (List ClassSet)
  | 0 => return []
  | count + 1 => do
    if (← char) == '-' then
      let item := ClassSet.literal { span := ← spanOfChar, char := '-' }
      unless ← bumpWithBlanks do fail .classUnclosed ⟨start, start⟩
      return item :: (← leadingDashes start count)
    return []

/-- Opens a bracket behind some items. The items in the new bracket are returned in
reverse, with the place where they start. -/
def openBracket (outer : List ClassSet) (outerStart : Nat) : Reader (List ClassSet × Nat) := do
  let start ← place
  unless ← bumpWithBlanks do fail .classUnclosed (← spanFrom start)
  let negated := (← char) == '^'
  if negated then
    unless ← bumpWithBlanks do fail .classUnclosed (← spanFrom start)
  let first ← place
  let dashes ← leadingDashes start (← read).size
  let mut items := dashes.reverse
  if items.isEmpty && (← char) == ']' then
    items := [.literal { span := ← spanOfChar, char := ']' }]
    unless ← bumpWithBlanks do fail .classUnclosed (← spanFrom start)
  let span ← spanFrom start
  modify fun state =>
    { state with openClasses := .bracket span negated outerStart outer :: state.openClasses }
  return (items, first)

def closeOperation (right : ClassSet) : Reader ClassSet := do
  match (← get).openClasses with
  | .operation kind left :: rest =>
    modify fun state => { state with openClasses := rest }
    return .operation ⟨left.span.start, right.span.stop⟩ kind left right
  | _ => return right

def classItem : Reader Primitive := do
  if (← char) == '\\' then return ← escape
  let span ← spanOfChar
  let c ← char
  let _ ← bump
  return .literal { span, char := c }

def itemOf : Primitive → Reader ClassSet
  | .literal written => return .literal written
  | .letter span kind negated => return .letter span kind negated
  | .property span query negated => return .property span query negated
  | other => fail .classEscapeInvalid other.span

def boundOf : Primitive → Reader Literal
  | .literal written => return written
  | other => fail .classRangeLiteral other.span

def classRange : Reader ClassSet := do
  let first ← classItem
  bumpBlanks
  if ← atEnd then unclosedClass
  let next ← peekSolid?
  if (← char) != '-' || next = some ']' || next = some '-' then return ← itemOf first
  unless ← bumpWithBlanks do unclosedClass
  let second ← classItem
  let low ← boundOf first
  let high ← boundOf second
  let span := ⟨first.span.start, second.span.stop⟩
  if high.char < low.char then fail .classRangeInvalid span
  return .range span low high

def openOperation (kind : ClassOperation) (items : List ClassSet) (start : Nat) :
    Reader (List ClassSet × Nat) := do
  let left ← closeOperation (.ofItems start items.reverse)
  modify fun state => { state with openClasses := .operation kind left :: state.openClasses }
  return ([], ← place)

def classFrom : (fuel : Nat) → List ClassSet → Nat → Reader Expression
  | 0, _, _ => unclosedClass
  | fuel + 1, items, start => do
    bumpBlanks
    if ← atEnd then unclosedClass
    let c ← char
    let next ← peek?
    if c == '[' then
      if !(← get).openClasses.isEmpty then
        if let some item ← maybeNamedClass then return ← classFrom fuel (item :: items) start
      let (inner, first) ← openBracket items start
      classFrom fuel inner first
    else if c == ']' then
      let body ← closeOperation (.ofItems start items.reverse)
      let _ ← bump
      let stop ← place
      match (← get).openClasses with
      | .bracket span negated outerStart outer :: rest =>
        modify fun state => { state with openClasses := rest }
        let span := ⟨span.start, stop⟩
        if rest.isEmpty then return .bracketed span negated body
        classFrom fuel (.bracketed span negated body :: outer) outerStart
      | _ => unclosedClass
    else if c == '&' && next = some '&' then
      let _ ← bumpIf "&&"
      let (items, start) ← openOperation .intersection items start
      classFrom fuel items start
    else if c == '-' && next = some '-' then
      let _ ← bumpIf "--"
      let (items, start) ← openOperation .difference items start
      classFrom fuel items start
    else if c == '~' && next = some '~' then
      let _ ← bumpIf "~~"
      let (items, start) ← openOperation .symmetricDifference items start
      classFrom fuel items start
    else classFrom fuel ((← classRange) :: items) start

def bracketedClass : Reader Expression := do
  classFrom (2 * (← read).size + 1) [] (← place)

end Classes

section Groups

def groupName (start : Nat) : (count : Nat) → Reader (List Char)
  | 0 => return []
  | count + 1 => do
    if ← atEnd then return []
    let c ← char
    if c == '>' then return []
    let first := (← place) = start
    let fits := c == '_' || Unicode.letter.contains c ||
      (!first && (c == '.' || c == '[' || c == ']' || Unicode.number.contains c))
    unless fits do fail .groupNameInvalid (← spanOfChar)
    let _ ← bump
    return c :: (← groupName start count)

/-- Takes note of the name of a group. Names are given once. -/
def nameGroup : Reader Unit := do
  if ← atEnd then fail .groupNameUnexpectedEnd (← spanHere)
  let start ← place
  let name := String.ofList (← groupName start (← read).size)
  let span ← spanFrom start
  if ← atEnd then fail .groupNameUnexpectedEnd (← spanHere)
  let _ ← bump
  if name.isEmpty then fail .groupNameEmpty ⟨start, start⟩
  match (← get).names.lookup name with
  | some first => throw { kind := .groupNameDuplicate, span, first := some first }
  | none => modify fun state => { state with names := (name, span) :: state.names }

def flag? (c : Char) : Option Flag :=
  [('i', Flag.caseInsensitive), ('m', .multiLine), ('s', .dotMatchesLineEnd), ('U', .swapGreed),
    ('u', .unicode), ('R', .carriageReturn), ('x', .ignoreBlanks)].lookup c

/-- Reads switches up to a colon or closing parenthesis, given those so far with their
places and the place of the dash in front of those to turn off. -/
def flagsFrom : (count : Nat) → List (Flag × Span) → List (Flag × Span) → Option Span →
    (dangling : Bool) → Reader Flags
  | 0, _, _, _, _ => do fail .flagUnexpectedEnd (← spanHere)
  | count + 1, enabled, disabled, dash, dangling => do
    let c ← char
    let span ← spanOfChar
    if c == ':' || c == ')' then
      if dangling then fail .flagDanglingNegation (dash.getD span)
      return ⟨enabled.map (·.1), disabled.map (·.1)⟩
    if c == '-' then
      if let some first := dash then
        throw { kind := .flagRepeatedNegation, span, first := some first }
      unless ← bump do fail .flagUnexpectedEnd (← spanHere)
      flagsFrom count enabled disabled (some span) true
    else
      match flag? c with
      | none => fail .flagUnrecognized span
      | some flag =>
        if let some first := (enabled ++ disabled).lookup flag then
          throw { kind := .flagDuplicate, span, first := some first }
        unless ← bump do fail .flagUnexpectedEnd (← spanHere)
        if dash.isSome then flagsFrom count enabled (disabled ++ [(flag, span)]) dash false
        else flagsFrom count (enabled ++ [(flag, span)]) disabled dash false

def nextGroup : Reader Nat := do
  let index := (← get).groupCount + 1
  modify fun state => { state with groupCount := index }
  return index

def enterGroup (span : Span) (kind : GroupKind) (outer : List Expression) (start : Nat)
    (ignoreBlanks : Bool) : Reader (List Expression × Nat) := do
  modify fun state =>
    { state with
      openGroups := .group span kind start outer state.ignoreBlanks :: state.openGroups
      ignoreBlanks }
  return ([], ← place)

def openGroup (parts : List Expression) (start : Nat) : Reader (List Expression × Nat) := do
  let opening ← spanOfChar
  let _ ← bump
  bumpBlanks
  let blanks := (← get).ignoreBlanks
  if ← bumpAny ["?=", "?!", "?<=", "?<!"] then
    fail .lookAround (← spanFrom opening.start)
  let inner ← spanHere
  if ← bumpAny ["?P<", "?<"] then
    let index ← nextGroup
    nameGroup
    enterGroup opening (.capture index) parts start blanks
  else if ← bumpIf "?" then
    if ← atEnd then fail .groupUnclosed opening
    let flags ← flagsFrom (← read).size [] [] none false
    let stop ← char
    let _ ← bump
    let blanks := (flags.state? .ignoreBlanks).getD blanks
    if stop == ')' then
      if flags.enabled.isEmpty && flags.disabled.isEmpty then fail .repetitionMissing inner
      modify fun state => { state with ignoreBlanks := blanks }
      return (.flags (← spanFrom opening.start) flags :: parts, start)
    else enterGroup opening (.plain flags) parts start blanks
  else
    let index ← nextGroup
    enterGroup opening (.capture index) parts start blanks

def nextBranch (parts : List Expression) (start : Nat) : Reader (List Expression × Nat) := do
  let branch := Expression.ofParts (← spanFrom start) parts.reverse
  match (← get).openGroups with
  | .alternation first branches :: rest =>
    modify fun state =>
      { state with openGroups := .alternation first (branch :: branches) :: rest }
  | _ =>
    modify fun state => { state with openGroups := .alternation start [branch] :: state.openGroups }
  let _ ← bump
  return ([], ← place)

def closeGroup (parts : List Expression) (start : Nat) : Reader (List Expression × Nat) := do
  let branchSpan ← spanFrom start
  let branch := Expression.ofParts branchSpan parts.reverse
  let here ← spanOfChar
  let (body, groups) := match (← get).openGroups with
    | .alternation first branches :: rest =>
      (Expression.alternation ⟨first, branchSpan.stop⟩ (branch :: branches).reverse, rest)
    | groups => (branch, groups)
  match groups with
  | .group span kind outerStart outer ignoreBlanks :: rest =>
    let _ ← bump
    modify fun state => { state with openGroups := rest, ignoreBlanks }
    return (.group ⟨span.start, ← place⟩ kind body :: outer, outerStart)
  | _ => fail .groupUnopened here

def finish (parts : List Expression) (start : Nat) : Reader Expression := do
  let span ← spanFrom start
  let branch := Expression.ofParts span parts.reverse
  let (body, groups) := match (← get).openGroups with
    | .alternation first branches :: rest =>
      (Expression.alternation ⟨first, span.stop⟩ (branch :: branches).reverse, rest)
    | groups => (branch, groups)
  match groups with
  | .group span _ _ _ _ :: _ => fail .groupUnclosed span
  | _ => return body

end Groups

section Repetitions

def repeatedPart : List Expression → Reader (Expression × List Expression)
  | [] => do fail .repetitionMissing (← spanHere)
  | .flags _ _ :: _ => do fail .repetitionMissing (← spanHere)
  | .empty _ :: _ => do fail .repetitionMissing (← spanHere)
  | part :: rest => return (part, rest)

def signRepetition (least : Nat) (most : Option Nat) (parts : List Expression) :
    Reader (List Expression) := do
  let (part, rest) ← repeatedPart parts
  let lazy := (← bump) && (← char) == '?'
  if lazy then
    let _ ← bump
  return .repetition (← spanFrom part.span.start) least most (!lazy) part :: rest

/-- The bounds of a counted repetition, up to the closing brace. A fault in the first
number counts only after what follows it has been looked at. -/
def bounds (start : Nat) : Reader (Nat × Option Nat) := do
  let least ← decimal
  if ← atEnd then fail .repetitionCountUnclosed (← spanFrom start)
  if (← char) == ',' then
    unless ← bumpWithBlanks do fail .repetitionCountUnclosed (← spanFrom start)
    if (← char) == '\x7d' then return (← accept least, none)
    let least ← accept least
    return (least, some (← accept (← decimal)))
  let exact ← accept least
  return (exact, some exact)

def countedRepetition (parts : List Expression) : Reader (List Expression) := do
  let start ← place
  let (part, rest) ← repeatedPart parts
  unless ← bumpWithBlanks do fail .repetitionCountUnclosed (← spanFrom start)
  let (least, most) ← bounds start
  if (← atEnd) || (← char) != '\x7d' then fail .repetitionCountUnclosed (← spanFrom start)
  let lazy := (← bumpWithBlanks) && (← char) == '?'
  if lazy then
    let _ ← bump
  if most.any (· < least) then fail .repetitionCountInvalid (← spanFrom start)
  return .repetition (← spanFrom part.span.start) least most (!lazy) part :: rest

end Repetitions

def partsFrom : (fuel : Nat) → List Expression → Nat → Reader Expression
  | 0, parts, start => finish parts start
  | fuel + 1, parts, start => do
    bumpBlanks
    if ← atEnd then return ← finish parts start
    match ← char with
    | '(' =>
      let (parts, start) ← openGroup parts start
      partsFrom fuel parts start
    | ')' =>
      let (parts, start) ← closeGroup parts start
      partsFrom fuel parts start
    | '|' =>
      let (parts, start) ← nextBranch parts start
      partsFrom fuel parts start
    | '[' => partsFrom fuel ((← bracketedClass) :: parts) start
    | '?' => partsFrom fuel (← signRepetition 0 (some 1) parts) start
    | '*' => partsFrom fuel (← signRepetition 0 none parts) start
    | '+' => partsFrom fuel (← signRepetition 1 none parts) start
    | '\x7b' => partsFrom fuel (← countedRepetition parts) start
    | _ => partsFrom fuel ((← primitive).toExpression :: parts) start

end Reader

def Expression.read (pattern : String) : Except Fault Expression := do
  let text := pattern.toList.toArray
  let (expression, _) ← ((Reader.partsFrom (text.size + 1) [] 0).run text).run {}
  expression.checkNesting 0
  return expression

end SourceAtlas.Pattern
