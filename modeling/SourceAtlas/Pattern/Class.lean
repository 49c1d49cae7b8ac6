import SourceAtlas.Pattern.Expression
import SourceAtlas.Unicode.CaseVariants
import SourceAtlas.Unicode.Category
import SourceAtlas.Unicode.Letter
import SourceAtlas.Unicode.LetterCase
import SourceAtlas.Unicode.Script
import SourceAtlas.Unicode.Word

/-! Classes of characters that patterns can name. -/
namespace SourceAtlas.Pattern

abbrev CharClass := Char → Bool

namespace CharClass

def negate (members : CharClass) : CharClass :=
  fun c => !members c

def union (left right : CharClass) : CharClass :=
  fun c => left c || right c

def between (low high : Char) : CharClass :=
  fun c => low ≤ c && c ≤ high

def foldCase (members : CharClass) : CharClass :=
  fun c => (Unicode.caseVariants c).any members

def foldAsciiCase (members : CharClass) : CharClass :=
  fun c => members c || members c.toLower || members c.toUpper

def isAscii (members : CharClass) : Bool :=
  (List.range' 128 128).all fun byte => !members (Char.ofNat byte)

end CharClass

def asciiSpace : CharClass :=
  fun c => c == ' ' || CharClass.between '\t' '\r' c

def asciiWord : CharClass :=
  fun c => c.isAlphanum || c == '_'

def LetterClass.members (unicode : Bool) : LetterClass → CharClass
  | .digit => if unicode then Unicode.decimalDigit.contains else Char.isDigit
  | .space => if unicode then Unicode.blank.contains else asciiSpace
  | .word => if unicode then Unicode.wordCharacter.contains else asciiWord

def asciiPunctuation : CharClass :=
  fun c => CharClass.between '!' '~' c && !c.isAlphanum

def NamedClass.members : NamedClass → CharClass
  | .alnum => Char.isAlphanum
  | .alpha => Char.isAlpha
  | .ascii => fun c => c.toNat < 128
  | .blank => fun c => c == '\t' || c == ' '
  | .cntrl => fun c => c.toNat < 32 || c.toNat = 127
  | .digit => Char.isDigit
  | .graph => CharClass.between '!' '~'
  | .lower => Char.isLower
  | .print => CharClass.between ' ' '~'
  | .punct => asciiPunctuation
  | .space => asciiSpace
  | .upper => Char.isUpper
  | .word => asciiWord
  | .xdigit => fun c =>
    c.isDigit || CharClass.between 'a' 'f' c || CharClass.between 'A' 'F' c

section Properties

/-- A name as it is compared: in small letters, without blanks, dashes and underscores,
and without a leading "is". -/
def normalizedName (name : String) : String :=
  let lower := (name.toList.filter (·.toNat < 128)).map Char.toLower
  let stripped := if ['i', 's'].isPrefixOf lower then lower.drop 2 else lower
  let solid := stripped.filter fun c => c != ' ' && c != '_' && c != '-'
  if ['i', 's'].isPrefixOf lower && solid = ['c'] then "isc" else String.ofList solid

def binaryProperty? (name : String) : Option CharClass :=
  [("alphabetic", Unicode.letter.contains), ("alpha", Unicode.letter.contains),
    ("uppercase", Unicode.uppercaseLetter.contains), ("upper", Unicode.uppercaseLetter.contains),
    ("lowercase", Unicode.lowercaseLetter.contains), ("lower", Unicode.lowercaseLetter.contains),
    ("whitespace", Unicode.blank.contains), ("wspace", Unicode.blank.contains),
    ("space", Unicode.blank.contains),
    ("asciihexdigit", NamedClass.members .xdigit), ("ahex", NamedClass.members .xdigit)].lookup name

def categoryClass? (name : String) : Option CharClass :=
  if name = "any" then some fun _ => true
  else if name = "ascii" then some fun c => c.toNat < 128
  else if name = "assigned" then some fun c => Unicode.category c != "Cn"
  else (Unicode.categoryNames.lookup name).map fun members c =>
    members.contains (Unicode.category c)

def scriptClass? (name : String) : Option CharClass :=
  (Unicode.scriptNames.lookup name).map fun number c => Unicode.script c = number

def PropertyQuery.members : PropertyQuery → Except FaultKind CharClass
  | .byName written =>
    let name := normalizedName written
    let found := binaryProperty? name <|> categoryClass? name <|> scriptClass? name
    match found with
    | some members => .ok members
    | none => .error .propertyNotFound
  | .byValue property value differs =>
    let property := normalizedName property
    let value := normalizedName value
    let found :=
      if property = "generalcategory" || property = "gc" then some (categoryClass? value)
      else if property = "script" || property = "sc" then some (scriptClass? value)
      else none
    match found with
    | none => .error .propertyNotFound
    | some none => .error .propertyValueNotFound
    | some (some members) => .ok (if differs then members.negate else members)

end Properties

end SourceAtlas.Pattern
