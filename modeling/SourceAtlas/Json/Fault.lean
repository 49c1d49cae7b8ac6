/-! What is wrong with a JSON text, or with what it holds. -/
namespace SourceAtlas.Json

/-- The cause of a failure to read. `data` is for texts that are proper JSON but do not
hold what is asked for. -/
inductive Cause where
  | data (message : String)
  | endInList
  | endInObject
  | endInString
  | endInValue
  | expectedColon
  | expectedListEnd
  | expectedObjectEnd
  | expectedIdentifier
  | expectedValue
  | invalidEscape
  | invalidNumber
  | numberOutOfRange
  | controlCharacter
  | keyNotString
  | loneSurrogate
  | trailingComma
  | trailingCharacters
  | unfinishedEscape
  | tooDeep
deriving DecidableEq, Repr

inductive Category where
  | data
  | truncated
  | malformed
deriving DecidableEq, Repr

namespace Cause

def message : Cause → String
  | data message => message
  | endInList => "EOF while parsing a list"
  | endInObject => "EOF while parsing an object"
  | endInString => "EOF while parsing a string"
  | endInValue => "EOF while parsing a value"
  | expectedColon => "expected `:`"
  | expectedListEnd => "expected `,` or `]`"
  | expectedObjectEnd => "expected `,` or `\x7d`"
  | expectedIdentifier => "expected ident"
  | expectedValue => "expected value"
  | invalidEscape => "invalid escape"
  | invalidNumber => "invalid number"
  | numberOutOfRange => "number out of range"
  | controlCharacter => "control character (\\u0000-\\u001F) found while parsing a string"
  | keyNotString => "key must be a string"
  | loneSurrogate => "lone leading surrogate in hex escape"
  | trailingComma => "trailing comma"
  | trailingCharacters => "trailing characters"
  | unfinishedEscape => "unexpected end of hex escape"
  | tooDeep => "recursion limit exceeded"

def category : Cause → Category
  | data _ => .data
  | endInList | endInObject | endInString | endInValue => .truncated
  | _ => .malformed

end Cause

/-- A failure and how many bytes were in front of it. What is wrong with the data gets its
place only from what reads around it. -/
structure Fault where
  cause : Cause
  place : Option Nat
deriving DecidableEq, Repr

/-- A failure to read a text, with line and column. Lines count from one, columns are the
bytes of the line in front. -/
structure ReadError where
  cause : Cause
  line : Nat
  column : Nat
deriving DecidableEq, Repr

namespace ReadError

def message (error : ReadError) : String :=
  error.cause.message ++ " at line " ++ toString error.line ++ " column " ++ toString error.column

end ReadError

end SourceAtlas.Json
