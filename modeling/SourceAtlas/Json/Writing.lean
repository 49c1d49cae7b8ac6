import SourceAtlas.Bytes

/-! Writes JSON over several lines, each level indented by the same bytes. -/
namespace SourceAtlas.Json

inductive Value where
  | text (content : String)
  | list (elements : List Value)
  | object (members : List (String × Value))

namespace Value

def hexDigit (value : Nat) : Char :=
  if value < 10 then Char.ofNat (48 + value) else Char.ofNat (87 + value)

def escape (c : Char) : List Char :=
  if c == '"' then ['\\', '"']
  else if c == '\\' then ['\\', '\\']
  else if c == '\x08' then ['\\', 'b']
  else if c == '\x0c' then ['\\', 'f']
  else if c == '\n' then ['\\', 'n']
  else if c == '\r' then ['\\', 'r']
  else if c == '\t' then ['\\', 't']
  else if c.toNat < 32 then
    ['\\', 'u', '0', '0', hexDigit (c.toNat / 16), hexDigit (c.toNat % 16)]
  else [c]

def quoted (text : String) : Bytes :=
  Bytes.ofText (String.ofList ('"' :: text.toList.flatMap escape ++ ['"']))

def lineStart (indent : Bytes) (level : Nat) : Bytes :=
  0x0A :: (List.replicate level indent).flatten

/-- Puts lines between brackets, each with a comma but the last. Without any, the brackets
stand side by side. -/
def enclose (opening closing : UInt8) (indent : Bytes) (level : Nat) (lines : List Bytes) : Bytes :=
  if lines.isEmpty then [opening, closing]
  else
    let separated := List.intersperse [0x2C] (lines.map (lineStart indent (level + 1) ++ ·))
    opening :: separated.flatten ++ lineStart indent level ++ [closing]

mutual

def render (indent : Bytes) (level : Nat) : Value → Bytes
  | .text content => quoted content
  | .list elements => enclose 0x5B 0x5D indent level (renderAll indent (level + 1) elements)
  | .object members => enclose 0x7B 0x7D indent level (renderMembers indent (level + 1) members)

def renderAll (indent : Bytes) (level : Nat) : List Value → List Bytes
  | [] => []
  | value :: rest => value.render indent level :: renderAll indent level rest

def renderMembers (indent : Bytes) (level : Nat) : List (String × Value) → List Bytes
  | [] => []
  | (key, value) :: rest =>
    (quoted key ++ [0x3A, 0x20] ++ value.render indent level) :: renderMembers indent level rest

end

end Value

end SourceAtlas.Json
