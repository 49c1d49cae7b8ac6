import SourceAtlas.Unicode.Category
import SourceAtlas.Unicode.Extender

/-! Texts in quotation marks, with everything escaped that cannot be seen by itself. -/
namespace SourceAtlas.Text.Quoted

def hexadecimal (value : Nat) : String :=
  String.ofList (Nat.toDigits 16 value)

def unprintable : List String := ["Cc", "Cf", "Cs", "Co", "Cn", "Zl", "Zp", "Zs"]

/-- Whether a character shows when printed. The only blank that does is the space. -/
def isPrintable (c : Char) : Bool :=
  c == ' ' || unprintable.all (· ≠ Unicode.category c)

def escape (c : Char) : String :=
  if c == '\x00' then "\\0"
  else if c == '\t' then "\\t"
  else if c == '\r' then "\\r"
  else if c == '\n' then "\\n"
  else if c == '\\' then "\\\\"
  else if c == '"' then "\\\""
  else if Unicode.extender.contains c || !isPrintable c then
    "\\u\x7b" ++ hexadecimal c.toNat ++ "\x7d"
  else String.singleton c

def quote (text : String) : String :=
  "\"" ++ String.join (text.toList.map escape) ++ "\""

end SourceAtlas.Text.Quoted
