import SourceAtlas.Outline
import SourceAtlas.Pattern.Building

/-! Outlines by patterns: a quick look at a text without parsing it. What looks like a
definition in a comment or a string is taken for one. -/
namespace SourceAtlas

/-- A language whose classes, functions and imports are found by patterns. -/
structure PatternReader where
  language : String
  classes : Pattern
  functions : Pattern
  imports : Pattern

namespace PatternReader
open Pattern

def outline (reader : PatternReader) (text : String) : Outline :=
  let chars := text.toList.toArray
  { classes := reader.classes.extract chars
    functions := reader.functions.extract chars
    imports := reader.imports.extract chars }

def compile (language classes functions imports : String) : Except String PatternReader := do
  let pattern := fun written => (Pattern.compile written).mapError (Fault.message written)
  return {
    language
    classes := ← pattern classes
    functions := ← pattern functions
    imports := ← pattern imports }

def classPattern : Pattern :=
  all [text "class", some blank, .group 1 (some wordCharacter)]

/-- A function with a name, or a constant that is set to a function or an arrow. -/
def ecmascriptFunction : Pattern :=
  firstOf [
    all [text "function", some blank, .group 1 (some wordCharacter)],
    all [text "const", some blank, .group 2 (some wordCharacter), anyNumber blank, text "=",
      anyNumber blank,
      firstOf [text "function", all [bracketed, anyNumber blank, text "=>"]]]]

/-- A line that imports something, up to the first semicolon that ends a line. -/
def ecmascriptImport : Pattern :=
  all [lineStart,
    .group 1 (all [text "import", some blank, anyNumberLazily onLine, text ";"]),
    lineEnd]

/-- A modifier or a blank, a type, a name, parameters and an opening brace. -/
def javaFunction : Pattern :=
  all [
    firstOf [text "public", text "private", text "protected", text "static", .one blank],
    some space,
    some fun c => wordCharacter c || c == '<' || c == '>' || c == '[' || c == ']',
    some blank,
    .group 1 (some wordCharacter),
    anyNumber space,
    bracketed,
    anyNumber space,
    text "\x7b"]

/-- A line that imports something, up to the last semicolon that ends a line. -/
def javaImport : Pattern :=
  all [lineStart,
    .group 1 (all [text "import", some blank, anyNumber onLine, text ";"]),
    lineEnd]

def ecmascript : PatternReader :=
  ⟨"ecmascript", classPattern, ecmascriptFunction, ecmascriptImport⟩

def java : PatternReader :=
  ⟨"java", classPattern, javaFunction, javaImport⟩

end PatternReader

end SourceAtlas
