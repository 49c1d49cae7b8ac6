import SourceAtlas.Pattern.Meaning

/-! Patterns built from parts rather than read from their written form. -/
namespace SourceAtlas.Pattern

def text (fixed : String) : Pattern :=
  fixed.toList.foldr (fun c rest => .sequence (.one (· == c)) rest) .empty

def all (parts : List Pattern) : Pattern :=
  parts.foldr .sequence .empty

def firstOf (branches : List Pattern) : Pattern :=
  branches.foldr .either (.one fun _ => false)

def some (accepts : CharClass) : Pattern :=
  .many accepts true

def anyNumber (accepts : CharClass) : Pattern :=
  .optional (.many accepts true) true

def anyNumberLazily (accepts : CharClass) : Pattern :=
  .optional (.many accepts false) false

def blank : CharClass := Unicode.blank.contains

def wordCharacter : CharClass := Unicode.wordCharacter.contains

def space : CharClass := (· == ' ')

def onLine : CharClass := (· != '\n')

def lineStart : Pattern := .look (atLineStart false)

def lineEnd : Pattern := .look (atLineEnd false)

def bracketed : Pattern :=
  all [text "(", anyNumber (· != ')'), text ")"]

end SourceAtlas.Pattern
