import SourceAtlas.Collection
import SourceAtlas.PatternReader
import SourceAtlas.Problem
import SourceAtlas.Python.Reading

/-! The languages that a survey knows, by file extension. -/
namespace SourceAtlas

/-- How the texts of a language are outlined. The path of a text is only for messages. -/
structure LanguageReader where
  language : String
  isSupported : Bool := true
  outline : String → Path → Except Problem Outline

namespace LanguageReader

def python : LanguageReader where
  language := "python"
  outline text path := (Python.outline text).mapError fun place => .malformed path place.line place.column

def patterns (reader : PatternReader) : LanguageReader where
  language := reader.language
  outline text _ := .ok (reader.outline text)

/-- Stands for every language that is not read. -/
def unsupported : LanguageReader where
  language := "unsupported"
  isSupported := false
  outline _ _ := .ok {}

end LanguageReader

/-- Readers by extension, in the order of the extensions. -/
structure Registry where
  readers : List (String × LanguageReader)

namespace Registry

def empty : Registry := ⟨[]⟩

def register (extensions : List String) (reader : LanguageReader) (registry : Registry) :
    Registry :=
  ⟨extensions.foldl (fun readers extension => Keyed.insert extension reader readers)
    registry.readers⟩

def default : Registry :=
  empty
    |>.register ["py"] .python
    |>.register ["js", "ts", "jsx", "tsx"] (.patterns .ecmascript)
    |>.register ["java"] (.patterns .java)

def extensions (registry : Registry) : List String :=
  registry.readers.map (·.1)

def forExtension (extension : Option String) (registry : Registry) : LanguageReader :=
  (extension.bind (Keyed.find? · registry.readers)).getD .unsupported

/-- The reader for a path. An extension that is no text is none. -/
def forPath (path : Path) (registry : Registry) : LanguageReader :=
  registry.forExtension (path.extension?.bind Bytes.toText?)

end Registry

end SourceAtlas
