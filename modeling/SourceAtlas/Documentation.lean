import SourceAtlas.Text
import SourceAtlas.Unicode.Lowercase

/-! Which files are documentation. -/
namespace SourceAtlas.Documentation

def marker : String := "readme"

def isDocumentation (name : String) : Bool :=
  Text.occursIn marker.toList (Unicode.lowercase name).toList

end SourceAtlas.Documentation
