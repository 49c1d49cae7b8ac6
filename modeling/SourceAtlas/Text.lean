/-! Searching in texts. -/
namespace SourceAtlas.Text

def occursIn (needle : List Char) : List Char → Bool
  | [] => needle.isEmpty
  | c :: rest => needle.isPrefixOf (c :: rest) || occursIn needle rest

end SourceAtlas.Text
