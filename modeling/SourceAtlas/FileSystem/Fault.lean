/-! Why an operation on files fails. -/
namespace SourceAtlas.FileSystem

inductive Fault where
  | missing
  | denied
  | occupied
  | notDirectory
  | isDirectory
  | nameTooLong
  | tooManyLinks
  | nulByte
deriving DecidableEq, Repr

namespace Fault

/-- The wording and the number that the system has for a cause. A path with a NUL byte is
refused before the system sees it. -/
def message : Fault → String
  | missing => "No such file or directory (os error 2)"
  | denied => "Permission denied (os error 13)"
  | occupied => "File exists (os error 17)"
  | notDirectory => "Not a directory (os error 20)"
  | isDirectory => "Is a directory (os error 21)"
  | nameTooLong => "File name too long (os error 36)"
  | tooManyLinks => "Too many levels of symbolic links (os error 40)"
  | nulByte => "file name contained an unexpected NUL byte"

end Fault

end SourceAtlas.FileSystem
