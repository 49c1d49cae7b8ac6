import SourceAtlas.Path

/-! What a survey is asked to do. -/
namespace SourceAtlas

/-- How files are named in the report and opened: by their path below the root, or by
their bare name from one directory. -/
inductive Addressing where
  | relative
  | fileName
deriving DecidableEq, Repr

/-- The settings of a survey. A size limit of zero stands for none. -/
structure Options where
  root : Path
  output : Path := Path.ofText "codebase_analysis.json"
  addressing : Addressing := .relative
  workingDirectory : Option Path := none
  followLinks : Bool := false
  maxFileSize : Nat := 1048576
deriving DecidableEq

namespace Options

def sizeLimit (options : Options) : Option Nat :=
  if 0 < options.maxFileSize then some options.maxFileSize else none

def baseDirectory (options : Options) : Path :=
  match options.addressing with
  | .relative => options.root
  | .fileName => options.workingDirectory.getD (Path.ofText ".")

end Options

end SourceAtlas
