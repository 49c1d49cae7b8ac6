/-! The arguments of the command line. -/
namespace SourceAtlas.CommandLine

inductive Argument where
  | root
  | output
  | addressing
  | workingDirectory
  | followLinks
  | maxFileSize
  | verbose
  | quiet
  | help
  | version
deriving DecidableEq, Repr

namespace Argument

def options : List Argument :=
  [output, addressing, workingDirectory, followLinks, maxFileSize, verbose, quiet, help, version]

/-- The name after two dashes. The root has none. -/
def longName? : Argument → Option String
  | root => none
  | output => some "output"
  | addressing => some "path-mode"
  | workingDirectory => some "working-dir"
  | followLinks => some "follow-symlinks"
  | maxFileSize => some "max-file-size"
  | verbose => some "verbose"
  | quiet => some "quiet"
  | help => some "help"
  | version => some "version"

def letter? : Argument → Option Char
  | output => some 'o'
  | verbose => some 'v'
  | quiet => some 'q'
  | help => some 'h'
  | version => some 'V'
  | _ => none

/-- What the value of an argument is called. Flags have no value. -/
def valueName? : Argument → Option String
  | root => some "ROOT"
  | output => some "FILE"
  | addressing => some "PATH_MODE"
  | workingDirectory => some "DIR"
  | maxFileSize => some "BYTES"
  | _ => none

def takesValue (argument : Argument) : Bool :=
  argument.valueName?.isSome

def possibleValues : Argument → List String
  | addressing => ["relative", "file-name"]
  | _ => []

def defaultValue? : Argument → Option String
  | root => some "."
  | output => some "codebase_analysis.json"
  | addressing => some "relative"
  | maxFileSize => some "1048576"
  | _ => none

def description : Argument → String
  | root => "Directory to scan"
  | output => "Output file path"
  | addressing => "How files are keyed in the report"
  | workingDirectory => "Directory bare file names are opened from (file-name mode only)"
  | followLinks => "Descend into symlinked directories"
  | maxFileSize => "Skip files larger than this many bytes (0 = no limit)"
  | verbose => "Debug output"
  | quiet => "Errors only"
  | help => "Print help"
  | version => "Print version"

def ofLongName? (name : String) : Option Argument :=
  options.find? fun argument => argument.longName? = some name

def ofLetter? (letter : Char) : Option Argument :=
  options.find? fun argument => argument.letter? = some letter

def display (argument : Argument) : String :=
  match argument.longName?, argument.valueName? with
  | some name, some value => "--" ++ name ++ " <" ++ value ++ ">"
  | some name, none => "--" ++ name
  | none, some value => "[" ++ value ++ "]"
  | none, none => ""

end Argument

end SourceAtlas.CommandLine
