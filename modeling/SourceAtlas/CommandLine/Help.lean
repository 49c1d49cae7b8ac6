import SourceAtlas.CommandLine.Argument

/-! What the program says about its own use. -/
namespace SourceAtlas.CommandLine

def programName : String := "codesurvey"

def versionText : String := programName ++ " 0.1.0\n"

/-- How the program is called. With no arguments in particular all options are meant;
otherwise those that are named, and the root, which is needed only if named. -/
def usage (named : List Argument) : String :=
  let shown :=
    if named.isEmpty then ["[OPTIONS]", Argument.root.display]
    else
      (named.filter (· ≠ .root)).eraseDups.map Argument.display ++
        [if .root ∈ named then "<ROOT>" else Argument.root.display]
  "Usage: " ++ " ".intercalate (programName :: shown)

namespace Argument

def synopsis (argument : Argument) : String :=
  match argument.longName?, argument.letter? with
  | none, _ => argument.display
  | some _, some letter => "-" ++ letter.toString ++ ", " ++ argument.display
  | some _, none => "    " ++ argument.display

def remarks (argument : Argument) : String :=
  (match argument.defaultValue? with
    | some value => " [default: " ++ value ++ "]"
    | none => "") ++
  (if argument.possibleValues.isEmpty then ""
    else " [possible values: " ++ ", ".intercalate argument.possibleValues ++ "]")

def helpLine (width : Nat) (argument : Argument) : String :=
  "  " ++ argument.synopsis ++
    String.ofList (List.replicate (width - argument.synopsis.length) ' ') ++ "  " ++
    argument.description ++ argument.remarks ++ "\n"

end Argument

def helpLines (arguments : List Argument) : String :=
  let width := arguments.foldl (fun width argument => max width argument.synopsis.length) 0
  String.join (arguments.map (·.helpLine width))

def helpText : String :=
  "Survey a source tree: directory layout, symbols and readme text in one JSON file\n\n" ++
    usage [] ++ "\n\nArguments:\n" ++ helpLines [.root] ++ "\nOptions:\n" ++
    helpLines Argument.options

end SourceAtlas.CommandLine
