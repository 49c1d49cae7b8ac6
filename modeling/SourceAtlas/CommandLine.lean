import SourceAtlas.CommandLine.Settings
import SourceAtlas.Log.Filter
import SourceAtlas.Survey

/-! The program: makes the survey that a command line asks for and writes notes on it. -/
namespace SourceAtlas.CommandLine

namespace Settings

def level (settings : Settings) : Level :=
  if settings.verbose then .debug else if settings.quiet then .error else .info

/-- The notes that are written. A filter that was given goes first, unless it cannot be
read. -/
def filter (settings : Settings) (given : Option String) : Log.Filter :=
  (given.bind Log.Filter.ofText?).getD (Log.Filter.ofLimit (some settings.level))

end Settings

/-- What a run of the program comes to: its status, what it writes to each of its outputs,
and the files after it. -/
structure Execution where
  status : Nat
  output : String
  errors : String
  fs : FileSystem

def render (filter : Log.Filter) (elapsed : String) (notes : List Note) : String :=
  String.join ((notes.filter filter.admits).map (Log.line elapsed))

def Stop.execution (fs : FileSystem) : Stop → Execution
  | help => ⟨0, helpText, "", fs⟩
  | version => ⟨0, versionText, "", fs⟩
  | misuse fault => ⟨2, "", fault.message, fs⟩

/-- Runs the program on a command line and the filter from its surroundings. A survey is
successful even if its report could not be saved. -/
def execute (fs : FileSystem) (given : Option String) (elapsed : String)
    (arguments : List Bytes) : Execution :=
  match readArguments arguments with
  | .error stop => stop.execution fs
  | .ok settings =>
    let completed := survey fs Registry.default settings.options
    ⟨0, "", render (settings.filter given) elapsed completed.notes, completed.fs⟩

end SourceAtlas.CommandLine
