import SourceAtlas.CommandLine
import SourceAtlas.FileSystem.Archive

/-! The command line program. The files to survey come as an archive on standard input;
the report is written to the output path. -/
namespace SourceAtlas.CommandLine

/-- Reads a stream to its end. -/
partial def readAll (stream : IO.FS.Stream) (soFar : ByteArray) : IO ByteArray := do
  let chunk ← stream.read 65536
  if chunk.isEmpty then return soFar else readAll stream (soFar ++ chunk)

def seconds (milliseconds : Nat) : String :=
  let hundredths := (milliseconds + 5) / 10
  let places := toString (hundredths % 100)
  toString (hundredths / 100) ++ "." ++ (if places.length < 2 then "0" ++ places else places) ++ "s"

def save (output : Path) (fs : FileSystem) : IO Unit := do
  if let .ok content := fs.read output then
    IO.FS.writeBinFile output.display ⟨content.toArray⟩

def runProgram (arguments : List String) : IO UInt32 := do
  match readArguments (arguments.map Bytes.ofText) with
  | .error stop =>
    let result := stop.execution (FileSystem.Archive.read [])
    IO.print result.output
    IO.eprint result.errors
    return result.status.toUInt32
  | .ok settings =>
    let start ← IO.monoMsNow
    let archive ← readAll (← IO.getStdin) ByteArray.empty
    let files := FileSystem.Archive.read archive.toList
    let completed := survey files Registry.default settings.options
    if completed.summary.saved then save settings.options.output completed.fs
    let elapsed := seconds ((← IO.monoMsNow) - start)
    IO.eprint (render (settings.filter (← IO.getEnv "RUST_LOG")) elapsed completed.notes)
    return 0

end SourceAtlas.CommandLine

def main (arguments : List String) : IO UInt32 :=
  SourceAtlas.CommandLine.runProgram arguments
