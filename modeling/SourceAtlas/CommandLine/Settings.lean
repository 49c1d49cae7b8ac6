import SourceAtlas.CommandLine.Misuse
import SourceAtlas.Options
import SourceAtlas.Text.Similarity

/-! Reads a command line. Arguments are taken one by one; a value is looked at when the
next argument shows that it is complete. -/
namespace SourceAtlas.CommandLine

structure Settings where
  options : Options := { root := Path.ofText "." }
  verbose : Bool := false
  quiet : Bool := false
deriving DecidableEq

inductive Stop where
  | help
  | version
  | misuse (misuse : Misuse)
deriving DecidableEq

structure Progress where
  settings : Settings := {}
  /-- Arguments that were accepted, in their order. -/
  named : List Argument := []
  /-- An argument that was not yet looked at, with its value unless that is to follow. -/
  pending : Option (Argument × Option Bytes) := none
  rootSeen : Bool := false
  /-- After two dashes only the root can follow. -/
  optionsEnded : Bool := false

abbrev Reading := Except Stop

def refuse {α : Type} (misuse : Misuse) : Reading α :=
  .error (.misuse misuse)

def maxNumber : Nat := 0xFFFFFFFFFFFFFFFF

def readDigits : Nat → List Char → Except NumberFault Nat
  | number, [] => .ok number
  | number, c :: rest =>
    if !c.isDigit then .error .invalidDigit
    else
      let next := 10 * number + (c.toNat - '0'.toNat)
      if maxNumber < next then .error .tooLarge else readDigits next rest

def readNumber (text : String) : Except NumberFault Nat :=
  match text.toList with
  | [] => .error .empty
  | ['+'] => .error .invalidDigit
  | '+' :: digits => readDigits 0 digits
  | digits => readDigits 0 digits

def readPath (argument : Argument) (value : Bytes) : Reading Path :=
  if value.isEmpty then refuse (.noValue argument) else .ok value

def readAddressing (value : Bytes) : Reading Addressing :=
  match Bytes.toText? value with
  | some "relative" => .ok .relative
  | some "file-name" => .ok .fileName
  | _ =>
    if value.isEmpty then refuse (.noValue .addressing)
    else
      let shown := Bytes.toText value
      refuse (.unlisted .addressing shown
        (Text.closest? shown Argument.addressing.possibleValues))

def readLimit (value : Bytes) : Reading Nat :=
  match Bytes.toText? value with
  | none => refuse .notText
  | some text =>
    match readNumber text with
    | .ok number => .ok number
    | .error fault => refuse (.noNumber .maxFileSize text fault)

namespace Settings

def withValue (settings : Settings) (argument : Argument) (value : Bytes) : Reading Settings := do
  let options := settings.options
  match argument with
  | .root => return { settings with options := { options with root := ← readPath .root value } }
  | .output =>
    return { settings with options := { options with output := ← readPath .output value } }
  | .addressing =>
    return { settings with options := { options with addressing := ← readAddressing value } }
  | .workingDirectory =>
    let directory ← readPath .workingDirectory value
    return { settings with options := { options with workingDirectory := some directory } }
  | .maxFileSize =>
    return { settings with options := { options with maxFileSize := ← readLimit value } }
  | _ => return settings

def withFlag (settings : Settings) (argument : Argument) : Reading Settings :=
  match argument with
  | .followLinks => .ok { settings with options := { settings.options with followLinks := true } }
  | .verbose => .ok { settings with verbose := true }
  | .quiet => .ok { settings with quiet := true }
  | .help => .error .help
  | .version => .error .version
  | _ => .ok settings

end Settings

namespace Progress

/-- Accepts an argument. It must not have been given before. -/
def accept (progress : Progress) (argument : Argument)
    (change : Settings → Reading Settings) : Reading Progress := do
  if argument ∈ progress.named then refuse (.repeated argument)
  let settings ← change progress.settings
  return { progress with settings, named := progress.named ++ [argument] }

def settle (progress : Progress) : Reading Progress :=
  match progress.pending with
  | none => .ok progress
  | some (argument, none) => refuse (.noValue argument)
  | some (argument, some value) =>
    { progress with pending := none }.accept argument (·.withValue argument value)

def takeOption (progress : Progress) (argument : Argument) (value : Option Bytes) :
    Reading Progress := do
  let progress ← progress.settle
  match value with
  | some value => progress.accept argument (·.withValue argument value)
  | none => return { progress with pending := some (argument, none) }

def takeFlag (progress : Progress) (argument : Argument) : Reading Progress := do
  let progress ← progress.settle
  progress.accept argument (·.withFlag argument)

def takeRoot (progress : Progress) (value : Bytes) : Reading Progress := do
  let progress ← progress.settle
  if progress.rootSeen then refuse (.unknown (Bytes.toText value) none [])
  return { progress with pending := some (.root, some value), rootSeen := true }

def refuseLong (progress : Progress) (name : String) : Reading Progress :=
  let names := Argument.options.filterMap Argument.longName?
  match (Text.closest? name names).bind Argument.ofLongName? with
  | some similar =>
    refuse (.unknown ("--" ++ name) (some (.similar similar)) (progress.named ++ [similar]))
  | none => refuse (.unknown ("--" ++ name) (some .asValue) progress.named)

def takeLong (progress : Progress) (written : Bytes) : Reading Progress :=
  let isEquals : UInt8 → Bool := (· == 0x3D)
  let name := written.takeWhile (!isEquals ·)
  let value := (written.dropWhile (!isEquals ·)).tail?
  match (Bytes.toText? name).bind Argument.ofLongName? with
  | none => progress.refuseLong (Bytes.toText name)
  | some argument =>
    if argument.takesValue then progress.takeOption argument value
    else
      match value with
      | some value =>
        refuse (.extraValue argument (Bytes.toText value) (progress.named ++ [argument]))
      | none => progress.takeFlag argument

/-- Takes the letters after one dash. What follows the letter of an option is its value,
with or without an equals sign. -/
def takeLetters (progress : Progress) : Bytes → Reading Progress
  | [] => .ok progress
  | byte :: rest =>
    have := Bytes.length_decodeFirst_le byte rest
    let letter := (Bytes.decodeFirst byte rest).1
    if !(Bytes.ofText letter.toString).isPrefixOf (byte :: rest) then
      refuse (.unknown ("-" ++ Bytes.toText (byte :: rest)) (some .asValue) [])
    else
      match Argument.ofLetter? letter with
      | none => refuse (.unknown ("-" ++ letter.toString) (some .asValue) [])
      | some argument =>
        if argument.takesValue then
          match (Bytes.decodeFirst byte rest).2 with
          | [] => progress.takeOption argument none
          | 0x3D :: value => progress.takeOption argument (some value)
          | value => progress.takeOption argument (some value)
        else
          match progress.takeFlag argument with
          | .ok progress => progress.takeLetters (Bytes.decodeFirst byte rest).2
          | .error stop => .error stop
termination_by written => written.length

def take (progress : Progress) (written : Bytes) : Reading Progress :=
  if progress.optionsEnded then progress.takeRoot written
  else
    match written with
    | [0x2D, 0x2D] => .ok { progress with optionsEnded := true }
    | 0x2D :: 0x2D :: rest => progress.takeLong rest
    | 0x2D :: letter :: rest => progress.takeLetters (letter :: rest)
    | _ =>
      match progress.pending with
      | some (argument, none) => .ok { progress with pending := some (argument, some written) }
      | _ => progress.takeRoot written

def finish (progress : Progress) : Reading Settings := do
  let progress ← progress.settle
  let settings := progress.settings
  if settings.verbose && settings.quiet then
    let (first, other) : Argument × Argument :=
      if progress.named.find? (· ∈ [.verbose, .quiet]) = some .quiet then (.quiet, .verbose)
      else (.verbose, .quiet)
    refuse (.conflict first other (progress.named.filter (· ≠ other)))
  return settings

end Progress

def readArguments (arguments : List Bytes) : Reading Settings := do
  (← arguments.foldlM Progress.take {}).finish

end SourceAtlas.CommandLine
