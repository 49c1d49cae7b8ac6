import SourceAtlas.CommandLine.Help

/-! Command lines that are refused. -/
namespace SourceAtlas.CommandLine

/-- What may have been meant by an argument that is not known. -/
inductive Hint where
  | similar (argument : Argument)
  | asValue
deriving DecidableEq

inductive NumberFault where
  | empty
  | invalidDigit
  | tooLarge
deriving DecidableEq

def NumberFault.message : NumberFault → String
  | empty => "cannot parse integer from empty string"
  | invalidDigit => "invalid digit found in string"
  | tooLarge => "number too large to fit in target type"

/-- Why a command line is refused. Where the arguments so far show how the program was to
be called, they are named. -/
inductive Misuse where
  | unknown (argument : String) (hint : Option Hint) (named : List Argument)
  | noValue (argument : Argument)
  | unlisted (argument : Argument) (value : String) (similar : Option String)
  | noNumber (argument : Argument) (value : String) (fault : NumberFault)
  | notText
  | repeated (argument : Argument)
  | conflict (argument other : Argument) (named : List Argument)
  | extraValue (argument : Argument) (value : String) (named : List Argument)
deriving DecidableEq

namespace Misuse

def listing (argument : Argument) : String :=
  if argument.possibleValues.isEmpty then ""
  else "\n  [possible values: " ++ ", ".intercalate argument.possibleValues ++ "]"

def hintText (argument : String) : Option Hint → String
  | some (.similar other) =>
    "\n\n  tip: a similar argument exists: '--" ++ other.longName?.getD "" ++ "'"
  | some .asValue =>
    "\n\n  tip: to pass '" ++ argument ++ "' as a value, use '-- " ++ argument ++ "'"
  | none => ""

def explanation : Misuse → String
  | unknown argument hint named =>
    "unexpected argument '" ++ argument ++ "' found" ++ hintText argument hint ++ "\n\n" ++
      usage named
  | noValue argument =>
    "a value is required for '" ++ argument.display ++ "' but none was supplied" ++
      listing argument
  | unlisted argument value similar =>
    "invalid value '" ++ value ++ "' for '" ++ argument.display ++ "'" ++ listing argument ++
      match similar with
      | some other => "\n\n  tip: a similar value exists: '" ++ other ++ "'"
      | none => ""
  | noNumber argument value fault =>
    "invalid value '" ++ value ++ "' for '" ++ argument.display ++ "': " ++ fault.message
  | notText => "invalid UTF-8 was detected in one or more arguments\n\n" ++ usage []
  | repeated argument =>
    "the argument '" ++ argument.display ++ "' cannot be used multiple times\n\n" ++ usage []
  | conflict argument other named =>
    "the argument '" ++ argument.display ++ "' cannot be used with '" ++ other.display ++
      "'\n\n" ++ usage named
  | extraValue argument value named =>
    "unexpected value '" ++ value ++ "' for '" ++ argument.display ++
      "' found; no more were expected\n\n" ++ usage named

def message (misuse : Misuse) : String :=
  "error: " ++ misuse.explanation ++ "\n\nFor more information, try '--help'.\n"

end Misuse

end SourceAtlas.CommandLine
