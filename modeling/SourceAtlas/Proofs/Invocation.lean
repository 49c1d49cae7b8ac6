import SourceAtlas.CommandLine
import SourceAtlas.Proofs.Utf8
import SourceAtlas.Proofs.Writing
import Mathlib.Data.List.Nodup
import Mathlib.Data.List.Perm.Basic
import Mathlib.Data.List.TakeWhile

/-! Command lines that ask for given settings. Each option changes one setting and is complete in itself, so that the
options are read back as the settings that they were written for, in whichever order they stand. -/
namespace SourceAtlas.CommandLine

section Numbers

theorem le_ofDigitChars (digits : List Char) (number : Nat) : number ≤ Nat.ofDigitChars 10 digits number := by
  induction digits generalizing number with
  | nil => exact Nat.le_refl _
  | cons c rest ih =>
    rw [Nat.ofDigitChars_cons]
    exact Nat.le_trans (by omega) (ih _)

theorem readDigits_eq {digits : List Char} (numeric : ∀ c ∈ digits, c.isDigit = true) {number : Nat}
    (fits : Nat.ofDigitChars 10 digits number ≤ maxNumber) :
    readDigits number digits = .ok (Nat.ofDigitChars 10 digits number) := by
  induction digits generalizing number with
  | nil => rfl
  | cons c rest ih =>
    rw [Nat.ofDigitChars_cons] at fits ⊢
    have small := Nat.le_trans (le_ofDigitChars rest _) fits
    rw [readDigits, numeric c List.mem_cons_self]
    simp only [Bool.not_true, Bool.false_eq_true, if_false, if_neg (Nat.not_lt.mpr small)]
    exact ih (fun c inside => numeric c (.tail _ inside)) fits

theorem readNumber_toString {number : Nat} (fits : number ≤ maxNumber) : readNumber (toString number) = .ok number := by
  have numeric : ∀ c ∈ Nat.toDigits 10 number, c.isDigit = true := fun c =>
    Nat.isDigit_of_mem_toDigits (by decide) (by decide)
  have value : Nat.ofDigitChars 10 (Nat.toDigits 10 number) 0 = number :=
    Nat.ofDigitChars_toDigits (by decide) (by decide)
  have read := readDigits_eq numeric (value.symm ▸ fits)
  rw [value] at read
  rw [readNumber, Nat.toString_eq_ofList_toDigits, String.toList_ofList]
  split
  · next none => exact absurd none Nat.toDigits_ne_nil
  · next plus => exact absurd (numeric '+' (by simp [plus])) (by decide)
  · next plus => exact absurd (numeric '+' (by simp [plus])) (by decide)
  · exact read

end Numbers

inductive Given where
  | output (path : Path)
  | addressing (mode : Addressing)
  | workingDirectory (path : Path)
  | followLinks
  | maxFileSize (limit : Nat)
  | verbose
  | quiet
deriving DecidableEq

namespace Given

def argument : Given → Argument
  | output _ => .output
  | addressing _ => .addressing
  | workingDirectory _ => .workingDirectory
  | followLinks => .followLinks
  | maxFileSize _ => .maxFileSize
  | verbose => .verbose
  | quiet => .quiet

def written : Given → Bytes
  | output path => Bytes.ofText "--output=" ++ path
  | addressing .relative => Bytes.ofText "--path-mode=relative"
  | addressing .fileName => Bytes.ofText "--path-mode=file-name"
  | workingDirectory path => Bytes.ofText "--working-dir=" ++ path
  | followLinks => Bytes.ofText "--follow-symlinks"
  | maxFileSize limit => Bytes.ofText "--max-file-size=" ++ Bytes.ofText (toString limit)
  | verbose => Bytes.ofText "-v"
  | quiet => Bytes.ofText "-q"

def value? : Given → Option Bytes
  | output path => some path
  | addressing .relative => some (Bytes.ofText "relative")
  | addressing .fileName => some (Bytes.ofText "file-name")
  | workingDirectory path => some path
  | maxFileSize limit => some (Bytes.ofText (toString limit))
  | _ => none

def change (settings : Settings) : Given → Settings
  | output path => { settings with options := { settings.options with output := path } }
  | addressing mode => { settings with options := { settings.options with addressing := mode } }
  | workingDirectory path => { settings with options := { settings.options with workingDirectory := some path } }
  | followLinks => { settings with options := { settings.options with followLinks := true } }
  | maxFileSize limit => { settings with options := { settings.options with maxFileSize := limit } }
  | verbose => { settings with verbose := true }
  | quiet => { settings with quiet := true }

def Proper : Given → Prop
  | output path => path ≠ []
  | workingDirectory path => path ≠ []
  | maxFileSize limit => limit ≤ maxNumber
  | _ => True

end Given

namespace Argument
variable {argument : Argument} {name : String} (known : argument.longName? = some name)
include known

theorem ofLongName?_longName : ofLongName? name = some argument := by
  cases argument <;> cases known <;> rfl

theorem longName_plain : ∀ byte ∈ Bytes.ofText name, (!(byte == 0x3D)) = true := by
  have plain : (Bytes.ofText name).all (fun byte => !(byte == 0x3D)) = true := by
    cases argument <;> cases known <;> decide
  exact List.all_eq_true.mp plain

end Argument

theorem readPath_eq (argument : Argument) {path : Path} (nonempty : path ≠ []) : readPath argument path = .ok path := by
  simp [readPath, nonempty]

theorem readLimit_eq {limit : Nat} (fits : limit ≤ maxNumber) : readLimit (Bytes.ofText (toString limit)) = .ok limit := by
  rw [readLimit, Bytes.toText?_ofText]
  dsimp only
  rw [readNumber_toString fits]

namespace Given
variable {given : Given} {value : Bytes}

theorem change_comm {first second : Given} (distinct : first.argument = second.argument → first = second)
    (settings : Settings) : second.change (first.change settings) = first.change (second.change settings) := by
  by_cases same : first.argument = second.argument
  · rw [distinct same]
  · cases first <;> cases second <;> simp_all [argument, change]

theorem written_of_value {name : String} (valued : given.value? = some value)
    (known : given.argument.longName? = some name) :
    given.written = 0x2D :: 0x2D :: (Bytes.ofText name ++ 0x3D :: value) := by
  have split {word : Bytes} (form : word = 0x2D :: 0x2D :: (Bytes.ofText name ++ [0x3D])) :
      word ++ value = 0x2D :: 0x2D :: (Bytes.ofText name ++ 0x3D :: value) := by simp [form]
  cases given with
  | output | workingDirectory | maxFileSize =>
    cases known
    cases valued
    exact split (by decide)
  | addressing mode => cases mode <;> cases known <;> cases valued <;> decide
  | followLinks | verbose | quiet => cases valued

theorem argument_ne_root (given : Given) : given.argument ≠ .root := by
  cases given <;> simp [argument]

theorem takesValue_argument (given : Given) : given.argument.takesValue = given.value?.isSome := by
  rcases given with _ | (_ | _) | _ | _ | _ | _ | _ <;> rfl

theorem withValue_eq (proper : given.Proper) (valued : given.value? = some value) (settings : Settings) :
    settings.withValue given.argument value = .ok (given.change settings) := by
  cases given with
  | addressing mode =>
    cases mode <;> cases valued <;> simp [argument, Settings.withValue, readAddressing, Bytes.toText?_ofText, change]
  | output path | workingDirectory path =>
    have nonempty : path ≠ [] := proper
    cases valued
    simp [argument, Settings.withValue, readPath_eq _ nonempty, change]
  | maxFileSize limit =>
    have fits : limit ≤ maxNumber := proper
    cases valued
    simp only [argument, Settings.withValue, readLimit_eq fits]
    rfl
  | followLinks | verbose | quiet => cases valued

theorem withFlag_eq (flag : given.value? = none) (settings : Settings) :
    settings.withFlag given.argument = .ok (given.change settings) := by
  cases given with
  | followLinks | verbose | quiet => rfl
  | output | workingDirectory | maxFileSize => cases flag
  | addressing mode => cases mode <;> cases flag

end Given

namespace Progress

/-- What a progress is like between two options that are complete. -/
structure Between (progress : Progress) : Prop where
  pending : progress.pending = none
  optionsEnded : progress.optionsEnded = false
  rootSeen : progress.rootSeen = false

def after (progress : Progress) (given : Given) : Progress :=
  { progress with settings := given.change progress.settings, named := progress.named ++ [given.argument] }

variable {progress : Progress}

theorem accept_eq {argument : Argument} {change : Settings → Reading Settings} {settings : Settings}
    (fresh : argument ∉ progress.named) (changed : change progress.settings = .ok settings) :
    progress.accept argument change = .ok { progress with settings, named := progress.named ++ [argument] } := by
  simp [accept, fresh, changed]

theorem finish_eq {settled : Progress} (settles : progress.settle = .ok settled)
    (loudness : (settled.settings.verbose && settled.settings.quiet) = false) :
    progress.finish = .ok settled.settings := by
  simp [finish, settles, loudness, bind, Except.bind, pure, Except.pure]

theorem takeLong_value {argument : Argument} {name : String} (known : argument.longName? = some name)
    (valued : argument.takesValue = true) (value : Bytes) :
    progress.takeLong (Bytes.ofText name ++ 0x3D :: value) = progress.takeOption argument (some value) := by
  have plain := Argument.longName_plain known
  simp [takeLong, List.takeWhile_append_of_pos plain, List.dropWhile_append_of_pos plain, Bytes.toText?_ofText,
    Argument.ofLongName?_longName known, valued]

theorem takeLong_flag {argument : Argument} {name : String} (known : argument.longName? = some name)
    (flag : argument.takesValue = false) : progress.takeLong (Bytes.ofText name) = progress.takeFlag argument := by
  have plain := Argument.longName_plain known
  simp [takeLong, List.takeWhile_eq_self_iff.mpr plain, List.dropWhile_eq_nil_iff.mpr plain, Bytes.toText?_ofText,
    Argument.ofLongName?_longName known, flag]

theorem takeLetters_flag {argument : Argument} {letter : Char} {byte : UInt8}
    (known : Argument.ofLetter? letter = some argument) (flag : argument.takesValue = false)
    (form : Bytes.ofText letter.toString = [byte]) (read : Bytes.decodeFirst byte [] = (letter, [])) :
    progress.takeLetters [byte] = progress.takeFlag argument := by
  rw [takeLetters]
  simp only [read, form, known, flag]
  cases progress.takeFlag argument with
  | error => simp
  | ok => simp [takeLetters]

section Complete
variable (between : progress.Between)
include between

theorem Between.settle : progress.settle = .ok progress := by
  simp [Progress.settle, between.pending]

theorem Between.take_long {rest : Bytes} (more : rest ≠ []) :
    progress.take (0x2D :: 0x2D :: rest) = progress.takeLong rest := by
  cases rest with
  | nil => exact absurd rfl more
  | cons byte rest => simp [take, between.optionsEnded]

theorem Between.takeOption {argument : Argument} {value : Bytes} {settings : Settings}
    (fresh : argument ∉ progress.named) (accepted : progress.settings.withValue argument value = .ok settings) :
    progress.takeOption argument (some value) =
      .ok { progress with settings, named := progress.named ++ [argument] } := by
  rw [Progress.takeOption, between.settle]
  change progress.accept argument (·.withValue argument value) = _
  exact accept_eq fresh accepted

theorem Between.takeFlag {argument : Argument} {settings : Settings} (fresh : argument ∉ progress.named)
    (accepted : progress.settings.withFlag argument = .ok settings) :
    progress.takeFlag argument = .ok { progress with settings, named := progress.named ++ [argument] } := by
  rw [Progress.takeFlag, between.settle]
  change progress.accept argument (·.withFlag argument) = _
  exact accept_eq fresh accepted

theorem Between.take_letter {argument : Argument} {letter : Char} {byte : UInt8}
    (known : Argument.ofLetter? letter = some argument) (flag : argument.takesValue = false)
    (form : Bytes.ofText letter.toString = [byte]) (read : Bytes.decodeFirst byte [] = (letter, []))
    (single : byte ≠ 0x2D) : progress.take [0x2D, byte] = progress.takeFlag argument := by
  rw [← takeLetters_flag known flag form read]
  simp [take, between.optionsEnded, single]

theorem Between.take_flag {given : Given} (flag : given.value? = none) :
    progress.take given.written = progress.takeFlag given.argument := by
  cases given with
  | followLinks =>
    have known : Argument.followLinks.longName? = some "follow-symlinks" := rfl
    have form : Given.followLinks.written = 0x2D :: 0x2D :: Bytes.ofText "follow-symlinks" := by decide
    rw [form, between.take_long (by decide), takeLong_flag known rfl]
    rfl
  | verbose =>
    have known : Argument.ofLetter? 'v' = some .verbose := rfl
    exact between.take_letter known rfl (by decide) (by decide) (by decide)
  | quiet =>
    have known : Argument.ofLetter? 'q' = some .quiet := rfl
    exact between.take_letter known rfl (by decide) (by decide) (by decide)
  | output | workingDirectory | maxFileSize => cases flag
  | addressing mode => cases mode <;> cases flag

theorem Between.take_written {given : Given} (proper : given.Proper) (fresh : given.argument ∉ progress.named) :
    progress.take given.written = .ok (progress.after given) := by
  cases valued : given.value? with
  | some value =>
    have takes : given.argument.takesValue = true := by rw [given.takesValue_argument, valued]; rfl
    obtain ⟨name, known⟩ : ∃ name, given.argument.longName? = some name := by cases given <;> exact ⟨_, rfl⟩
    rw [Given.written_of_value valued known, between.take_long (by simp), takeLong_value known takes]
    exact between.takeOption fresh (Given.withValue_eq proper valued _)
  | none =>
    rw [between.take_flag valued]
    exact between.takeFlag fresh (Given.withFlag_eq valued _)

theorem Between.after (given : Given) : (progress.after given).Between :=
  ⟨between.pending, between.optionsEnded, between.rootSeen⟩

theorem Between.finish_root {root : Path} (nonempty : root ≠ []) (fresh : .root ∉ progress.named)
    (loudness : ¬ (progress.settings.verbose = true ∧ progress.settings.quiet = true)) :
    (do (← [Bytes.ofText "--", root].foldlM take progress).finish) =
      .ok { progress.settings with options := { progress.settings.options with root } } := by
  have ended : progress.take (Bytes.ofText "--") = .ok { progress with optionsEnded := true } := by
    have form : Bytes.ofText "--" = [0x2D, 0x2D] := by decide
    simp [form, take, between.optionsEnded]
  have taken : { progress with optionsEnded := true }.take root =
      .ok { progress with optionsEnded := true, pending := some (.root, some root), rootSeen := true } := by
    simp [take, takeRoot, Progress.settle, between.pending, between.rootSeen, bind, Except.bind, pure, Except.pure]
  have settled : { progress with optionsEnded := true, pending := some (.root, some root), rootSeen := true }.settle =
      .ok { progress with
        settings := { progress.settings with options := { progress.settings.options with root } }
        named := progress.named ++ [.root], pending := none, rootSeen := true, optionsEnded := true } := by
    have read : progress.settings.withValue .root root =
        .ok { progress.settings with options := { progress.settings.options with root } } := by
      simp [Settings.withValue, readPath_eq _ nonempty]
    simp only [Progress.settle]
    exact accept_eq fresh read
  rw [List.foldlM_cons, ended]
  change (do (← [root].foldlM take { progress with optionsEnded := true }).finish) = _
  rw [List.foldlM_cons, taken]
  exact finish_eq settled (by simpa using loudness)

end Complete

theorem foldlM_written {progress : Progress} (between : progress.Between) {given : List Given}
    (proper : ∀ option ∈ given, option.Proper) (distinct : (given.map Given.argument).Nodup)
    (fresh : ∀ option ∈ given, option.argument ∉ progress.named) :
    (given.map Given.written).foldlM take progress = .ok (given.foldl after progress) := by
  induction given generalizing progress with
  | nil => rfl
  | cons option rest ih =>
    rw [List.map_cons, List.nodup_cons] at distinct
    rw [List.map_cons, List.foldlM_cons, between.take_written (proper _ List.mem_cons_self) (fresh _ List.mem_cons_self)]
    refine ih (between.after option) (fun other inside => proper other (.tail _ inside)) distinct.2
      fun other inside named => ?_
    rcases List.mem_append.mp named with before | same
    · exact fresh other (.tail _ inside) before
    · exact distinct.1 (List.mem_singleton.mp same ▸ List.mem_map_of_mem inside)

theorem foldl_after (given : List Given) (progress : Progress) : given.foldl after progress =
    { progress with
      settings := given.foldl Given.change progress.settings
      named := progress.named ++ given.map Given.argument } := by
  induction given generalizing progress with
  | nil => simp
  | cons option rest ih => simp [ih, after]

end Progress

namespace Settings

structure Expressible (settings : Settings) : Prop where
  root : settings.options.root ≠ []
  output : settings.options.output ≠ []
  workingDirectory : ∀ path ∈ settings.options.workingDirectory, path ≠ []
  maxFileSize : settings.options.maxFileSize ≤ maxNumber
  loudness : ¬ (settings.verbose = true ∧ settings.quiet = true)

def given (settings : Settings) : List Given :=
  [.output settings.options.output, .addressing settings.options.addressing,
    .maxFileSize settings.options.maxFileSize] ++
  settings.options.workingDirectory.toList.map .workingDirectory ++
  (if settings.options.followLinks then [.followLinks] else []) ++
  (if settings.verbose then [.verbose] else []) ++ (if settings.quiet then [.quiet] else [])

theorem nodup_given (settings : Settings) : (settings.given.map Given.argument).Nodup := by
  rcases settings with ⟨⟨_, _, _, _ | _, _ | _, _⟩, _ | _, _ | _⟩ <;> simp [given, Given.argument]

theorem Expressible.proper {settings : Settings} (expressible : settings.Expressible) :
    ∀ option ∈ settings.given, option.Proper := by
  rcases settings with ⟨⟨_, _, _, _ | path, _ | _, _⟩, _ | _, _ | _⟩ <;>
    simp [given, Given.Proper, expressible.output, expressible.maxFileSize, expressible.workingDirectory]

theorem foldl_given (settings : Settings) : settings.given.foldl Given.change {} =
    { settings with options := { settings.options with root := Path.ofText "." } } := by
  rcases settings with ⟨⟨_, _, _, _ | _, _ | _, _⟩, _ | _, _ | _⟩ <;> rfl

end Settings

/-- A command line is read as the settings that it was written for, in whichever order its options are. -/
theorem readArguments_written {settings : Settings} (expressible : settings.Expressible) {given : List Given}
    (order : given.Perm settings.given) :
    readArguments (given.map Given.written ++ [Bytes.ofText "--", settings.options.root]) = .ok settings := by
  have distinct : (given.map Given.argument).Nodup := (order.map _).nodup_iff.mpr settings.nodup_given
  have proper : ∀ option ∈ given, option.Proper := fun option inside =>
    expressible.proper option (order.mem_iff.mp inside)
  have said : given.foldl Given.change {} =
      { settings with options := { settings.options with root := Path.ofText "." } } := by
    -- No two options set the same field, so that they can be brought into any order.
    rw [← settings.foldl_given]
    refine order.foldl_eq' (fun first here second there start => ?_) _
    exact Given.change_comm (fun same => List.inj_on_of_nodup_map distinct here there same) start
  have start : Progress.Between {} := ⟨rfl, rfl, rfl⟩
  have taken := Progress.foldlM_written start proper distinct (by simp)
  rw [Progress.foldl_after, said] at taken
  rw [readArguments, List.foldlM_append, taken]
  have between : Progress.Between {
      settings := { settings with options := { settings.options with root := Path.ofText "." } }
      named := [] ++ given.map Given.argument } := ⟨rfl, rfl, rfl⟩
  exact between.finish_root expressible.root (by simp [Given.argument_ne_root]) expressible.loudness

/-- A command line for settings, with its options in any order, makes the survey that the settings ask for: it succeeds,
also where the report cannot be saved, has no output and leaves the files as the survey does. -/
theorem execute_written (fs : FileSystem) {settings : Settings} (expressible : settings.Expressible)
    {given : List Given} (order : given.Perm settings.given) (filter : Option String) (elapsed : String) :
    let execution := execute fs filter elapsed (given.map Given.written ++ [Bytes.ofText "--", settings.options.root])
    execution.status = 0 ∧ execution.output = "" ∧
      execution.fs = (survey fs Registry.default settings.options).fs := by
  rw [execute, readArguments_written expressible order]
  exact ⟨rfl, rfl, rfl⟩

def dashedSystem : FileSystem where
  top := .directory [([0x2D, 0xFF], .directory [] false)] false
  working := []

/-- Settings with equals signs and dashes in their paths, the largest limit, and a report in a directory that is
missing. -/
def dashedSettings : Settings where
  options := {
    root := [0x2D, 0xFF]
    output := [0x3D, 0xFF, 0x2F, 0x2D]
    addressing := .fileName
    workingDirectory := some [0x2D, 0x2D]
    followLinks := true
    maxFileSize := maxNumber }
  quiet := true

theorem execute_written_dashed :
    let given := dashedSettings.given.reverse
    let execution := execute dashedSystem none "" (given.map Given.written ++ [Bytes.ofText "--", [0x2D, 0xFF]])
    dashedSettings.Expressible ∧ given.Perm dashedSettings.given ∧
      execution.status = 0 ∧ execution.output = "" ∧ execution.fs = dashedSystem := by
  have expressible : dashedSettings.Expressible := ⟨by decide, by decide, by decide, by decide, by decide⟩
  have order : dashedSettings.given.reverse.Perm dashedSettings.given := List.reverse_perm _
  have nowhere : dashedSystem.target dashedSettings.options.output = .error .missing := rfl
  have unsaved := survey_of_fault dashedSystem Registry.default dashedSettings.options
    (show dashedSystem.write _ _ = _ by rw [FileSystem.write, nowhere]; rfl)
  obtain ⟨status, output, fs⟩ := execute_written dashedSystem expressible order none ""
  exact ⟨expressible, order, status, output, fs.trans unsaved.1⟩

end SourceAtlas.CommandLine
