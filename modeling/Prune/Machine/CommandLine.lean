import Prune.Machine.Interface

/-!
# The command line

An entry and two options: which file holds the settings, and where the output
goes. An option may stand anywhere before `--`, its value behind it or joined to
it, and each may be given once. Nothing that is given may be empty.
-/

namespace Prune

/-- What has been read of a command line. -/
structure Arguments where
  entry : Option String
  config : Option String
  output : Option String
deriving Repr, DecidableEq, Inhabited

/-- The options that have a value. -/
inductive CommandOption where
  | config
  | output
deriving Repr, DecidableEq, Inhabited

/-- An argument of the command line, by its form. -/
inductive ArgumentForm where
  /-- From here on there are no options. -/
  | separator
  /-- An option, with the value that is joined to it. -/
  | option (option : CommandOption) (joined : Option String)
  | unknown
  | plain
deriving Repr, DecidableEq

namespace Arguments

def none : Arguments := ⟨Option.none, Option.none, Option.none⟩

/-- A long option and the value behind its equals sign. -/
def longForm (text : List Char) : ArgumentForm :=
  let name := String.ofList (text.takeWhile (· ≠ '='))
  let joined := match text.dropWhile (· ≠ '=') with
    | [] => Option.none
    | _ :: value => some (String.ofList value)
  match name with
  | "config" => .option .config joined
  | "output" => .option .output joined
  | _ => .unknown

/-- The value that is joined to a short option; an equals sign before it is no
part of it. -/
def shortValue : List Char → Option String
  | [] => Option.none
  | '=' :: value => some (String.ofList value)
  | value => some (String.ofList value)

def form (argument : String) : ArgumentForm :=
  match argument.toList with
  | ['-', '-'] => .separator
  | '-' :: '-' :: text => longForm text
  | '-' :: 'c' :: value => .option .config (shortValue value)
  | '-' :: 'o' :: value => .option .output (shortValue value)
  | '-' :: _ :: _ => .unknown
  | _ => .plain

/-- Sets a value that has not been set and is not empty. -/
def setOnce (value : String) : Option String → Option (Option String)
  | some _ => Option.none
  | Option.none => if value.isEmpty then Option.none else some (some value)

def setEntry (arguments : Arguments) (value : String) : Option Arguments :=
  (setOnce value arguments.entry).map fun entry => { arguments with entry }

def setOption (arguments : Arguments) (option : CommandOption)
    (value : String) : Option Arguments :=
  match option with
  | .config =>
      (setOnce value arguments.config).map fun config =>
        { arguments with config }
  | .output =>
      (setOnce value arguments.output).map fun output =>
        { arguments with output }

/-- Reads arguments, the value of `pending` first if an option waits for its
value. -/
def read (arguments : Arguments) :
    Option CommandOption → List String → Option Arguments
  | some _, [] => Option.none
  | Option.none, [] => some arguments
  | some option, value :: rest =>
      match form value with
      | .plain => do (← arguments.setOption option value).read Option.none rest
      | _ => Option.none
  | Option.none, argument :: rest =>
      match form argument with
      | .separator => rest.foldlM setEntry arguments
      | .option option (some value) => do
          (← arguments.setOption option value).read Option.none rest
      | .option option Option.none => arguments.read (some option) rest
      | .unknown => Option.none
      | .plain => do (← arguments.setEntry argument).read Option.none rest

/-- The arguments of a command line that is in order. -/
def parse (commandLine : List String) : Option Arguments := do
  let arguments ← none.read Option.none commandLine
  if arguments.entry.isSome then some arguments else Option.none

end Arguments

/-- How a command ends. -/
structure Outcome where
  exitCode : UInt32
  output : String
  complaint : String
deriving Repr, DecidableEq, Inhabited

namespace Machine

variable {m : Type → Type} [Monad m]

/-- A path as seen from the working directory, also if that changes. -/
def absolutePath (machine : Machine m) (path : String) : m String :=
  return Path.join (← machine.directory) path

/-- Carries a command out. -/
def command (machine : Machine m) (entry : String) (arguments : Arguments) :
    m (Except RunError String) := do
  let named ← arguments.config.mapM machine.absolutePath
  match ← machine.loadConfig (entryDirectory entry) named entry with
  | .error error => return .error error
  | .ok config =>
      match ← machine.compile config entry with
      | .error error => return .error error
      | .ok output =>
          match arguments.output with
          | none => return .ok (output ++ "\n")
          | some path =>
              match ← machine.write path output with
              | .ok () => return .ok ""
              | .error reason => return .error (.notWritten reason)

def complaintOf (error : RunError) : String :=
  "ERROR treeshake_cli: " ++ error.message ++ "\n"

/-- What a command line leads to. -/
def outcome (machine : Machine m) (commandLine : List String) : m Outcome := do
  match Arguments.parse commandLine with
  | some arguments =>
      match ← machine.command (arguments.entry.getD "") arguments with
      | .ok output => return ⟨0, output, ""⟩
      | .error error => return ⟨1, "", complaintOf error⟩
  | none => return ⟨2, "", "usage: ENTRY [--config FILE] [--output FILE]\n"⟩

end Machine

end Prune
