import Prune.Machine.CommandLine

/-!
# The program

The command line on the real machine.
-/

namespace Prune

/-- The words of the machine for an error. -/
def reasonOf : IO.Error → String
  | .noFileOrDirectory _ code details | .permissionDenied _ code details
  | .inappropriateType _ code details | .alreadyExists _ code details
  | .invalidArgument _ code details | .resourceExhausted _ code details
  | .noSuchThing _ code details | .interrupted _ code details
  | .otherError code details | .resourceBusy code details
  | .unsupportedOperation code details | .unsatisfiedConstraints code details
  | .illegalOperation code details =>
      details ++ " (os error " ++ toString code ++ ")"
  | error => toString error

/-- Carries an operation of the machine out. -/
def carriedOut (operation : IO α) : IO (Except String α) := do
  try
    return .ok (← operation)
  catch error => return .error (reasonOf error)

/-- What stands at a path. -/
def kindAt (path : String) : IO (Option FileKind) := do
  if path.isEmpty then return none
  try
    let place ← IO.FS.realPath path
    if ← place.isDir then return some .directory
    return if ← place.pathExists then some .file else none
  catch _ => return none

/-- Repeats a step of a build until no task is in flight. -/
partial def settleAll (step : Build → IO Build) (build : Build) : IO Build := do
  if build.inFlight.isEmpty then return build
  settleAll step (← step build)

/-- The machine that the program runs on. -/
def realMachine : Machine IO where
  kind := kindAt
  read := fun path => do
    match ← carriedOut (IO.FS.readBinFile path) with
    | .error reason => return .error reason
    | .ok bytes =>
        match String.fromUTF8? bytes with
        | some text => return .ok text
        | none => return .error "stream did not contain valid UTF-8"
  write := fun path text => carriedOut (IO.FS.writeFile path text)
  directory := return (← IO.currentDir).toString
  settle := settleAll

end Prune

def main (arguments : List String) : IO UInt32 := do
  let outcome ← Prune.realMachine.outcome arguments
  IO.print outcome.output
  IO.eprint outcome.complaint
  return outcome.exitCode
