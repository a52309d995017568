import Prune.Session

/-!
# The machine around a run

What a run needs of the machine it runs on: whether something stands at a path,
the text of a file, a place to put the output. Everything a run decides is
decided here, in terms of these operations; a machine may be the real one or a
tree of files in memory.

The settings are read from a file beside the entry, or from one that is named.
If that fails, an entry that could not be one under any settings is the more
useful thing to complain about.
-/

namespace Prune

/-- What can stand at a path. -/
inductive FileKind where
  | file
  | directory
deriving Repr, DecidableEq, Inhabited

/-- The operations of a machine. What goes wrong is told in the machine's own
words. -/
structure Machine (m : Type → Type) where
  kind : String → m (Option FileKind)
  read : String → m (Except String String)
  write : String → String → m (Except String Unit)
  /-- The directory that relative paths start from. -/
  directory : m String
  /-- Repeats a step of a build until no task is in flight. -/
  settle : (Build → m Build) → Build → m Build

/-- Why there are no settings. -/
inductive ConfigError where
  | unreadable (path reason : String)
  | malformed (path : String) (failure : Json.Failure)

def ConfigError.message : ConfigError → String
  | .unreadable path reason =>
      "Failed to read config file \"" ++ path ++ "\": " ++ reason
  | .malformed path failure =>
      "Config file \"" ++ path ++ "\" parsed failed: " ++ failure.message

/-- Why a run has no output. -/
inductive RunError where
  | config (error : ConfigError)
  | failed (failure : Failure)
  | notWritten (reason : String)

def BuildFailure.message : BuildFailure → String
  | .failed [error] => error.message
  | .failed errors =>
      String.intercalate "\n" ("Build failed." :: errors.map Error.message)
  | .missingEnd missing => missing.message

def Failure.message : Failure → String
  | .stopped error => error.message
  | .notBuilt failure => failure.message

def RunError.message : RunError → String
  | .config error => error.message
  | .failed failure => failure.message
  | .notWritten reason => reason

/-- Where the settings of a run are: in the directory of the entry unless the
path says more. -/
def Config.path (root : String) (named : Option String) : String :=
  Path.join root (named.getD Config.fileName)

/-- The directory that holds an entry. -/
def entryDirectory (entry : String) : String := (Path.parent entry).getD ""

namespace Machine

variable {m : Type → Type} [Monad m]

/-- Loads a source file. -/
def load (machine : Machine m) (path : String) :
    m (Except LoadError String) := do
  match ← machine.kind path with
  | some .file => return (← machine.read path).mapError (.unreadable path)
  | _ => return .error (.missing path)

/-- Reads settings. A file that is not named need not exist. -/
def readConfig (machine : Machine m) (root : String) (named : Option String) :
    m (Except ConfigError Config) := do
  let path := Config.path root named
  match ← machine.kind path with
  | none =>
      if named.isSome then
        return .error (.unreadable path "file does not exist")
      else return .ok Config.default
  | some _ =>
      match ← machine.read path with
      | .error reason => return .error (.unreadable path reason)
      | .ok text => return (Config.ofText text).mapError (.malformed path)

/-- The settings for an entry. -/
def loadConfig (machine : Machine m) (root : String) (named : Option String)
    (entry : String) :
    m (Except RunError Config) := do
  match ← machine.readConfig root named with
  | .ok config => return .ok config
  | .error error =>
      match Config.default.checkEntry entry with
      | .error fault => return .error (.failed (.stopped fault))
      | .ok () => return .error (.config error)

/-- Builds the graph of an entry from the files of the machine. -/
def build (machine : Machine m) (config : Config) (entry : String) :
    m (Except BuildFailure Graph) := do
  let step (build : Build) : m Build := do
    match build.inFlight with
    | [] => return build
    | task :: _ => return build.settle config 0 task (← machine.load task.path)
  return (← machine.settle step (Build.start entry 0)).finish

/-- The output for an entry under given settings. -/
def compile (machine : Machine m) (config : Config) (entry : String) :
    m (Except RunError String) := do
  match ← Program.compileWith config (machine.build config) entry with
  | .ok program => return .ok program.emission.output
  | .error failure => return .error (.failed failure)

/-- The output for an entry under the settings beside it. -/
def run (machine : Machine m) (entry : String) :
    m (Except RunError String) := do
  match ← machine.loadConfig (entryDirectory entry) none entry with
  | .error error => return .error error
  | .ok config => machine.compile config entry

end Machine

end Prune
