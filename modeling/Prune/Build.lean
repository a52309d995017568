import Prune.Dissection
import Prune.Graph
import Prune.Sources

/-!
# Building the graph

From an entry to the graph of all modules it imports, directly or not. The files
to be compiled are tasks. Each result that comes in may schedule more tasks: one
for each imported module that has not been scheduled yet. The build is over when
no task is in flight.

Results may come in any order. Modules enter the graph by their ids, and the
errors are sorted by their texts, so that neither tells the order. Only the text
of an error that counts the bytes of all files read so far depends on which of
them were read before (`Build.bytesRead`).
-/

namespace Prune

/-- A file to be compiled. A module that is not the entry was named by a
specifier of an importer. -/
structure Task where
  path : String
  isEntry : Bool
  origin : Option (String × String)
deriving Repr, DecidableEq, Inhabited

namespace Task

def entry (path : String) : Task := ⟨path, true, none⟩

/-- The task of an imported module. -/
def imported (importer : Module) (clause : Import) : Task :=
  ⟨clause.target, false, some (clause.specifier, importer.id)⟩

/-- What it means that the file of a task cannot be loaded. -/
def loadFailure (task : Task) (error : LoadError) : Error :=
  match task.origin with
  | some (specifier, importer) => .moduleNotFound specifier importer task.path
  | none => .invalidEntry task.path (.notLoaded error)

/-- The result of a task, given what loading its file gave and how many bytes
were read before. -/
def compile (config : Config) (task : Task) (bytesBefore : Nat)
    (loaded : Except LoadError String) :
    Except Error Module :=
  match loaded with
  | .error error => .error (task.loadFailure error)
  | .ok content =>
      Module.ofText config (Path.normalize task.path) content task.isEntry
        bytesBefore

end Task

/-- How many bytes a file adds to those that were read: its text, without a byte
order mark, and one more that keeps it apart from the next. A file that cannot
be loaded adds none. -/
def bytesOf : Except LoadError String → Nat
  | .ok content =>
      (String.ofList (Script.unmarked content.toList)).utf8ByteSize + 1
  | .error _ => 0

/-- A build on its way: what has been scheduled, the tasks in flight, and the
results, the latest first. -/
structure Build where
  scheduled : List String
  inFlight : List Task
  modules : List Module
  errors : List Error
  /-- The bytes of all files that have been read. -/
  bytesRead : Nat
deriving Inhabited

/-- Why there is no graph. -/
inductive BuildFailure where
  /-- The errors of the tasks that failed, by their texts. -/
  | failed (errors : List Error)
  | missingEnd (missing : MissingEnd)
deriving Repr, DecidableEq

namespace Build

/-- The build of an entry, after a number of bytes that were read for other
builds. -/
def start (entry : String) (bytesRead : Nat) : Build :=
  ⟨[entry], [.entry entry], [], [], bytesRead⟩

/-- Schedules the module that a clause names, unless it has been scheduled. -/
def schedule (importer : Module) (build : Build) (clause : Import) : Build :=
  if build.scheduled.contains clause.target then build
  else
    { build with
      scheduled := clause.target :: build.scheduled
      inFlight := build.inFlight ++ [.imported importer clause] }

/-- Takes a result, and schedules what it imports. -/
def accept (build : Build) : Except Error Module → Build
  | .error error => { build with errors := error :: build.errors }
  | .ok module =>
      let build := module.imports.foldl (schedule module) build
      { build with modules := module :: build.modules }

/-- Takes the result of the task at a place among those in flight. -/
def receive (build : Build) (place : Nat) (result : Except Error Module) :
    Build :=
  { build with inFlight := build.inFlight.eraseIdx place }.accept result

/-- Compiles the task in flight that stands at a place, given what loading its
file gave. -/
def settle (config : Config) (build : Build) (place : Nat) (task : Task)
    (loaded : Except LoadError String) : Build :=
  let build := build.receive place (task.compile config build.bytesRead loaded)
  { build with bytesRead := build.bytesRead + bytesOf loaded }

/-- Compiles the task that has been in flight for longest. -/
def step (config : Config) (load : String → Except LoadError String)
    (build : Build) : Build :=
  match build.inFlight with
  | [] => build
  | task :: _ => build.settle config 0 task (load task.path)

/-- Goes on until no task is in flight, for a number of steps at most. -/
def run (config : Config) (load : String → Except LoadError String) :
    Nat → Build → Build
  | 0, build => build
  | fuel + 1, build =>
      if build.inFlight.isEmpty then build
      else run config load fuel (build.step config load)

/-- The build of an entry from given sources, once it is over. Every task but
the first was named by a clause of some text, and a clause takes characters of
it. -/
def ofSources (config : Config) (sources : Sources) (entry : String)
    (bytesRead : Nat) : Build :=
  (start entry bytesRead).run config sources.load (sources.size + 2)

/-! ## The graph -/

def sortedErrors (errors : List Error) : List Error :=
  errors.mergeSort fun a b => a.message ≤ b.message

/-- The dependencies of a module, clause by clause. -/
def edgesOf (module : Module) : List (String × String × Dependency) :=
  module.imports.zipIdx.map fun (clause, order) =>
    (module.id, clause.target, ⟨clause.specifier, order⟩)

def graphOf (modules : List Module) : Except MissingEnd Graph :=
  let modules := modules.mergeSort fun a b => a.id ≤ b.id
  let graph := modules.foldl Graph.addModule Graph.empty
  (modules.flatMap edgesOf).foldlM
    (fun graph (source, target, dependency) =>
      graph.addDependency source target dependency) graph

/-- The graph of a build that is over. -/
def finish (build : Build) : Except BuildFailure Graph :=
  if build.errors.isEmpty then
    (graphOf build.modules.reverse).mapError .missingEnd
  else .error (.failed (sortedErrors build.errors.reverse))

end Build

/-- The graph of an entry. -/
def Graph.build (config : Config) (sources : Sources) (entry : String) :
    Except BuildFailure Graph :=
  (Build.ofSources config sources entry 0).finish

end Prune
