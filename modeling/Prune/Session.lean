import Prune.Build
import Prune.Emission
import Prune.Roots

/-!
# Sessions

A compiler that is used again and again: its settings, the sources it reads, and
the graph of the last program that it compiled. A compilation that fails, at
whatever stage, leaves that graph as it was. The bytes of all files that were
read are counted on from one compilation to the next.
-/

namespace Prune

/-- Why a compilation gives no output. -/
inductive Failure where
  | stopped (error : Error)
  | notBuilt (failure : BuildFailure)
deriving Repr, DecidableEq

/-- A program that has been compiled: its linked graph and what is put out of
it. -/
structure Program where
  graph : Graph
  emission : Emission
deriving Inhabited

/-- Links a graph and puts out what its roots reach. -/
def Program.ofGraph (config : Config) (graph : Graph) :
    Except Error Program := do
  let graph ← graph.link config
  let roots ← graph.roots
  return ⟨graph, graph.emission roots⟩

/-- Compiles an entry with a way to build its graph. -/
def Program.compileWith [Monad m] (config : Config)
    (build : String → m (Except BuildFailure Graph)) (entry : String) :
    m (Except Failure Program) := do
  let entry := Path.normalize entry
  match config.checkEntry entry with
  | .error error => return .error (.stopped error)
  | .ok () =>
      match ← build entry with
      | .error failure => return .error (.notBuilt failure)
      | .ok graph => return (ofGraph config graph).mapError .stopped

def Program.compile (config : Config) (sources : Sources) (entry : String) :
    Except Failure Program :=
  Id.run
    (compileWith config
      (fun entry => pure (Graph.build config sources entry)) entry)

/-- A compiler with the graph of the last program that it compiled. -/
structure Session where
  config : Config
  sources : Sources
  graph : Graph
  bytesRead : Nat
deriving Inhabited

namespace Session

def start (config : Config) (sources : Sources) : Session :=
  ⟨config, sources, .empty, 0⟩

def insert (session : Session) (path content : String) : Session :=
  { session with sources := session.sources.insert path content }

/-- Builds the graph of an entry from the sources of the session, after a number
of bytes. -/
def build (session : Session) (entry : String) :
    StateM Nat (Except BuildFailure Graph) :=
  fun bytesRead =>
    let build := Build.ofSources session.config session.sources entry bytesRead
    (build.finish, build.bytesRead)

/-- Compiles an entry, and keeps its graph if that succeeds. -/
def compile (session : Session) (entry : String) :
    Except Failure String × Session :=
  match (Program.compileWith session.config session.build entry).run
      session.bytesRead with
  | (.error failure, bytesRead) => (.error failure, { session with bytesRead })
  | (.ok program, bytesRead) =>
      (.ok program.emission.output,
        { session with graph := program.graph, bytesRead })

end Session

end Prune
