import Prune.Graph
import Prune.Config

/-!
# Linking

Linking gives every reference its target. A module's own declarations come
first, then its imports, and only then the names the runtime provides; so a
configured name never hides a declaration.

An import is followed through modules that only pass the name on. A name that
changes on the way is refused, since the output is put together without
renaming. The chain may lead in a circle: a module that is asked a second time
for the same name does not provide it. Every step of the chain adds a pair of
module and name that the table of some module holds, so the number of all
passed-on names bounds the chain.

All targets are found in the graph as it was before, and only when every module
is found good are they written; a graph that cannot be linked stays as it was.
-/

namespace Prune

namespace Graph

/-- The number of names that modules pass on. -/
def reExportCount (graph : Graph) : Nat :=
  graph.modules.foldl (fun total module => total + module.reExports.size) 0

/-- Follows a name from a module through the modules that pass it on. -/
def followExport (graph : Graph) :
    Nat → List (String × String) → String → String → Except Error Slot
  | 0, _, target, name => .error (.unresolved name target)
  | fuel + 1, seen, target, name =>
      match graph.indexOf? target with
      | none => .error (.unresolved name target)
      | some index =>
          match graph.modules[index]? with
          | none => .error (.unresolved name target)
          | some module =>
              match module.declarations.place? name with
              | some place => .ok ⟨index, place⟩
              | none =>
                  match module.reExports.find? name with
                  | none => .error (.unresolved name target)
                  | some reExport =>
                      if reExport.isAliased then
                        .error
                          (.aliased reExport.exported reExport.targetName
                            module.id)
                      else if seen.contains (target, name) then
                        .error (.unresolved name target)
                      else followExport graph fuel ((target, name) :: seen)
                        reExport.target reExport.targetName

/-- The declaration that a name of a module means to other modules. -/
def resolveExport (graph : Graph) (target name : String) : Except Error Slot :=
  graph.followExport (graph.reExportCount + 2) [] target name

/-- What a name means inside the module of a node. -/
def resolveName (graph : Graph) (isGlobal : String → Bool) (index : Nat)
    (name : String) :
    Except Error Target :=
  match graph.modules[index]? with
  | none => .error (.unresolved name "")
  | some module =>
      match module.declarations.place? name with
      | some place => .ok (.declaration ⟨index, place⟩)
      | none =>
          match module.importTable.find? name with
          | some binding =>
              if binding.isAliased then
                .error (.aliased binding.localName binding.imported module.id)
              else (graph.resolveExport binding.target binding.imported).map
                .declaration
          | none =>
              if isGlobal name then .ok .ambient
              else .error (.unresolved name module.id)

end Graph

/-- Gives references the targets of a list, one each. -/
def Reference.assign :
    List Reference → List Target → List Reference × List Target
  | [], targets => ([], targets)
  | references, [] => (references, [])
  | reference :: references, target :: targets =>
      let (assigned, rest) := assign references targets
      ({ reference with target := some target } :: assigned, rest)

/-- Gives the references of declarations the targets of a list, and returns what
is left of it. -/
def Declaration.assignAll :
    List Declaration → List Target → List Declaration × List Target
  | [], targets => ([], targets)
  | declaration :: declarations, targets =>
      let (references, targets) :=
        Reference.assign declaration.references targets
      let (declarations, targets) := assignAll declarations targets
      ({ declaration with references := references } :: declarations, targets)

def Statement.assignAll : List Statement → List Target → List Statement
  | [], _ => []
  | statement :: statements, targets =>
      let (references, targets) := Reference.assign statement.references targets
      { statement with references := references } ::
        assignAll statements targets

/-- The module with the targets of its references, in the order of
`Module.references`. -/
def Module.assign (module : Module) (targets : List Target) : Module :=
  let (declarations, targets) :=
    Declaration.assignAll module.declarations.values targets
  { module with
    declarations := module.declarations.withValues declarations
    statements := Statement.assignAll module.statements targets }

namespace Graph

/-- The targets of the references of a node, or the first that cannot be
found. -/
def resolveModule (graph : Graph) (isGlobal : String → Bool) (index : Nat) :
    Except Error (List Target) :=
  ((graph.modules[index]?).elim [] Module.references).mapM fun reference =>
    graph.resolveName isGlobal index reference.name

/-- Replaces the module at a node. -/
def assignAt (graph : Graph) (index : Nat) (targets : List Target) : Graph :=
  { graph with
    modules := graph.modules.modify index fun module => module.assign targets }

/-- The targets of all references, module by module, by a test for the names
that the runtime provides. -/
def assignments (graph : Graph) (isGlobal : String → Bool) :
    Except Error (List (Nat × List Target)) :=
  graph.sortedIndices.mapM fun index => do
    return (index, ← graph.resolveModule isGlobal index)

/-- Gives every reference the target that is found for it. -/
def linkWith (graph : Graph) (isGlobal : String → Bool) :
    Except Error Graph := do
  let assignments ← graph.assignments isGlobal
  return assignments.foldl
    (fun linked assignment => linked.assignAt assignment.1 assignment.2) graph

/-- Writes targets into a graph, if they have been found. -/
def write :
    Except Error (List (Nat × List Target)) → StateM Graph (Except Error Unit)
  | .error error => return .error error
  | .ok assignments => do
      for (index, targets) in assignments do
        modify fun linked => linked.assignAt index targets
      return .ok ()

/-- Links a graph where it stands. Every target is found before the first of
them is written, so that a failure leaves the graph as it was. -/
def linkInPlace (isGlobal : String → Bool) :
    StateM Graph (Except Error Unit) := do
  write ((← get).assignments isGlobal)

/-- Finds the target of every reference. -/
def link (graph : Graph) (config : Config) : Except Error Graph :=
  graph.linkWith config.isGlobal

end Graph

end Prune
