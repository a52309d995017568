import Prune.Module

/-!
# The graph of modules

Modules in the order they were added, and an edge for each pair of modules of
which one imports the other. Adding a module under an id that is already there
makes a second node; from then on the id means the new one, and the old node
stays where it is. An id therefore means the last node that carries it.

`evaluationOrder` lists the modules in the order they run: what a module
imports before the module itself, in the order of its imports, starting from
the entry. A cycle is cut where it would enter a module a second time. The walk
keeps a stack of modules and of the import each looks at next. It takes one
step for every module it enters and one for every edge it looks along, which is
the fuel it is given.
-/

namespace Prune

/-- Why one module depends on another: the specifier of the first clause that
names it, and the place of that clause among all clauses. -/
structure Dependency where
  specifier : String
  order : Nat
deriving Repr, DecidableEq, Inhabited

/-- An edge between two nodes. -/
structure Edge where
  source : Nat
  target : Nat
  dependency : Dependency
deriving Repr, DecidableEq, Inhabited

/-- Modules and their dependencies; edges are listed newest first. -/
structure Graph where
  modules : List Module
  edges : List Edge
  entry : Option String
deriving Inhabited

/-- An end of a dependency that no module carries. -/
inductive MissingEnd where
  | source (id : String)
  | target (id : String)
deriving Repr, DecidableEq

def MissingEnd.message : MissingEnd → String
  | .source id =>
      "from node \"" ++ id ++ "\" does not exist in the module graph"
  | .target id => "to node \"" ++ id ++ "\" does not exist in the module graph"

namespace Graph

def empty : Graph := ⟨[], [], none⟩

def size (graph : Graph) : Nat := graph.modules.length

/-- The last place at which a list holds an element that passes. -/
def lastIndex (p : α → Bool) : List α → Option Nat
  | [] => none
  | a :: rest =>
      match lastIndex p rest with
      | some i => some (i + 1)
      | none => if p a then some 0 else none

/-- The node an id means. -/
def indexOf? (graph : Graph) (id : String) : Option Nat :=
  lastIndex (fun module => module.id = id) graph.modules

def module? (graph : Graph) (id : String) : Option Module :=
  (graph.indexOf? id).bind fun index => graph.modules[index]?

def entryModule? (graph : Graph) : Option Module :=
  graph.entry.bind graph.module?

def declaration? (graph : Graph) (slot : Slot) : Option Declaration :=
  (graph.modules[slot.module]?).bind fun module =>
    module.declarations.at? slot.index

def statement? (graph : Graph) (slot : Slot) : Option Statement :=
  (graph.modules[slot.module]?).bind fun module =>
    module.statements[slot.index]?

/-- The references of a node. -/
def referencesOf (graph : Graph) : Node → List Reference
  | .declaration slot =>
      (graph.declaration? slot).elim [] Declaration.references
  | .statement slot => (graph.statement? slot).elim [] Statement.references

/-- Adds a module; an entry becomes the entry of the graph. -/
def addModule (graph : Graph) (module : Module) : Graph :=
  { graph with
    modules := graph.modules ++ [module]
    entry := if module.isEntry then some module.id else graph.entry }

def hasEdge (graph : Graph) (source target : Nat) : Bool :=
  graph.edges.any fun edge => edge.source = source && edge.target = target

/-- Adds a dependency between the nodes two ids mean; a pair of nodes keeps its
first edge. -/
def addDependency (graph : Graph) (source target : String)
    (dependency : Dependency) :
    Except MissingEnd Graph :=
  match graph.indexOf? source with
  | none => .error (.source source)
  | some sourceIndex =>
      match graph.indexOf? target with
      | none => .error (.target target)
      | some targetIndex =>
          if graph.hasEdge sourceIndex targetIndex then .ok graph
          else .ok { graph with
            edges := ⟨sourceIndex, targetIndex, dependency⟩ :: graph.edges }

/-- The edges that leave a node, by the order of their clauses; of two with one
order the newer comes first. -/
def edgesFrom (graph : Graph) (index : Nat) : List Edge :=
  (graph.edges.filter fun edge => edge.source = index).mergeSort fun a b =>
    a.dependency.order ≤ b.dependency.order

/-- The modules a module depends on, in the order of its clauses. -/
def dependencies (graph : Graph) (id : String) : List (String × Dependency) :=
  match graph.indexOf? id with
  | none => []
  | some index =>
      (graph.edgesFrom index).filterMap fun edge =>
        (graph.modules[edge.target]?).map fun module =>
          (module.id, edge.dependency)

/-- The nodes by the ids of their modules; nodes of one id keep the order they
were added in. -/
def sortedIndices (graph : Graph) : List Nat :=
  (graph.modules.zipIdx.mergeSort fun a b => a.1.id ≤ b.1.id).map Prod.snd

/-! ## The order of evaluation -/

/-- The walk of `evaluationOrder`. -/
structure Walk where
  stack : List (Nat × Nat)
  entered : List Nat
  order : List Nat

def dependenciesOf (graph : Graph) (index : Nat) : List (String × Dependency) :=
  (graph.modules[index]?).elim [] fun module => graph.dependencies module.id

/-- One step: looks at the next dependency of the module on top, or leaves the
module. -/
def Walk.step (graph : Graph) (walk : Walk) : Walk :=
  match walk.stack with
  | [] => walk
  | (index, next) :: stack =>
      match (graph.dependenciesOf index)[next]? with
      | none => { walk with stack := stack, order := walk.order ++ [index] }
      | some (id, _) =>
          let stack := (index, next + 1) :: stack
          match graph.indexOf? id with
          | none => { walk with stack := stack }
          | some target =>
              if walk.entered.contains target then { walk with stack := stack }
              else { walk with
                stack := (target, 0) :: stack,
                entered := target :: walk.entered }

def Walk.run (graph : Graph) : Nat → Walk → Walk
  | 0, walk => walk
  | fuel + 1, walk =>
      if walk.stack.isEmpty then walk else run graph fuel (walk.step graph)

/-- The modules that the entry reaches, each after what it imports. -/
def evaluationOrder (graph : Graph) : List Nat :=
  match graph.entry.bind graph.indexOf? with
  | none => []
  | some entry =>
      (Walk.run graph (graph.modules.length + graph.edges.length)
        ⟨[(entry, 0)], [entry], []⟩).order

end Graph

end Prune
