import Prune.Graph

/-!
# Emission

The output is the texts of all nodes that the roots reach, each once, in the
order in which a walk first visits them: depth first, references in their
order, one root after the other. A declaration is put out with its export words
if it is exported or is a root at all, also when the walk comes to it on the
way from another root.

The walk keeps a stack. A node may be on it several times before it is visited;
it is put there at most once for every reference in the graph, so the number of
references bounds the steps for one root.

Declarations of one name from different modules all end up in the same output.
The names are not changed; they are counted as collisions.
-/

namespace Prune

/-- What a walk has put out so far. -/
structure Emission where
  roots : List Node
  visited : List Node
  /-- Names of the declarations put out, with the module each name was first put
  out from. -/
  names : List (String × Nat)
  /-- Names put out from another module than the first, once for every time. -/
  collisions : List String
  units : List String
deriving Repr, Inhabited

namespace Emission

def start (roots : List Node) : Emission := ⟨roots, [], [], [], []⟩

def isVisited (emission : Emission) (node : Node) : Bool :=
  emission.visited.contains node

def output (emission : Emission) : String :=
  String.intercalate "\n" emission.units

/-- Notes the name of a declaration put out from a module. -/
def noteName (emission : Emission) (name : String) (module : Nat) : Emission :=
  match emission.names.find? fun entry => entry.1 = name with
  | none => { emission with names := (name, module) :: emission.names }
  | some (_, first) =>
      if first = module then emission
      else { emission with collisions := emission.collisions ++ [name] }

/-- Puts out the text of a node. -/
def emit (graph : Graph) (emission : Emission) (node : Node) : Emission :=
  match node with
  | .declaration slot =>
      match graph.declaration? slot with
      | none => emission
      | some declaration =>
          let noted := emission.noteName declaration.name slot.module
          { noted with
            units :=
              noted.units ++ [declaration.text (emission.roots.contains node)] }
  | .statement slot =>
      match graph.statement? slot with
      | none => emission
      | some statement =>
          { emission with units := emission.units ++ [statement.text] }

/-- The declarations that the references of a node mean, in their order. -/
def successors (graph : Graph) (node : Node) : List Node :=
  (graph.referencesOf node).filterMap fun reference =>
    match reference.target with
    | some (.declaration slot) => some (.declaration slot)
    | _ => none

/-- Visits the nodes on a stack and all they reach. -/
def walk (graph : Graph) : Nat → List Node → Emission → Emission
  | 0, _, emission => emission
  | _, [], emission => emission
  | fuel + 1, node :: stack, emission =>
      if emission.isVisited node then walk graph fuel stack emission
      else
        let emission :=
          emit graph { emission with visited := node :: emission.visited } node
        let next :=
          (successors graph node).filter fun successor =>
            !emission.isVisited successor
        walk graph fuel (next ++ stack) emission

end Emission

namespace Graph

/-- The number of references in a graph. -/
def referenceCount (graph : Graph) : Nat :=
  graph.modules.foldl (fun total module => total + module.references.length) 0

/-- Puts out everything that the roots reach. -/
def emission (graph : Graph) (roots : List Node) : Emission :=
  roots.foldl
    (fun emission root =>
      Emission.walk graph (graph.referenceCount + 1) [root] emission)
    (Emission.start roots)

end Graph

end Prune
