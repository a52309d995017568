import Prune.Link

/-!
# Roots

Where the output starts from. Running the entry first runs every module it
reaches, so the statements of those modules that do something come first, in
the order of evaluation. Then come the items of the entry in the order of its
source: what it declares and exports, what it passes on, and its own statements
that do something.
-/

namespace Prune.Graph

/-- The statements of a module that do something. -/
def effectfulStatements (index : Nat) (module : Module) : List Node :=
  (module.statements.zipIdx.filter fun entry => !entry.1.isPure).map
    fun entry =>
    .statement ⟨index, entry.2⟩

/-- The root an item of the entry stands for, if it stands for one. -/
def itemRoot (graph : Graph) (index : Nat) (module : Module) :
    Item → Except Error (List Node)
  | .declaration place =>
      match module.declarations.at? place with
      | some declaration =>
          .ok
            (if declaration.exported then [.declaration ⟨index, place⟩] else [])
      | none => .error (.outOfBounds module.declarations.size place)
  | .statement place =>
      match module.statements[place]? with
      | some statement =>
          .ok (if statement.isPure then [] else [.statement ⟨index, place⟩])
      | none => .error (.outOfBounds module.statements.length place)
  | .reExport name =>
      match module.reExports.find? name with
      | none => .ok []
      | some reExport =>
          if reExport.isAliased then
            .error (.aliased reExport.exported reExport.targetName module.id)
          else do
            return [.declaration
              (← graph.resolveExport reExport.target reExport.targetName)]

/-- The nodes the output starts from. -/
def roots (graph : Graph) : Except Error (List Node) :=
  match graph.entry.bind graph.indexOf? with
  | none => .ok []
  | some entry =>
      match graph.modules[entry]? with
      | none => .ok []
      | some module => do
          let others := graph.evaluationOrder.filter fun index => index ≠ entry
          let statements := others.flatMap fun index =>
            (graph.modules[index]?).elim [] (effectfulStatements index)
          let items ← module.items.mapM (graph.itemRoot entry module)
          return statements ++ items.flatten

end Prune.Graph
