import Prune.Proofs.Surroundings
import Prune.Scope.Walk

/-!
# A tree below names that are bound already

A walk may come to a tree when names are bound around it, or when none is. What
it finds in the tree is the same list in both cases, less the occurrences of
those names: a tree can be walked by itself, and what is bound around it is
taken out afterwards.

That the names stand in the outermost scope matters for the state of the walk
only. They lie below whatever else is bound on the way, by the scopes that are
open already as by those that the tree opens, and a name is bound if any scope
has it. So all that the walk sees of the two stacks are two sets of names, which
differ by the ones that are added (`mem_flatten_enclosed`), and that filters,
whatever the tree does in between (`actionsFree_of_mem_iff`).
-/

namespace Prune.Script

open Prune.Scope

/-! ## Trees of any kind -/

/-- Anything that a walk can be started on: a tree of one of the kinds, trees in
a row, and a pattern in each of the places that it is looked at differently. -/
inductive Tree where
  | type (type : TypeTerm)
  | types (types : List TypeTerm)
  | expression (value : Expr)
  | expressions (values : List Expr)
  | pattern (pattern : Pattern)
  | patterns (patterns : List Pattern)
  /-- A pattern as the target of an assignment. -/
  | target (target : Pattern)
  /-- Patterns as variables that are declared. -/
  | declarators (declarators : List Pattern)
  | member (member : Member)
  | members (members : List Member)
  | function (function : Function)
  | classBody (value : Class)
  | body (body : Body)
  | statement (stmt : Stmt)
  | statements (stmts : List Stmt)
  | tag (tag : Tag)
  | exportName (name : ExportName)
  | importSpecifier (specifier : ImportSpecifier)
  | exportSpecifier (specifier : ExportSpecifier)

namespace Tree

/-- What a walk does in a tree. -/
def actions : Tree → List Action
  | .type node => node.actions
  | .types nodes => typeActions nodes
  | .expression node => node.actions
  | .expressions nodes => exprActions nodes
  | .pattern node => node.actions
  | .patterns nodes => patternActions nodes
  | .target node => node.targetActions
  | .declarators nodes => declaratorActions nodes
  | .member node => node.actions
  | .members nodes => memberActions nodes
  | .function node => node.actions
  | .classBody node => node.actions
  | .body node => node.actions
  | .statement node => node.actions
  | .statements nodes => stmtActions nodes
  | .tag node => node.actions
  | .exportName node => node.actions
  | .importSpecifier node => node.actions
  | .exportSpecifier node => node.actions

/-- Walks a tree from any state of a walk. -/
def walk (tree : Tree) (collector : Collector) : Collector :=
  runAll tree.actions collector

end Tree

/-! ## Names in the outermost scope -/

/-- With names in its outermost scope, a stack binds these and what it binds
without them. -/
theorem mem_flatten_enclosed (inner : List (List String))
    (outermost names : List String) (name : String) :
    name ∈ (inner ++ [outermost ++ names]).flatten ↔
      name ∈ names ∨ name ∈ (inner ++ [outermost]).flatten := by
  simp only [List.flatten_append, List.flatten_singleton, List.mem_append]
  rw [← or_assoc, or_comm]

/-- Names in the outermost scope only filter what actions find, however many
scopes are open. -/
theorem finds_enclosed (inner : List (List String))
    (outermost names : List String) (isAssigning : Bool)
    (actions : List Action) :
    Collector.finds ⟨inner ++ [outermost ++ names], isAssigning, []⟩ actions =
      (Collector.finds ⟨inner ++ [outermost], isAssigning, []⟩ actions).filter
        (fun name => name ∉ names) := by
  have hopen : ∀ scope, inner ++ [scope] ≠ [] := fun scope =>
    List.append_ne_nil_of_right_ne_nil inner (List.cons_ne_nil scope [])
  rw [Collector.finds_eq (hopen _), Collector.finds_eq (hopen _)]
  exact actionsFree_of_mem_iff actions isAssigning
    (mem_flatten_enclosed inner outermost names)

/-- A walk that starts with names in its outermost scope records what it records
with an empty one, in the same order, less the occurrences of these names. So it
does below any other scopes, in a target and outside of it. -/
theorem Tree.found_walk_enclosed (tree : Tree) (names : List String) :
    (tree.walk ⟨[names], false, []⟩).found.reverse =
        (tree.walk ⟨[[]], false, []⟩).found.reverse.filter
          (fun name => name ∉ names) ∧
      ∀ inner outermost isAssigning,
        (tree.walk
          ⟨inner ++ [outermost ++ names], isAssigning, []⟩).found.reverse =
          (tree.walk
            ⟨inner ++ [outermost], isAssigning, []⟩).found.reverse.filter
            (fun name => name ∉ names) := by
  have hwalk : ∀ inner outermost isAssigning,
      (tree.walk
        ⟨inner ++ [outermost ++ names], isAssigning, []⟩).found.reverse =
        (tree.walk ⟨inner ++ [outermost], isAssigning, []⟩).found.reverse.filter
          (fun name => name ∉ names) := fun inner outermost isAssigning =>
    finds_enclosed inner outermost names isAssigning tree.actions
  exact ⟨hwalk [] [] false, hwalk⟩

end Prune.Script
