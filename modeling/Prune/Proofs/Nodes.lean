import Prune.Proofs.Resolution

/-!
# Nodes and their references

The references of a module are those of its nodes, one node after the other:
`references_eq`. So what is said of all references of a graph may be said node
by node, with the place of the node at hand, or module by module; and every
reference of a node is one of the module that its slot names
(`mem_referencesOf`).
-/

namespace Prune

/-- Where a node stands. -/
def Node.slot : Node → Slot
  | .declaration slot => slot
  | .statement slot => slot

namespace Graph

/-- The nodes of a module at a place of the graph. -/
def nodesOf (module : Module) (index : Nat) : List Node :=
  ((List.range module.declarations.size).map fun place =>
    .declaration ⟨index, place⟩) ++
      (List.range module.statements.length).map fun place =>
        .statement ⟨index, place⟩

def nodes (graph : Graph) : List Node :=
  graph.modules.zipIdx.flatMap fun entry => nodesOf entry.1 entry.2

theorem mem_nodes {graph : Graph} {node : Node} (h : graph.Holds node) :
    node ∈ graph.nodes := by
  rw [nodes, List.mem_flatMap]
  cases node with
  | declaration slot =>
      rw [Holds, declaration?, Option.isSome_bind, Option.any_eq_true] at h
      obtain ⟨module, hmodule, hplace⟩ := h
      refine ⟨(module, slot.module),
        List.mk_mem_zipIdx_iff_getElem?.mpr hmodule, ?_⟩
      refine List.mem_append_left _ (List.mem_map.mpr ⟨slot.index, ?_, rfl⟩)
      exact List.mem_range.mpr (Table.isSome_at?.mp hplace)
  | statement slot =>
      rw [Holds, statement?, Option.isSome_bind, Option.any_eq_true] at h
      obtain ⟨module, hmodule, hplace⟩ := h
      refine ⟨(module, slot.module),
        List.mk_mem_zipIdx_iff_getElem?.mpr hmodule, ?_⟩
      refine List.mem_append_right _ (List.mem_map.mpr ⟨slot.index, ?_, rfl⟩)
      obtain ⟨_, hstatement⟩ := Option.isSome_iff_exists.mp hplace
      exact List.mem_range.mpr (List.getElem?_eq_some_iff.mp hstatement).1

theorem referencesOf_eq_nil {graph : Graph} {node : Node}
    (h : ¬ graph.Holds node) :
    graph.referencesOf node = [] := by
  cases node <;>
    · simp only [Holds, Option.not_isSome_iff_eq_none] at h
      rw [referencesOf, h]
      rfl

theorem flatMap_range {α β : Type} (items : List α) (f : α → List β) :
    ((List.range items.length).flatMap fun place => (items[place]?).elim [] f) =
      items.flatMap f := by
  induction items with
  | nil => rfl
  | cons item items ih =>
      rw [List.length_cons, List.range_succ_eq_map, List.flatMap_cons,
        List.flatMap_map, List.flatMap_cons, ← ih]
      rfl

/-- The references of a module are those of its nodes. -/
theorem references_eq {graph : Graph} {module : Module} {index : Nat}
    (h : graph.modules[index]? = some module) :
    module.references = (nodesOf module index).flatMap graph.referencesOf := by
  rw [nodesOf, List.flatMap_append, List.flatMap_map, List.flatMap_map,
    Module.references, ← flatMap_range module.statements,
    ← flatMap_range module.declarations.values, Table.length_values]
  simp only [referencesOf, declaration?, statement?, h, Option.bind_some,
    Table.at?_eq_values]

theorem slot_of_mem_nodesOf {module : Module} {index : Nat} {node : Node}
    (h : node ∈ nodesOf module index) : node.slot.module = index := by
  rcases List.mem_append.mp h with hdeclaration | hstatement
  · obtain ⟨place, -, rfl⟩ := List.mem_map.mp hdeclaration
    rfl
  · obtain ⟨place, -, rfl⟩ := List.mem_map.mp hstatement
    rfl

theorem Holds.exists_module {graph : Graph} {node : Node}
    (h : graph.Holds node) :
    ∃ module, graph.modules[node.slot.module]? = some module ∧
      node ∈ nodesOf module node.slot.module := by
  obtain ⟨⟨module, index⟩, hentry, hnode⟩ := List.mem_flatMap.mp (mem_nodes h)
  rw [slot_of_mem_nodesOf hnode]
  exact ⟨module, List.mk_mem_zipIdx_iff_getElem?.mp hentry, hnode⟩

/-- A reference of a node is one of the module that the node stands in. -/
theorem mem_referencesOf {graph : Graph} {node : Node} {reference : Reference}
    (h : reference ∈ graph.referencesOf node) :
    ∃ module, graph.modules[node.slot.module]? = some module ∧
      reference ∈ module.references := by
  have hholds : graph.Holds node := by
    by_contra hnot
    rw [referencesOf_eq_nil hnot] at h
    cases h
  obtain ⟨module, hmodule, hnode⟩ := hholds.exists_module
  refine ⟨module, hmodule, ?_⟩
  rw [references_eq hmodule]
  exact List.mem_flatMap.mpr ⟨node, hnode, h⟩

theorem exists_node_of_mem_references {graph : Graph} {module : Module}
    {index : Nat} (hmodule : graph.modules[index]? = some module)
    {reference : Reference} (h : reference ∈ module.references) :
    ∃ node, node.slot.module = index ∧ reference ∈ graph.referencesOf node := by
  rw [references_eq hmodule] at h
  obtain ⟨node, hnode, hreference⟩ := List.mem_flatMap.mp h
  exact ⟨node, slot_of_mem_nodesOf hnode, hreference⟩

/-! ## References that have been changed -/

theorem declaration?_mapReferences (f : Nat → Reference → Reference)
    (graph : Graph) (slot : Slot) :
    (graph.mapReferences f).declaration? slot =
      (graph.declaration? slot).map
        (Declaration.mapReferences (f slot.module)) := by
  rw [declaration?, declaration?, modules_mapReferences]
  cases graph.modules[slot.module]? with
  | none => rfl
  | some module => exact Table.at?_map _ _ _

theorem statement?_mapReferences (f : Nat → Reference → Reference)
    (graph : Graph) (slot : Slot) :
    (graph.mapReferences f).statement? slot =
      (graph.statement? slot).map
        (Statement.mapReferences (f slot.module)) := by
  rw [statement?, statement?, modules_mapReferences]
  cases graph.modules[slot.module]? with
  | none => rfl
  | some module => exact List.getElem?_map

theorem referencesOf_mapReferences (f : Nat → Reference → Reference)
    (graph : Graph) (node : Node) :
    (graph.mapReferences f).referencesOf node =
      (graph.referencesOf node).map (f node.slot.module) := by
  cases node with
  | declaration slot =>
      rw [referencesOf, referencesOf, declaration?_mapReferences]
      cases graph.declaration? slot <;> rfl
  | statement slot =>
      rw [referencesOf, referencesOf, statement?_mapReferences]
      cases graph.statement? slot <;> rfl

end Graph

end Prune
