import Prune.Proofs.Evaluation
import Prune.Proofs.Reached

/-!
# The same program at other places

What a program is does not depend on the numbers that its modules, declarations
and statements go by. A `Relocation` gives the nodes of one graph places in
another, no two of them the same. Two walks go over a graph, and both are
carried along.

The order of evaluation only asks where ids and dependencies lead, so a graph
whose ids lead to the new places is walked through in the same way
(`evaluationOrder_relocated`).

An emission reads the nodes themselves. `Relocation.Embeds` says that what
stands at a new place is what stood at the old one, with references that mean
new places. Other nodes may stand in the second graph besides, and they do have
an effect on the fuel that a walk is given. So a walk is first said without
fuel: `Emission.Walks` is the run of the stack, `walks_walk` says that the walk
with enough fuel is one, and there is only one (`Walks.unique`).
-/

namespace Prune

/-- The places in another graph of the modules of a graph, and in each of them
of its declarations and statements. -/
structure Relocation where
  module : Nat → Nat
  declaration : Nat → Nat → Nat
  statement : Nat → Nat → Nat
  module_injective : Function.Injective module
  declaration_injective : ∀ index, Function.Injective (declaration index)
  statement_injective : ∀ index, Function.Injective (statement index)

namespace Relocation

variable (r : Relocation)

def slot (slot : Slot) : Slot :=
  ⟨r.module slot.module, r.declaration slot.module slot.index⟩

def node : Node → Node
  | .declaration slot => .declaration (r.slot slot)
  | .statement slot =>
      .statement ⟨r.module slot.module, r.statement slot.module slot.index⟩

def target : Target → Target
  | .declaration slot => .declaration (r.slot slot)
  | .ambient => .ambient

def reference (reference : Reference) : Reference :=
  { reference with target := reference.target.map r.target }

theorem node_injective : Function.Injective r.node := by
  intro one other h
  cases one with
  | declaration one =>
      cases other with
      | declaration other =>
          obtain ⟨module, index⟩ := one
          obtain ⟨module', index'⟩ := other
          injection h with h
          injection h with hmodule hindex
          obtain rfl := r.module_injective hmodule
          obtain rfl := r.declaration_injective _ hindex
          rfl
      | statement other => cases h
  | statement one =>
      cases other with
      | declaration other => cases h
      | statement other =>
          obtain ⟨module, index⟩ := one
          obtain ⟨module', index'⟩ := other
          injection h with h
          injection h with hmodule hindex
          obtain rfl := r.module_injective hmodule
          obtain rfl := r.statement_injective _ hindex
          rfl

end Relocation

/-! ## The order of evaluation -/

namespace Graph

/-- A walk in which every module has another place. -/
def Walk.relocated (place : Nat → Nat) (walk : Walk) : Walk :=
  ⟨walk.stack.map fun frame => (place frame.1, frame.2), walk.entered.map place,
    walk.order.map place⟩

section

variable {one other : Graph} {place : Nat → Nat}
    (hplace : Function.Injective place)
  (hindex : ∀ id, other.indexOf? id = (one.indexOf? id).map place)
  (hdependencies : ∀ index,
    other.dependenciesOf (place index) = one.dependenciesOf index)

include hplace hindex hdependencies

theorem Walk.step_relocated (walk : Walk) :
    (walk.relocated place).step other = (walk.step one).relocated place := by
  obtain ⟨_ | ⟨⟨index, next⟩, stack⟩, entered, order⟩ := walk
  · rfl
  · simp only [relocated, step, List.map_cons, hdependencies]
    cases (one.dependenciesOf index)[next]? with
    | none => simp only [List.map_append, List.map_cons, List.map_nil]
    | some entry =>
        simp only [hindex]
        cases one.indexOf? entry.1 with
        | none => simp only [Option.map_none, List.map_cons]
        | some target =>
            have hentered : (entered.map place).contains (place target) =
                entered.contains target := by
              rw [Bool.eq_iff_iff, List.contains_iff_mem, List.contains_iff_mem,
                List.mem_map_of_injective hplace]
            simp only [Option.map_some, hentered]
            split <;> rfl

theorem Walk.run_relocated (fuel : Nat) (walk : Walk) :
    run other fuel (walk.relocated place) =
      (run one fuel walk).relocated place := by
  induction fuel generalizing walk with
  | zero => rfl
  | succ fuel ih =>
      have hstack : (walk.relocated place).stack.isEmpty = walk.stack.isEmpty :=
        List.isEmpty_map
      rw [run, run, hstack, Walk.step_relocated hplace hindex hdependencies, ih]
      split <;> rfl

theorem evaluationOrder_relocated (hentry : other.entry = one.entry)
    (hmodules : other.modules.length = one.modules.length)
    (hedges : other.edges.length = one.edges.length) :
    other.evaluationOrder = one.evaluationOrder.map place := by
  have hfirst : other.entry.bind other.indexOf? =
      (one.entry.bind one.indexOf?).map place := by
    rw [hentry, Option.map_bind]
    exact congrArg _ (funext hindex)
  rw [evaluationOrder, evaluationOrder, hfirst, hmodules, hedges]
  cases one.entry.bind one.indexOf? with
  | none => rfl
  | some first =>
      exact congrArg Walk.order
        (Walk.run_relocated hplace hindex hdependencies _
          ⟨[(first, 0)], [first], []⟩)

end

end Graph

/-! ## Walks without fuel -/

namespace Emission

/-- A walk from a stack, which ends when nothing is left on it. -/
inductive Walks (graph : Graph) : List Node → Emission → Emission → Prop where
  | done (emission : Emission) : Walks graph [] emission emission
  | skip {node : Node} {stack : List Node} {emission result : Emission}
      (known : node ∈ emission.visited)
      (rest : Walks graph stack emission result) :
      Walks graph (node :: stack) emission result
  | visit {node : Node} {stack : List Node} {emission result : Emission}
      (fresh : node ∉ emission.visited)
      (rest : Walks graph (emission.fresh graph node ++ stack)
        (emission.visit graph node) result) :
      Walks graph (node :: stack) emission result

theorem walks_walk {graph : Graph} {fuel : Nat} {stack : List Node}
    {emission : Emission}
    (hfuel : stack.length + graph.pending emission.visited ≤ fuel) :
    Walks graph stack emission (walk graph fuel stack emission) := by
  refine walk_induction
    (P := fun left now => ∀ result, Walks graph left now result →
      Walks graph stack emission result) ?_ ?_ hfuel (fun _ h => h) _ (.done _)
  · exact fun node stack emission hnode h result hrest =>
      h result (.skip hnode hrest)
  · exact fun node stack emission hnode h result hrest =>
      h result (.visit hnode hrest)

/-- The walk of a root ends, whatever has been visited before it. -/
theorem walks_root (graph : Graph) (root : Node) (emission : Emission) :
    Walks graph [root] emission
      (walk graph (graph.referenceCount + 1) [root] emission) := by
  have hpending := graph.pending_le emission.visited
  refine walks_walk ?_
  rw [List.length_singleton]
  omega

theorem Walks.unique {graph : Graph} {stack : List Node}
    {emission result other : Emission} (h : Walks graph stack emission result)
    (hother : Walks graph stack emission other) :
    result = other := by
  induction h with
  | done => cases hother; rfl
  | skip known _ ih =>
      cases hother with
      | skip _ rest => exact ih rest
      | visit fresh _ => exact absurd known fresh
  | visit fresh _ ih =>
      cases hother with
      | skip known _ => exact absurd known fresh
      | visit _ rest => exact ih rest

end Emission

/-! ## Emissions -/

namespace Relocation

/-- Every node of a graph stands at its new place in another, and there its
references mean the new places of what they meant. -/
structure Embeds (r : Relocation) (one other : Graph) : Prop where
  declaration : ∀ slot, other.declaration? (r.slot slot) =
    (one.declaration? slot).map (Declaration.mapReferences r.reference)
  statement : ∀ slot : Slot,
    other.statement?
      ⟨r.module slot.module, r.statement slot.module slot.index⟩ =
      (one.statement? slot).map (Statement.mapReferences r.reference)

variable {r : Relocation} {one other : Graph}

theorem Embeds.referencesOf (h : r.Embeds one other) (node : Node) :
    other.referencesOf (r.node node) =
      (one.referencesOf node).map r.reference := by
  cases node with
  | declaration slot =>
      rw [node, Graph.referencesOf, Graph.referencesOf, h.declaration]
      cases one.declaration? slot <;> rfl
  | statement slot =>
      rw [node, Graph.referencesOf, Graph.referencesOf, h.statement]
      cases one.statement? slot <;> rfl

theorem Embeds.successors (h : r.Embeds one other) (node : Node) :
    Emission.successors other (r.node node) =
      (Emission.successors one node).map r.node := by
  rw [Emission.successors, Emission.successors, h.referencesOf,
    List.filterMap_map, List.map_filterMap]
  refine List.filterMap_congr fun reference _ => ?_
  obtain ⟨name, _ | ⟨slot⟩ | _⟩ := reference <;> rfl

/-- The nodes of an emission at their new places. -/
def emission (r : Relocation) (emission : Emission) : Emission where
  roots := emission.roots.map r.node
  visited := emission.visited.map r.node
  names := emission.names.map fun entry => (entry.1, r.module entry.2)
  collisions := emission.collisions
  units := emission.units

theorem noteName_emission (emission : Emission) (name : String) (index : Nat) :
    (r.emission emission).noteName name (r.module index) =
      r.emission (emission.noteName name index) := by
  have hfind : (r.emission emission).names.find? (fun entry => entry.1 = name) =
      (emission.names.find? fun entry => entry.1 = name).map fun entry =>
        (entry.1, r.module entry.2) := by
    rw [Relocation.emission, List.find?_map]
    rfl
  rw [Emission.noteName, Emission.noteName, hfind]
  cases emission.names.find? fun entry => entry.1 = name with
  | none => rfl
  | some entry =>
      simp only [Option.map_some, r.module_injective.eq_iff]
      split <;> rfl

theorem Embeds.emit (h : r.Embeds one other) (emission : Emission)
    (node : Node) :
    (r.emission emission).emit other (r.node node) =
      r.emission (emission.emit one node) := by
  cases node with
  | declaration slot =>
      have hroots : (r.emission emission).roots.contains
          (r.node (.declaration slot)) =
          emission.roots.contains (.declaration slot) := by
        rw [Bool.eq_iff_iff, List.contains_iff_mem, List.contains_iff_mem]
        exact List.mem_map_of_injective r.node_injective
      rw [node] at hroots ⊢
      rw [Emission.emit, Emission.emit, h.declaration]
      cases one.declaration? slot with
      | none => rfl
      | some declaration =>
          have hnote :=
            noteName_emission (r := r) emission declaration.name slot.module
          simp only [Option.map_some, Declaration.mapReferences]
          rw [hroots]
          exact congrArg (fun noted : Emission => { noted with
            units :=
              noted.units ++
                [declaration.text (emission.roots.contains (.declaration slot))]
                  })
            hnote
  | statement slot =>
      rw [node, Emission.emit, Emission.emit, h.statement]
      cases one.statement? slot <;> rfl

theorem Embeds.visit (h : r.Embeds one other) (emission : Emission)
    (node : Node) :
    (r.emission emission).visit other (r.node node) =
      r.emission (emission.visit one node) :=
  h.emit { emission with visited := node :: emission.visited } node

theorem mem_visited_emission {emission : Emission} {node : Node} :
    r.node node ∈ (r.emission emission).visited ↔ node ∈ emission.visited :=
  List.mem_map_of_injective r.node_injective

theorem Embeds.fresh (h : r.Embeds one other) (emission : Emission)
    (node : Node) :
    (r.emission emission).fresh other (r.node node) =
      (emission.fresh one node).map r.node := by
  rw [Emission.fresh, Emission.fresh, h.successors, h.visit, List.filter_map]
  refine congrArg (List.map r.node) (List.filter_congr fun next _ => ?_)
  rw [Function.comp_apply, Bool.not_inj_iff, Bool.eq_iff_iff,
    Emission.isVisited_iff, Emission.isVisited_iff]
  exact mem_visited_emission

theorem Embeds.walks (h : r.Embeds one other) {stack : List Node}
    {emission result : Emission}
    (hwalks : Emission.Walks one stack emission result) :
    Emission.Walks other (stack.map r.node) (r.emission emission)
      (r.emission result) := by
  induction hwalks with
  | done => exact .done _
  | skip known _ ih => exact .skip (mem_visited_emission.mpr known) ih
  | visit fresh _ ih =>
      refine .visit (fun hknown => fresh (mem_visited_emission.mp hknown)) ?_
      rwa [h.fresh, h.visit, ← List.map_append]

/-- A program at other places puts out the same. -/
theorem Embeds.emission (h : r.Embeds one other) (roots : List Node) :
    other.emission (roots.map r.node) = r.emission (one.emission roots) := by
  rw [Graph.emission, Graph.emission, List.foldl_map]
  change roots.foldl _ (r.emission (Emission.start roots)) = _
  generalize Emission.start roots = start
  induction roots generalizing start with
  | nil => rfl
  | cons root roots ih =>
      have hcarried := h.walks (Emission.walks_root one root start)
      have hwalk := Emission.walks_root other (r.node root) (r.emission start)
      rw [List.foldl_cons, List.foldl_cons, ← ih, ← hwalk.unique hcarried]

end Relocation

end Prune
