import Mathlib.Algebra.GroupWithZero.Nat
import Mathlib.Algebra.Order.BigOperators.Group.List
import Mathlib.Algebra.Order.Group.Nat
import Mathlib.Data.List.Permutation
import Mathlib.Logic.Relation
import Prune.Emission
import Prune.Proofs.Nodes

/-!
# What is put out is what the roots reach

The walk of `Emission.walk` runs on fuel, and the fuel is no bound on what it
finds: a step either takes a visited node off the stack, or visits a node for
the first time and pays for what it puts on the stack with the references of
that node, which no later step can spend again (`pending`). So the number of
references in the graph and one more always suffice for one root, and
`walk_induction` is the only place that speaks of fuel. What holds of the stack
and the emission before a step and after it holds at the end, with an empty
stack; `emission_induction` carries that over one root after the other, each of
which meets the nodes that the roots before it have visited.

The invariant is `Emission.Settled`. Every successor of a visited node is
visited or on the stack, so that at the end the visited nodes are closed under
references; and the units are the texts of the visited nodes, in the order of
their visits. `emission_reaches` puts these together with what linking
guarantees, that every reference leads to a declaration in the graph.
-/

namespace Prune

namespace Graph

/-- A reference of one node means another. -/
def Refers (graph : Graph) (node next : Node) : Prop :=
  ∃ reference ∈ graph.referencesOf node, ∃ slot,
    reference.target = some (.declaration slot) ∧ next = .declaration slot

/-- A node that a chain of references leads to from one of the roots. -/
def ReachedFrom (graph : Graph) (roots : List Node) (node : Node) : Prop :=
  ∃ root ∈ roots, Relation.ReflTransGen graph.Refers root node

/-- The text that stands for a node in the output: that of a declaration has its
export words if it is exported or a root. -/
def unit? (graph : Graph) (roots : List Node) : Node → Option String
  | .declaration slot => (graph.declaration? slot).map fun declaration =>
      if declaration.exported = true ∨ .declaration slot ∈ roots then
        declaration.itemText
      else declaration.plainText
  | .statement slot => (graph.statement? slot).map Statement.text

theorem isSome_unit? {graph : Graph} {roots : List Node} {node : Node} :
    (graph.unit? roots node).isSome ↔ graph.Holds node := by
  cases node <;> rw [unit?, Holds, Option.isSome_map]

theorem unit?_congr {graph : Graph} {roots others : List Node}
    (h : ∀ node, node ∈ others ↔ node ∈ roots) (node : Node) :
    graph.unit? others node = graph.unit? roots node := by
  cases node <;> simp only [unit?, h]

/-! ## The references that no visit has spent -/

/-- The number of references of the nodes that have not been visited. -/
def pending (graph : Graph) (visited : List Node) : Nat :=
  ((graph.nodes.filter fun node => !visited.contains node).map fun node =>
    (graph.referencesOf node).length).sum

theorem pending_nil (graph : Graph) :
    graph.pending [] = graph.referenceCount := by
  have hmodules : ∀ entries : List (Module × Nat),
      (∀ entry ∈ entries, graph.modules[entry.2]? = some entry.1) →
      ((entries.flatMap fun entry => nodesOf entry.1 entry.2).map fun node =>
          (graph.referencesOf node).length).sum =
        ((entries.map Prod.fst).map fun module =>
          module.references.length).sum := by
    intro entries hentries
    induction entries with
    | nil => rfl
    | cons entry entries ih =>
        rw [List.flatMap_cons, List.map_append, List.sum_append,
          ← List.length_flatMap,
          ← references_eq (hentries entry List.mem_cons_self),
          ih fun other hother => hentries other (List.mem_cons_of_mem _ hother)]
        rfl
  have hcount : graph.referenceCount =
      (graph.modules.map fun module => module.references.length).sum := by
    rw [referenceCount, List.sum_eq_foldl, List.foldl_map]
  have hall : graph.nodes.filter (fun node => !([] : List Node).contains node) =
      graph.nodes :=
    List.filter_eq_self.mpr fun _ _ => rfl
  rw [pending, hall, nodes, hmodules, List.zipIdx_map_fst, hcount]
  exact fun entry hentry => List.mk_mem_zipIdx_iff_getElem?.mp hentry

theorem pending_le (graph : Graph) (visited : List Node) :
    graph.pending visited ≤ graph.referenceCount := by
  have hall : graph.nodes.filter (fun node => !([] : List Node).contains node) =
      graph.nodes :=
    List.filter_eq_self.mpr fun _ _ => rfl
  rw [← pending_nil, pending, pending, hall]
  exact (List.filter_sublist.map _).sum_le_sum fun _ _ => Nat.zero_le _

/-- A first visit spends the references of its node. -/
theorem pending_cons {graph : Graph} {visited : List Node} {node : Node}
    (h : node ∉ visited) :
    graph.pending (node :: visited) + (graph.referencesOf node).length ≤
      graph.pending visited := by
  have hspent : ∀ nodes : List Node,
      ((nodes.filter fun other => !(node :: visited).contains other).map
        fun other =>
            (graph.referencesOf other).length).sum +
          (if node ∈ nodes then (graph.referencesOf node).length else 0) ≤
        ((nodes.filter fun other => !visited.contains other).map fun other =>
          (graph.referencesOf other).length).sum := by
    intro nodes
    induction nodes with
    | nil => exact Nat.le_refl 0
    | cons other nodes ih =>
        by_cases hother : other = node
        · have hin : (node :: visited).contains node = true :=
            List.contains_iff_mem.mpr List.mem_cons_self
          have hout : visited.contains node = false := by
            rw [Bool.eq_false_iff, ne_eq, List.contains_iff_mem]
            exact h
          subst hother
          rw [List.filter_cons_of_neg
              (by
                  simp only [hin, Bool.not_true, Bool.false_eq_true,
                    not_false_eq_true]),
            List.filter_cons_of_pos (by simp only [hout, Bool.not_false]),
            List.map_cons, List.sum_cons, if_pos List.mem_cons_self]
          omega
        · have hsame :
              (node :: visited).contains other = visited.contains other := by
            rw [List.contains_cons, beq_eq_false_iff_ne.mpr hother,
              Bool.false_or]
          have hmem : node ∈ other :: nodes ↔ node ∈ nodes := by
            rw [List.mem_cons, or_iff_right (Ne.symm hother)]
          simp only [List.filter_cons, hsame, hmem]
          split
          · rw [List.map_cons, List.sum_cons, List.map_cons, List.sum_cons]
            omega
          · exact ih
  by_cases hholds : graph.Holds node
  · have hsum := hspent graph.nodes
    rwa [if_pos (mem_nodes hholds)] at hsum
  · have hsum := hspent graph.nodes
    rw [referencesOf_eq_nil hholds]
    exact Nat.le_trans (Nat.le_add_right _ _) hsum

end Graph

namespace Emission

/-! ## One step of the walk -/

/-- The first visit of a node. -/
def visit (graph : Graph) (emission : Emission) (node : Node) : Emission :=
  emit graph { emission with visited := node :: emission.visited } node

/-- What a first visit puts on the stack. -/
def fresh (graph : Graph) (emission : Emission) (node : Node) : List Node :=
  (successors graph node).filter fun successor =>
    !(emission.visit graph node).isVisited successor

theorem isVisited_iff {emission : Emission} {node : Node} :
    emission.isVisited node = true ↔ node ∈ emission.visited :=
  List.contains_iff_mem

theorem mem_successors {graph : Graph} {node next : Node} :
    next ∈ successors graph node ↔ graph.Refers node next := by
  rw [successors, List.mem_filterMap, Graph.Refers]
  refine exists_congr fun reference => and_congr_right fun _ => ?_
  constructor
  · intro h
    split at h
    · next slot htarget => exact ⟨slot, htarget, (Option.some_inj.mp h).symm⟩
    · cases h
  · rintro ⟨slot, htarget, rfl⟩
    rw [htarget]

theorem length_successors_le (graph : Graph) (node : Node) :
    (successors graph node).length ≤ (graph.referencesOf node).length :=
  List.length_filterMap_le _ _

theorem noteName_rest (emission : Emission) (name : String) (module : Nat) :
    (emission.noteName name module).roots = emission.roots ∧
      (emission.noteName name module).visited = emission.visited ∧
      (emission.noteName name module).units = emission.units := by
  rw [noteName]
  split
  · exact ⟨rfl, rfl, rfl⟩
  · split <;> exact ⟨rfl, rfl, rfl⟩

theorem emit_rest (graph : Graph) (emission : Emission) (node : Node) :
    (emission.emit graph node).roots = emission.roots ∧
      (emission.emit graph node).visited = emission.visited ∧
      (emission.emit graph node).units =
        emission.units ++ (graph.unit? emission.roots node).toList := by
  cases node with
  | declaration slot =>
      rw [emit, Graph.unit?]
      cases graph.declaration? slot with
      | none => exact ⟨rfl, rfl, (List.append_nil _).symm⟩
      | some declaration =>
          obtain ⟨hroots, hvisited, hunits⟩ :=
            emission.noteName_rest declaration.name slot.module
          refine ⟨hroots, hvisited, ?_⟩
          simp only [hunits, Declaration.text, Bool.or_eq_true,
            List.contains_iff_mem]
          rfl
  | statement slot =>
      rw [emit, Graph.unit?]
      cases graph.statement? slot with
      | none => exact ⟨rfl, rfl, (List.append_nil _).symm⟩
      | some statement => exact ⟨rfl, rfl, rfl⟩

@[simp]
theorem roots_visit (graph : Graph) (emission : Emission) (node : Node) :
    (emission.visit graph node).roots = emission.roots := (emit_rest _ _ _).1

@[simp]
theorem visited_visit (graph : Graph) (emission : Emission) (node : Node) :
    (emission.visit graph node).visited = node :: emission.visited :=
  (emit_rest _ _ _).2.1

theorem units_visit (graph : Graph) (emission : Emission) (node : Node) :
    (emission.visit graph node).units =
      emission.units ++ (graph.unit? emission.roots node).toList :=
  (emit_rest _ _ _).2.2

theorem mem_fresh {graph : Graph} {emission : Emission} {node next : Node} :
    next ∈ emission.fresh graph node ↔
      graph.Refers node next ∧ next ∉ node :: emission.visited := by
  rw [fresh, List.mem_filter, mem_successors, Bool.not_eq_true',
    Bool.eq_false_iff, ne_eq, isVisited_iff, visited_visit]

theorem walk_visited {graph : Graph} {fuel : Nat} {node : Node}
    {stack : List Node} {emission : Emission} (h : node ∈ emission.visited) :
    walk graph (fuel + 1) (node :: stack) emission =
      walk graph fuel stack emission := by
  rw [walk, if_pos (isVisited_iff.mpr h)]

theorem walk_unvisited {graph : Graph} {fuel : Nat} {node : Node}
    {stack : List Node} {emission : Emission} (h : node ∉ emission.visited) :
    walk graph (fuel + 1) (node :: stack) emission =
      walk graph fuel (emission.fresh graph node ++ stack)
        (emission.visit graph node) := by
  rw [walk, if_neg (fun hvisited => h (isVisited_iff.mp hvisited))]
  rfl

/-! ## The whole walk -/

/-- What holds before and after each step holds at the end, when nothing is left
on the stack. -/
theorem walk_induction {graph : Graph} {P : List Node → Emission → Prop}
    (hskip : ∀ node stack emission,
      node ∈ emission.visited → P (node :: stack) emission → P stack emission)
    (hvisit : ∀ node stack emission,
      node ∉ emission.visited → P (node :: stack) emission →
      P (emission.fresh graph node ++ stack) (emission.visit graph node))
    {fuel : Nat} {stack : List Node} {emission : Emission}
    (hfuel : stack.length + graph.pending emission.visited ≤ fuel)
    (h : P stack emission) :
    P [] (walk graph fuel stack emission) := by
  induction fuel generalizing stack emission with
  | zero =>
      have hstack : stack = [] := List.eq_nil_of_length_eq_zero (by omega)
      subst hstack
      exact h
  | succ fuel ih =>
      cases stack with
      | nil => exact h
      | cons node stack =>
          rw [List.length_cons] at hfuel
          by_cases hnode : node ∈ emission.visited
          · rw [walk_visited hnode]
            exact ih (by omega) (hskip node stack emission hnode h)
          · -- The references of the node leave the measure, and no more than
            -- that many nodes come on the stack.
            rw [walk_unvisited hnode]
            refine ih ?_ (hvisit node stack emission hnode h)
            have hspent : graph.pending (node :: emission.visited) +
                (graph.referencesOf node).length ≤
                  graph.pending emission.visited :=
              Graph.pending_cons hnode
            have hfresh : (emission.fresh graph node).length ≤
                (graph.referencesOf node).length :=
              Nat.le_trans (List.length_filter_le _ _)
                (length_successors_le graph node)
            rw [visited_visit, List.length_append]
            omega

/-- What holds before and after each step, and stays true when the walk of
another root begins, holds of the whole emission. -/
theorem emission_induction {graph : Graph}
    {P : List Node → List Node → Emission → Prop}
    (hskip : ∀ begun node stack emission, node ∈ emission.visited →
      P begun (node :: stack) emission → P begun stack emission)
    (hvisit : ∀ begun node stack emission,
      node ∉ emission.visited → P begun (node :: stack) emission →
      P begun (emission.fresh graph node ++ stack) (emission.visit graph node))
    (hbegin : ∀ begun root emission,
      P begun [] emission → P (begun ++ [root]) [root] emission)
    {roots : List Node} (hstart : P [] [] (start roots)) :
    P roots [] (graph.emission roots) := by
  have hwalks : ∀ (rest begun : List Node) (emission : Emission),
      P begun [] emission →
      P (begun ++ rest) [] (rest.foldl (fun emission root =>
        walk graph (graph.referenceCount + 1) [root] emission) emission) := by
    intro rest
    induction rest with
    | nil =>
        intro begun emission h
        rw [List.append_nil]
        exact h
    | cons root rest ih =>
        intro begun emission h
        rw [List.append_cons]
        refine ih
          _ _ (walk_induction (hskip _) (hvisit _) ?_
            (hbegin begun root emission h))
        have hpending := graph.pending_le emission.visited
        rw [List.length_singleton]
        omega
  exact hwalks roots [] _ hstart

/-- What the walks of some roots have made of an emission, up to what is left on
the stack. -/
structure Settled (graph : Graph) (roots begun stack : List Node)
    (emission : Emission) : Prop where
  asked : emission.roots = roots
  reached : ∀ node,
    node ∈ emission.visited ∨ node ∈ stack → graph.ReachedFrom begun node
  begun : ∀ root ∈ begun, root ∈ emission.visited ∨ root ∈ stack
  closed : ∀ node ∈ emission.visited, ∀ next, graph.Refers node next →
    next ∈ emission.visited ∨ next ∈ stack
  nodup : emission.visited.Nodup
  units : emission.units =
    emission.visited.reverse.filterMap (graph.unit? roots)

theorem Settled.skip {graph : Graph} {roots begun : List Node} {node : Node}
    {stack : List Node} {emission : Emission} (hnode : node ∈ emission.visited)
    (h : Settled graph roots begun (node :: stack) emission) :
    Settled graph roots begun stack emission := by
  have hleft : ∀ {other}, other ∈ emission.visited ∨ other ∈ node :: stack →
      other ∈ emission.visited ∨ other ∈ stack := by
    rintro other (hvisited | hstack)
    · exact Or.inl hvisited
    · rcases List.mem_cons.mp hstack with rfl | hstack
      · exact Or.inl hnode
      · exact Or.inr hstack
  refine ⟨h.asked, fun other hother => h.reached other ?_,
    fun root hroot => hleft (h.begun root hroot),
    fun other hother next hnext =>
      hleft (h.closed other hother next hnext), h.nodup, h.units⟩
  exact hother.imp_right (List.mem_cons_of_mem node)

theorem Settled.visit {graph : Graph} {roots begun : List Node} {node : Node}
    {stack : List Node} {emission : Emission} (hnode : node ∉ emission.visited)
    (h : Settled graph roots begun (node :: stack) emission) :
    Settled graph roots begun (emission.fresh graph node ++ stack)
      (emission.visit graph node) := by
  have hreached : graph.ReachedFrom begun node :=
    h.reached node (Or.inr List.mem_cons_self)
  have hkept : ∀ {other}, other ∈ emission.visited ∨ other ∈ node :: stack →
      other ∈ node :: emission.visited ∨
      other ∈ emission.fresh graph node ++ stack := by
    rintro other (hvisited | hstack)
    · exact Or.inl (List.mem_cons_of_mem _ hvisited)
    · rcases List.mem_cons.mp hstack with rfl | hstack
      · exact Or.inl List.mem_cons_self
      · exact Or.inr (List.mem_append_right _ hstack)
  constructor
  case asked => rw [roots_visit, h.asked]
  case reached =>
    intro other hother
    rw [visited_visit, List.mem_cons, List.mem_append] at hother
    rcases hother with (rfl | hvisited) | hfresh | hstack
    · exact hreached
    · exact h.reached other (Or.inl hvisited)
    · obtain ⟨root, hroot, hpath⟩ := hreached
      exact ⟨root, hroot, hpath.tail (mem_fresh.mp hfresh).1⟩
    · exact h.reached other (Or.inr (List.mem_cons_of_mem _ hstack))
  case begun =>
    intro root hroot
    rw [visited_visit]
    exact hkept (h.begun root hroot)
  case closed =>
    intro other hother next hnext
    rw [visited_visit] at hother ⊢
    rcases List.mem_cons.mp hother with rfl | hvisited
    · by_cases hseen : next ∈ other :: emission.visited
      · exact Or.inl hseen
      · exact Or.inr (List.mem_append_left _ (mem_fresh.mpr ⟨hnext, hseen⟩))
    · exact hkept (h.closed other hvisited next hnext)
  case nodup =>
    rw [visited_visit]
    exact List.nodup_cons.mpr ⟨hnode, h.nodup⟩
  case units =>
    rw [units_visit, visited_visit, List.reverse_cons, List.filterMap_append,
      h.units, h.asked, List.filterMap_cons, List.filterMap_nil]
    cases graph.unit? roots node <;> rfl

theorem Settled.begin {graph : Graph} {roots begun : List Node} {root : Node}
    {emission : Emission} (h : Settled graph roots begun [] emission) :
    Settled graph roots (begun ++ [root]) [root] emission := by
  constructor
  case asked => exact h.asked
  case reached =>
    rintro node (hvisited | hstack)
    · obtain ⟨source, hsource, hpath⟩ := h.reached node (Or.inl hvisited)
      exact ⟨source, List.mem_append_left _ hsource, hpath⟩
    · rw [List.mem_singleton.mp hstack]
      exact ⟨root, List.mem_append_right _ List.mem_cons_self, .refl⟩
  case begun =>
    intro other hother
    rcases List.mem_append.mp hother with hbegun | hlast
    · exact Or.inl ((h.begun other hbegun).resolve_right List.not_mem_nil)
    · exact Or.inr hlast
  case closed =>
    intro node hnode next hnext
    exact Or.inl
      ((h.closed node hnode next hnext).resolve_right List.not_mem_nil)
  case nodup => exact h.nodup
  case units => exact h.units

theorem settled_emission (graph : Graph) (roots : List Node) :
    Settled graph roots roots [] (graph.emission roots) := by
  refine emission_induction (P := Settled graph roots)
    (fun _ _ _ _ => Settled.skip)
    (fun _ _ _ _ => Settled.visit) (fun _ _ _ => Settled.begin) ?_
  refine ⟨rfl, ?_, ?_, ?_, List.nodup_nil, rfl⟩
  · rintro node (h | h) <;> exact absurd h List.not_mem_nil
  · exact fun _ h => absurd h List.not_mem_nil
  · exact fun _ h => absurd h List.not_mem_nil

/-- The visited nodes are those that the roots reach. -/
theorem mem_visited_emission {graph : Graph} {roots : List Node} {node : Node} :
    node ∈ (graph.emission roots).visited ↔ graph.ReachedFrom roots node := by
  have hsettled := settled_emission graph roots
  constructor
  · exact fun h => hsettled.reached node (Or.inl h)
  · rintro ⟨root, hroot, hpath⟩
    induction hpath with
    | refl => exact (hsettled.begun root hroot).resolve_right List.not_mem_nil
    | tail _ hstep ih =>
        exact (hsettled.closed _ ih _ hstep).resolve_right List.not_mem_nil

/-- What is visited depends neither on the order of the roots nor on the order
of references. -/
theorem perm_visited {graph other : Graph} {roots others : List Node}
    (hrefers : ∀ node next, other.Refers node next ↔ graph.Refers node next)
    (hroots : ∀ node, node ∈ others ↔ node ∈ roots) :
    (other.emission others).visited.Perm (graph.emission roots).visited := by
  have hsame : other.Refers = graph.Refers := by
    funext node next
    exact propext (hrefers node next)
  rw [List.perm_ext_iff_of_nodup (settled_emission other others).nodup
    (settled_emission graph roots).nodup]
  intro node
  rw [mem_visited_emission, mem_visited_emission]
  simp only [Graph.ReachedFrom, hroots, hsame]

/-- Roots in another order, or more than once, put out the same texts in another
order. -/
theorem perm_units {graph : Graph} {roots others : List Node}
    (h : ∀ node, node ∈ others ↔ node ∈ roots) :
    (graph.emission others).units.Perm (graph.emission roots).units := by
  have hvisited :
      (graph.emission others).visited.Perm (graph.emission roots).visited :=
    perm_visited (fun _ _ => Iff.rfl) h
  rw [(settled_emission graph others).units,
    (settled_emission graph roots).units, funext (Graph.unit?_congr h)]
  exact ((List.reverse_perm _).trans
    (hvisited.trans (List.reverse_perm _).symm)).filterMap _

end Emission

/-! ## Graphs that have been linked -/

namespace Graph

/-- In a linked graph references lead to declarations that stand in it. -/
theorem LinksTo.holds {graph linked : Graph} {isGlobal : String → Bool}
    (h : graph.LinksTo isGlobal linked) {node next : Node}
    (hrefers : linked.Refers node next) :
    linked.Holds next := by
  obtain ⟨reference, hreference, slot, htarget, rfl⟩ := hrefers
  obtain ⟨module, hmodule, hmem⟩ := mem_referencesOf hreference
  obtain ⟨target, htarget', hresolved⟩ := h.target hmodule hmem
  rw [htarget, Option.some_inj] at htarget'
  subst htarget'
  obtain ⟨found, hdeclares, -⟩ := resolveName_declares hresolved
  exact (h.declares.mpr hdeclares).holds

theorem LinksTo.holds_of_reachedFrom {graph linked : Graph}
    {isGlobal : String → Bool} (h : graph.LinksTo isGlobal linked)
    {roots : List Node} (hroots : ∀ root ∈ roots, linked.Holds root)
    {node : Node} (hnode : linked.ReachedFrom roots node) :
    linked.Holds node := by
  obtain ⟨root, hroot, hpath⟩ := hnode
  induction hpath with
  | refl => exact hroots root hroot
  | tail _ hstep _ => exact h.holds hstep

/-- One unit for each visited node: the texts of the visited nodes, none
missing. -/
theorem LinksTo.units_emission {graph linked : Graph} {isGlobal : String → Bool}
    (h : graph.LinksTo isGlobal linked) {roots : List Node}
    (hroots : ∀ root ∈ roots, linked.Holds root) :
    (linked.emission roots).units.map some =
      (linked.emission roots).visited.reverse.map (linked.unit? roots) := by
  rw [(Emission.settled_emission linked roots).units, List.map_filterMap]
  rw [← List.filterMap_eq_map]
  refine List.filterMap_congr fun node hnode => ?_
  have hreached := Emission.mem_visited_emission.mp (List.mem_reverse.mp hnode)
  have hunit : (linked.unit? roots node).isSome :=
    isSome_unit?.mpr (h.holds_of_reachedFrom hroots hreached)
  obtain ⟨text, htext⟩ := Option.isSome_iff_exists.mp hunit
  simp only [Function.comp_apply, htext, Option.map_some]

/-- What the roots reach is put out, each node once and with its own text: an
emission visits exactly the nodes that references lead to from the roots, and
its units are the texts of these nodes. Which texts there are does not depend on
the order of the roots. -/
theorem emission_reaches {graph linked : Graph} {config : Config}
    {roots : List Node} (hlink : graph.link config = .ok linked)
    (hroots : ∀ root ∈ roots, linked.Holds root) :
    (∀ node, (linked.emission roots).isVisited node = true ↔
      linked.ReachedFrom roots node) ∧
      (linked.emission roots).visited.Nodup ∧
      (linked.emission roots).units.map some =
        (linked.emission roots).visited.reverse.map (linked.unit? roots) ∧
      ∀ others, (∀ node, node ∈ others ↔ node ∈ roots) →
        (linked.emission others).units.Perm (linked.emission roots).units := by
  have hlinks := linksTo_of_linkWith hlink
  refine ⟨fun node => ?_, (Emission.settled_emission linked roots).nodup,
    hlinks.units_emission hroots, fun _ => Emission.perm_units⟩
  rw [Emission.isVisited_iff, Emission.mem_visited_emission]

/-- Two modules whose declarations mean each other, one of which is not
exported. -/
def circle : Graph :=
  { modules :=
      [{ Module.empty "/a.ts" true with
          declarations := .ofList [("main",
            ⟨"main", "export const main = helper;",
              "const main = helper;", true, [.named "helper"]⟩)]
          importTable := .ofList [("helper", ⟨"helper", "helper", "/b.ts"⟩)] },
        { Module.empty "/b.ts" false with
          declarations := .ofList [("helper",
            ⟨"helper", "export const helper = main;",
              "const helper = main;", false, [.named "main"]⟩)]
          importTable := .ofList [("main", ⟨"main", "main", "/a.ts"⟩)] }]
    edges := []
    entry := some "/a.ts" }

/-- Roots of `circle`: `helper` is reached from the first before it comes
itself, and once more after that. -/
def circleRoots : List Node :=
  [.declaration ⟨0, 0⟩, .declaration ⟨1, 0⟩, .declaration ⟨1, 0⟩]

theorem emission_reaches_circle :
    ∃ linked, circle.link .default = .ok linked ∧
      (∀ root ∈ circleRoots, linked.Holds root) ∧
      (∀ node, (linked.emission circleRoots).isVisited node = true ↔
        linked.ReachedFrom circleRoots node) ∧
      (linked.emission circleRoots).visited.Nodup ∧
      (linked.emission circleRoots).units.map some =
        (linked.emission circleRoots).visited.reverse.map
          (linked.unit? circleRoots) ∧
      (linked.emission circleRoots.reverse).units.Perm
        (linked.emission circleRoots).units := by
  have hsome : (circle.link .default).toOption.isSome = true := by cbv
  obtain ⟨linked, hlink⟩ := exists_ok_of_isSome hsome
  have hlinks := linksTo_of_linkWith hlink
  have hmain : linked.Declares ⟨0, 0⟩ "main" :=
    hlinks.declares.mpr ⟨_, rfl, rfl⟩
  have hhelper : linked.Declares ⟨1, 0⟩ "helper" :=
    hlinks.declares.mpr ⟨_, rfl, rfl⟩
  have hroots : ∀ root ∈ circleRoots, linked.Holds root := by
    intro root hroot
    simp only [circleRoots, List.mem_cons, List.not_mem_nil, or_false] at hroot
    rcases hroot with rfl | rfl | rfl
    · exact hmain.holds
    · exact hhelper.holds
    · exact hhelper.holds
  obtain ⟨hvisited, hnodup, hunits, hperm⟩ := emission_reaches hlink hroots
  exact ⟨linked, hlink, hroots, hvisited, hnodup, hunits,
    hperm circleRoots.reverse fun _ => List.mem_reverse⟩

end Graph

end Prune
