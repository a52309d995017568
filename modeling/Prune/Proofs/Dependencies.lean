import Mathlib.Algebra.GroupWithZero.Nat
import Mathlib.Data.List.Nodup
import Mathlib.Tactic.ByContra
import Prune.Graph

/-!
# Ids, nodes and dependencies

An edge connects two nodes, but what is asked of the graph goes through ids: the
dependencies of a module are ids, and an id means the node that carries it last.
`Leads` is what one step of a walk through the ids does. In a graph whose
modules have different ids it is the same as going along an edge (`leads_iff`);
in any other graph it only ever comes to nodes that their ids still mean
(`Current`).
-/

namespace Prune.Graph

/-! ## What an id means -/

section LastIndex

variable {α : Type} {p : α → Bool} {items : List α}

theorem isSome_lastIndex {item : α} (h : item ∈ items) (hitem : p item = true) :
    (lastIndex p items).isSome = true := by
  induction items with
  | nil => cases h
  | cons first rest ih =>
      rw [lastIndex]
      split
      · rfl
      · next hlast =>
          rcases List.mem_cons.mp h with rfl | hmem
          · rw [if_pos hitem]
            rfl
          · rw [hlast] at ih
            exact absurd (ih hmem) Bool.false_ne_true

theorem exists_of_lastIndex {index : Nat} (h : lastIndex p items = some index) :
    ∃ item, items[index]? = some item ∧ p item = true := by
  induction items generalizing index with
  | nil => cases h
  | cons first rest ih =>
      rw [lastIndex] at h
      split at h
      · next last hlast =>
          cases h
          exact ih hlast
      · split at h
        · next hfirst =>
            cases h
            exact ⟨first, rfl, hfirst⟩
        · cases h

theorem lastIndex_eq_none (h : ∀ item ∈ items, ¬ p item = true) :
    lastIndex p items = none := by
  cases hlast : lastIndex p items with
  | none => rfl
  | some index =>
      obtain ⟨item, hitem, hpasses⟩ := exists_of_lastIndex hlast
      exact absurd hpasses (h item (List.mem_of_getElem? hitem))

/-- What passes and has nothing behind it that passes is the last. -/
theorem lastIndex_append_cons {front back : List α} {item : α}
    (hitem : p item = true) (hback : ∀ later ∈ back, ¬ p later = true) :
    lastIndex p (front ++ item :: back) = some front.length := by
  induction front with
  | nil =>
      rw [List.nil_append, lastIndex, lastIndex_eq_none hback]
      dsimp only
      rw [if_pos hitem]
      rfl
  | cons first front ih =>
      rw [List.cons_append, lastIndex, ih]
      rfl

end LastIndex

theorem exists_indexOf {graph : Graph} {id : String}
    (h : id ∈ graph.modules.map Module.id) :
    ∃ index, graph.indexOf? id = some index := by
  obtain ⟨module, hmodule, hid⟩ := List.mem_map.mp h
  exact Option.isSome_iff_exists.mp
    (isSome_lastIndex hmodule (decide_eq_true hid))

theorem exists_of_indexOf? {graph : Graph} {id : String} {index : Nat}
    (h : graph.indexOf? id = some index) :
    ∃ module, graph.modules[index]? = some module ∧ module.id = id := by
  obtain ⟨module, hmodule, hid⟩ := exists_of_lastIndex h
  exact ⟨module, hmodule, of_decide_eq_true hid⟩

/-- A node that is meant by the id of its module. -/
def Current (graph : Graph) (index : Nat) : Prop :=
  ∃ module, graph.modules[index]? = some module ∧
    graph.indexOf? module.id = some index

theorem current_of_indexOf? {graph : Graph} {id : String} {index : Nat}
    (h : graph.indexOf? id = some index) : graph.Current index := by
  obtain ⟨module, hmodule, rfl⟩ := exists_of_indexOf? h
  exact ⟨module, hmodule, h⟩

theorem Current.lt {graph : Graph} {index : Nat} (h : graph.Current index) :
    index < graph.modules.length := by
  obtain ⟨module, hmodule, -⟩ := h
  exact (List.getElem?_eq_some_iff.mp hmodule).1

/-- Where ids are different no node is superseded. -/
theorem current_of_nodup {graph : Graph}
    (hids : (graph.modules.map Module.id).Nodup) {index : Nat} {module : Module}
    (hmodule : graph.modules[index]? = some module) :
    graph.indexOf? module.id = some index := by
  obtain ⟨last, hlast⟩ :=
    exists_indexOf (List.mem_map_of_mem (List.mem_of_getElem? hmodule))
  obtain ⟨other, hother, hid⟩ := exists_of_indexOf? hlast
  have hlt : last < (graph.modules.map Module.id).length := by
    rw [List.length_map]
    exact (List.getElem?_eq_some_iff.mp hother).1
  have hsame : last = index := by
    refine (List.getElem?_inj hlt hids).mp ?_
    rw [List.getElem?_map, List.getElem?_map, hmodule, hother, Option.map_some,
      Option.map_some, hid]
  rw [hlast, hsame]

/-! ## Where dependencies lead -/

/-- The node that a dependency of a node leads to, by the place of the
dependency. -/
def successor? (graph : Graph) (index place : Nat) : Option Nat :=
  ((graph.dependenciesOf index)[place]?).bind fun entry =>
    graph.indexOf? entry.1

/-- Some dependency of a node leads to another. -/
def Leads (graph : Graph) (index target : Nat) : Prop :=
  ∃ place, graph.successor? index place = some target

theorem current_of_successor? {graph : Graph} {index place target : Nat}
    (h : graph.successor? index place = some target) :
    graph.Current target := by
  obtain ⟨entry, -, hentry⟩ := Option.bind_eq_some_iff.mp h
  exact current_of_indexOf? hentry

theorem lt_of_successor? {graph : Graph} {index place target : Nat}
    (h : graph.successor? index place = some target) :
    place < (graph.dependenciesOf index).length := by
  obtain ⟨entry, hentry, -⟩ := Option.bind_eq_some_iff.mp h
  exact (List.getElem?_eq_some_iff.mp hentry).1

theorem leads_iff_mem {graph : Graph} {index target : Nat} :
    graph.Leads index target ↔
      ∃ entry ∈ graph.dependenciesOf index,
        graph.indexOf? entry.1 = some target := by
  constructor
  · rintro ⟨place, hplace⟩
    obtain ⟨entry, hentry, htarget⟩ := Option.bind_eq_some_iff.mp hplace
    exact ⟨entry, List.mem_of_getElem? hentry, htarget⟩
  · rintro ⟨entry, hentry, htarget⟩
    obtain ⟨place, hplace⟩ := List.mem_iff_getElem?.mp hentry
    exact ⟨place, Option.bind_eq_some_iff.mpr ⟨entry, hplace, htarget⟩⟩

theorem dependenciesOf_eq {graph : Graph} {index : Nat}
    (h : graph.Current index) :
    graph.dependenciesOf index = (graph.edgesFrom index).filterMap fun edge =>
      (graph.modules[edge.target]?).map fun module =>
        (module.id, edge.dependency) := by
  obtain ⟨module, hmodule, hindex⟩ := h
  rw [dependenciesOf, hmodule, Option.elim_some, dependencies, hindex]

theorem mem_edgesFrom {graph : Graph} {index : Nat} {edge : Edge} :
    edge ∈ graph.edgesFrom index ↔
    edge ∈ graph.edges ∧ edge.source = index := by
  rw [edgesFrom, List.mem_mergeSort, List.mem_filter, decide_eq_true_iff]

/-- A node has no more dependencies than edges leave it. -/
theorem length_dependenciesOf_le {graph : Graph} {index : Nat}
    (h : graph.Current index) :
    (graph.dependenciesOf index).length ≤ graph.edges.countP fun edge =>
      edge.source = index := by
  rw [dependenciesOf_eq h, List.countP_eq_length_filter]
  refine Nat.le_trans (List.length_filterMap_le _ _) (Nat.le_of_eq ?_)
  rw [edgesFrom, List.length_mergeSort]

/-- Different nodes have different edges. -/
theorem sum_countP_source_le {nodes : List Nat} (hnodup : nodes.Nodup)
    (edges : List Edge) :
    (nodes.map fun node => edges.countP fun edge => edge.source = node).sum ≤
      edges.length := by
  induction nodes generalizing edges with
  | nil => exact Nat.zero_le _
  | cons node nodes ih =>
      obtain ⟨hnode, hnodes⟩ := List.nodup_cons.mp hnodup
      -- The other nodes do not look at the edges of the first, so these can be
      -- taken away.
      have hrest := ih hnodes (edges.filter fun edge => edge.source ≠ node)
      have hsame : ∀ other ∈ nodes,
          ((edges.filter fun edge => edge.source ≠ node).countP fun edge =>
            edge.source = other) =
              edges.countP fun edge => edge.source = other := by
        intro other hother
        rw [List.countP_filter]
        refine List.countP_congr fun edge _ => ?_
        have hne : node ≠ other := fun heq => hnode (heq ▸ hother)
        grind
      rw [List.map_congr_left hsame] at hrest
      have hsplit := List.length_eq_countP_add_countP (l := edges) fun edge =>
        edge.source = node
      rw [List.map_cons, List.sum_cons]
      rw [← List.countP_eq_length_filter] at hrest
      grind

/-! ## Graphs that are built by adding modules and dependencies -/

/-- A graph that some sequence of additions makes, none of which is refused. -/
inductive Built : Graph → Prop where
  | empty : Built .empty
  | addModule {graph : Graph} (built : Built graph) (module : Module) :
      Built (graph.addModule module)
  | addDependency {graph next : Graph} {source target : String}
      {dependency : Dependency}
      (built : Built graph)
      (added : graph.addDependency source target dependency = .ok next) :
      Built next

/-- There is an edge from one node to another. -/
def DependsOn (graph : Graph) (index target : Nat) : Prop :=
  ∃ edge ∈ graph.edges, edge.source = index ∧ edge.target = target

/-- A dependency that is added leaves the modules as they are; if it makes an
edge, then between the nodes that its ids mean. -/
theorem addDependency_ok {graph next : Graph} {source target : String}
    {dependency : Dependency}
    (h : graph.addDependency source target dependency = .ok next) :
    next.modules = graph.modules ∧ next.entry = graph.entry ∧
      ∀ edge ∈ next.edges, edge ∈ graph.edges ∨
        graph.indexOf? source = some edge.source ∧
        graph.indexOf? target = some edge.target := by
  rw [addDependency] at h
  split at h
  · cases h
  · next hsource =>
      split at h
      · cases h
      · next htarget =>
          split at h
          · cases h
            exact ⟨rfl, rfl, fun edge hedge => Or.inl hedge⟩
          · cases h
            refine ⟨rfl, rfl, fun edge hedge => ?_⟩
            rcases List.mem_cons.mp hedge with rfl | hmem
            · exact Or.inr ⟨hsource, htarget⟩
            · exact Or.inl hmem

/-- Both ends of an edge are in the graph. -/
theorem Built.ends {graph : Graph} (h : graph.Built) :
    ∀ edge ∈ graph.edges, edge.source < graph.modules.length ∧
      edge.target < graph.modules.length := by
  induction h with
  | empty => exact fun edge hedge => absurd hedge List.not_mem_nil
  | @addModule graph _ module ih =>
      intro edge hedge
      obtain ⟨hsource, htarget⟩ := ih edge hedge
      simp only [Graph.addModule, List.length_append, List.length_singleton]
      omega
  | addDependency _ hadded ih =>
      obtain ⟨hmodules, -, hedges⟩ := addDependency_ok hadded
      intro edge hedge
      rw [hmodules]
      rcases hedges edge hedge with hold | ⟨hsource, htarget⟩
      · exact ih edge hold
      · exact ⟨(current_of_indexOf? hsource).lt,
          (current_of_indexOf? htarget).lt⟩

/-- The entry is in the graph. -/
theorem Built.entry_mem {graph : Graph} (h : graph.Built) {id : String}
    (hentry : graph.entry = some id) : id ∈ graph.modules.map Module.id := by
  induction h with
  | empty => cases hentry
  | @addModule graph _ module ih =>
      rw [Graph.addModule] at hentry ⊢
      dsimp only at hentry ⊢
      rw [List.map_append, List.mem_append]
      split at hentry
      · cases hentry
        exact Or.inr List.mem_cons_self
      · exact Or.inl (ih hentry)
  | addDependency _ hadded ih =>
      obtain ⟨hmodules, hsame, -⟩ := addDependency_ok hadded
      rw [hsame] at hentry
      rw [hmodules]
      exact ih hentry

/-- Where ids are different, going through ids is going along edges. -/
theorem Built.leads_iff {graph : Graph} (h : graph.Built)
    (hids : (graph.modules.map Module.id).Nodup) {index target : Nat} :
    graph.Leads index target ↔ graph.DependsOn index target := by
  have hcurrent : ∀ {other},
      other < graph.modules.length → graph.Current other := fun hlt =>
    ⟨_, List.getElem?_eq_getElem hlt,
      current_of_nodup hids (List.getElem?_eq_getElem hlt)⟩
  rw [leads_iff_mem]
  constructor
  · rintro ⟨entry, hentry, htarget⟩
    have hindex : graph.Current index := by
      by_contra hnot
      have hnone : graph.modules[index]? = none :=
        List.getElem?_eq_none (Nat.le_of_not_lt fun hlt => hnot (hcurrent hlt))
      rw [dependenciesOf, hnone] at hentry
      cases hentry
    rw [dependenciesOf_eq hindex, List.mem_filterMap] at hentry
    obtain ⟨edge, hedge, hmap⟩ := hentry
    obtain ⟨module, hmodule, rfl⟩ := Option.map_eq_some_iff.mp hmap
    obtain ⟨hmem, hsource⟩ := mem_edgesFrom.mp hedge
    rw [current_of_nodup hids hmodule, Option.some_inj] at htarget
    exact ⟨edge, hmem, hsource, htarget⟩
  · rintro ⟨edge, hedge, rfl, rfl⟩
    obtain ⟨hsource, htarget⟩ := h.ends edge hedge
    obtain ⟨module, hmodule, hindex⟩ := hcurrent htarget
    refine ⟨(module.id, edge.dependency), ?_, hindex⟩
    rw [dependenciesOf_eq (hcurrent hsource), List.mem_filterMap]
    exact ⟨edge,
      mem_edgesFrom.mpr ⟨hedge, rfl⟩, by rw [hmodule, Option.map_some]⟩

end Prune.Graph
