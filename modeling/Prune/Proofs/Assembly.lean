import Prune.Build
import Prune.Proofs.Dependencies
import Prune.Proofs.IdOrder
import Prune.Proofs.Outcome

/-!
# Putting the graph together

When a build is over its modules are sorted by their ids, added one by one, and
only then are the dependencies entered, so that both ends of a dependency have
to be among the modules. They are if the modules are closed under their clauses
(`exists_graphOf`). Sorting forgets in which order the modules came as long as
no two of them have one id (`graphOf_perm`).
-/

namespace Prune.Build

theorem modules_foldl_addModule (modules : List Module) (graph : Graph) :
    (modules.foldl Graph.addModule graph).modules =
      graph.modules ++ modules := by
  induction modules generalizing graph with
  | nil => rw [List.foldl_nil, List.append_nil]
  | cons module modules ih =>
      rw [List.foldl_cons, ih, Graph.addModule, List.append_assoc]
      rfl

/-- The last entry becomes the entry of the graph. -/
theorem entry_foldl_addModule (modules : List Module) (graph : Graph) :
    (modules.foldl Graph.addModule graph).entry =
      modules.foldl (fun entry module =>
        if module.isEntry then some module.id else entry) graph.entry := by
  induction modules generalizing graph with
  | nil => rfl
  | cons module modules ih =>
      rw [List.foldl_cons, ih, List.foldl_cons, Graph.addModule]

theorem edges_foldl_addModule (modules : List Module) (graph : Graph) :
    (modules.foldl Graph.addModule graph).edges = graph.edges := by
  induction modules generalizing graph with
  | nil => rfl
  | cons module modules ih => rw [List.foldl_cons, ih, Graph.addModule]

theorem modules_graphOf {modules : List Module} {graph : Graph}
    (h : graphOf modules = .ok graph) :
    graph.modules = modules.mergeSort fun a b => a.id ≤ b.id := by
  rw [graphOf] at h
  refine foldlM_induction (P := fun graph : Graph =>
    graph.modules = modules.mergeSort fun a b => a.id ≤ b.id) h ?_ ?_
  · rw [modules_foldl_addModule]
    rfl
  · intro graph _ next _ hstep hgraph
    rw [(Graph.addDependency_ok hstep).1, hgraph]

theorem perm_modules_graphOf {modules : List Module} {graph : Graph}
    (h : graphOf modules = .ok graph) : graph.modules.Perm modules := by
  rw [modules_graphOf h]
  exact List.mergeSort_perm _ _

theorem built_graphOf {modules : List Module} {graph : Graph}
    (h : graphOf modules = .ok graph) :
    graph.Built := by
  have hmodules : ∀ (modules : List Module) (graph : Graph), graph.Built →
      (modules.foldl Graph.addModule graph).Built := by
    intro modules
    induction modules with
    | nil => exact fun _ hgraph => hgraph
    | cons module modules ih =>
        exact fun graph hgraph => ih _ (hgraph.addModule module)
  rw [graphOf] at h
  exact foldlM_induction (P := Graph.Built) h (hmodules _ _ .empty)
    fun _ _ _ _ hstep hgraph => hgraph.addDependency hstep

theorem foldl_entry {modules : List Module} {start : Option String}
    {id : String}
    (hid : ∀ module ∈ modules, module.isEntry = true → module.id = id)
    (hstart : (∃ module ∈ modules, module.isEntry = true) ∨ start = some id) :
    modules.foldl (fun entry module => if module.isEntry then some module.id
      else entry) start =
      some id := by
  induction modules generalizing start with
  | nil =>
      exact hstart.resolve_left fun ⟨_, hmodule, _⟩ => List.not_mem_nil hmodule
  | cons module modules ih =>
      refine ih (fun other hother => hid other (List.mem_cons_of_mem _ hother))
        ?_
      dsimp only
      by_cases hentry : module.isEntry = true
      · rw [if_pos hentry, hid module List.mem_cons_self hentry]
        exact Or.inr rfl
      · rw [if_neg hentry]
        refine hstart.imp_left fun ⟨other, hother, hisEntry⟩ =>
          ⟨other, ?_, hisEntry⟩
        refine (List.mem_cons.mp hother).resolve_left ?_
        rintro rfl
        exact hentry hisEntry

/-- If there are entries, and all of them go by one id, then it is that of the
entry of the graph. -/
theorem entry_graphOf {modules : List Module} {graph : Graph}
    (h : graphOf modules = .ok graph) {id : String}
    (hsome : ∃ module ∈ modules, module.isEntry = true)
    (hid : ∀ module ∈ modules, module.isEntry = true → module.id = id) :
    graph.entry = some id := by
  rw [graphOf] at h
  refine foldlM_induction
    (P := fun graph : Graph => graph.entry = some id) h ?_ ?_
  · rw [entry_foldl_addModule]
    refine foldl_entry
      (fun module hmodule => hid module (List.mem_mergeSort.mp hmodule))
      (Or.inl ?_)
    obtain ⟨module, hmodule, hisEntry⟩ := hsome
    exact ⟨module, List.mem_mergeSort.mpr hmodule, hisEntry⟩
  · intro graph _ next _ hstep hgraph
    rw [(Graph.addDependency_ok hstep).2.1, hgraph]

/-! ## The ends of dependencies -/

theorem exists_addDependency {graph : Graph} {source target : String}
    (hsource : source ∈ graph.modules.map Module.id)
    (htarget : target ∈ graph.modules.map Module.id) (dependency : Dependency) :
    ∃ next, graph.addDependency source target dependency = .ok next := by
  obtain ⟨sourceIndex, hsourceIndex⟩ := Graph.exists_indexOf hsource
  obtain ⟨targetIndex, htargetIndex⟩ := Graph.exists_indexOf htarget
  rw [Graph.addDependency, hsourceIndex, htargetIndex]
  dsimp only
  split
  · exact ⟨_, rfl⟩
  · exact ⟨_, rfl⟩

theorem mem_edgesOf {module : Module} {edge : String × String × Dependency}
    (h : edge ∈ edgesOf module) :
    edge.1 = module.id ∧ ∃ clause ∈ module.imports,
      edge.2.1 = clause.target := by
  rw [edgesOf, List.mem_map] at h
  obtain ⟨⟨clause, order⟩, hclause, rfl⟩ := h
  exact ⟨rfl, clause, (List.mem_zipIdx hclause).2.2 ▸ List.getElem_mem _, rfl⟩

/-- A dependency that is added is one of the graph afterwards, with all that
there were before. -/
theorem dependsOn_addDependency {graph next : Graph} {source target : String}
    {dependency : Dependency}
    (h : graph.addDependency source target dependency = .ok next) :
    (∃ index last,
      next.indexOf? source = some index ∧ next.indexOf? target = some last ∧
      next.DependsOn index last) ∧ ∀ edge ∈ graph.edges, edge ∈ next.edges := by
  rw [Graph.addDependency] at h
  split at h
  · cases h
  · next index hsource =>
      split at h
      · cases h
      · next last htarget =>
          split at h
          · next hedge =>
              cases h
              rw [Graph.hasEdge, List.any_eq_true] at hedge
              obtain ⟨edge, hmem, hends⟩ := hedge
              rw [Bool.and_eq_true, decide_eq_true_eq,
                decide_eq_true_eq] at hends
              exact ⟨⟨index, last, hsource, htarget, edge, hmem, hends⟩,
                fun _ hmem => hmem⟩
          · cases h
            exact ⟨⟨index, last, hsource, htarget, _, List.mem_cons_self,
              rfl, rfl⟩, fun _ hmem => List.mem_cons_of_mem _ hmem⟩

/-- In a graph that has been made every clause leads from its module to the one
it names. -/
theorem dependsOn_graphOf {modules : List Module} {graph : Graph}
    (h : graphOf modules = .ok graph) {module : Module}
    (hmodule : module ∈ modules) {clause : Import}
    (hclause : clause ∈ module.imports) :
    ∃ index last, graph.indexOf? module.id = some index ∧
      graph.indexOf? clause.target = some last ∧
      graph.DependsOn index last := by
  obtain ⟨order, horder⟩ := List.mem_iff_getElem?.mp hclause
  have hedge :
      (module.id, clause.target, Dependency.mk clause.specifier order) ∈
      (modules.mergeSort fun a b => a.id ≤ b.id).flatMap edgesOf :=
    List.mem_flatMap.mpr ⟨module, List.mem_mergeSort.mpr hmodule,
      List.mem_map.mpr
        ⟨(clause, order), List.mk_mem_zipIdx_iff_getElem?.mpr horder, rfl⟩⟩
  rw [graphOf] at h
  refine foldlM_forall
    (P := fun edge graph => ∃ index last, graph.indexOf? edge.1 = some index ∧
      graph.indexOf? edge.2.1 = some last ∧ graph.DependsOn index last) h
    (fun graph edge next hstep => (dependsOn_addDependency hstep).1)
    (fun graph edge next hstep other hother => ?_) _ hedge
  obtain ⟨index, last, hsource, htarget, found, hfound, hends⟩ := hother
  obtain ⟨hmodules, -, -⟩ := Graph.addDependency_ok hstep
  rw [Graph.indexOf?, ← hmodules] at hsource htarget
  exact ⟨index, last, hsource, htarget, found,
    (dependsOn_addDependency hstep).2 found hfound, hends⟩

/-- Modules that are closed under their clauses make a graph. -/
theorem exists_graphOf {modules : List Module}
    (h : ∀ module ∈ modules, ∀ clause ∈ module.imports,
      clause.target ∈ modules.map Module.id) :
    ∃ graph, graphOf modules = .ok graph := by
  let sorted := modules.mergeSort fun a b => a.id ≤ b.id
  have hsorted : ∀ module, module ∈ sorted ↔ module ∈ modules :=
    fun _ => List.mem_mergeSort
  have hids : ∀ id, id ∈ sorted.map Module.id ↔ id ∈ modules.map Module.id :=
    fun id => by
      simp only [List.mem_map, hsorted]
  have hends : ∀ (graph : Graph) edge,
      edge ∈ sorted.flatMap edgesOf → graph.modules = sorted →
      ∃ next, graph.addDependency edge.1 edge.2.1 edge.2.2 = .ok next ∧
        next.modules = sorted := by
    intro graph edge hedge hmodules
    obtain ⟨module, hmodule, hmem⟩ := List.mem_flatMap.mp hedge
    obtain ⟨hsource, clause, hclause, htarget⟩ := mem_edgesOf hmem
    have hfrom : edge.1 ∈ graph.modules.map Module.id := by
      rw [hmodules, hsource]
      exact List.mem_map_of_mem hmodule
    have hto : edge.2.1 ∈ graph.modules.map Module.id := by
      rw [hmodules, htarget, hids]
      exact h module ((hsorted module).mp hmodule) clause hclause
    obtain ⟨next, hnext⟩ := exists_addDependency hfrom hto edge.2.2
    exact ⟨next, hnext, (Graph.addDependency_ok hnext).1.trans hmodules⟩
  have hfirst : (sorted.foldl Graph.addModule Graph.empty).modules =
      sorted := by
    rw [modules_foldl_addModule]
    rfl
  obtain ⟨graph, hgraph, -⟩ :=
    exists_foldlM_ok (P := fun graph : Graph => graph.modules = sorted)
      hfirst hends
  exact ⟨graph, hgraph⟩

/-! ## The order in which modules came -/

/-- Modules of different ids are sorted the same in whatever order they come. -/
theorem mergeSort_perm {modules others : List Module} (h : modules.Perm others)
    (hnodup : (modules.map Module.id).Nodup) :
    (modules.mergeSort fun a b => a.id ≤ b.id) = others.mergeSort fun a b =>
      a.id ≤ b.id := by
  have hsorted := pairwise_mergeSort_key Module.id
  refine List.Perm.eq_of_pairwise ?_ (hsorted modules) (hsorted others) ?_
  · intro a b ha hb hab hba
    exact List.inj_on_of_nodup_map hnodup (List.mem_mergeSort.mp ha)
      (h.mem_iff.mpr (List.mem_mergeSort.mp hb)) (String.le_antisymm hab hba)
  · exact (List.mergeSort_perm _ _).trans
      (h.trans (List.mergeSort_perm _ _).symm)

theorem graphOf_perm {modules others : List Module} (h : modules.Perm others)
    (hnodup : (modules.map Module.id).Nodup) :
    graphOf modules = graphOf others := by
  rw [graphOf, graphOf, mergeSort_perm h hnodup]

end Prune.Build
