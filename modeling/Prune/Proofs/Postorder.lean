import Prune.Proofs.DepthFirst
import Prune.Proofs.Evaluation

/-!
# The order of evaluation is a post-order

The walk of `evaluationOrder` goes through nodes, and takes up each of them
where it has stopped: by the place of the dependency that it looks at next. What
it lists are the ids that a search lists which calls itself for the ids of the
dependencies, each of them standing for its newest node.

A frame on the stack is a call that has not come back: the dependencies from its
place on are still to be searched, and then its id is left. Going through the
frames from the top down finishes the search, and no step of the walk changes
what comes of that (`Walk.finish_step`). Edges may lead to nodes whose ids mean
newer nodes by now, but the walk takes the ids of what they lead to, and so
never comes to such a node.
-/

namespace Prune.Graph

variable {graph : Graph}

/-! ## Ids and their newest nodes -/

/-- Behind the last place there is nothing that passes. -/
theorem not_of_lastIndex {α : Type} {p : α → Bool} {items : List α}
    {index later : Nat} {item : α} (h : lastIndex p items = some index)
    (hlater : index < later) (hitem : items[later]? = some item) :
    ¬ p item = true := by
  induction items generalizing index later with
  | nil => cases h
  | cons first rest ih =>
      obtain ⟨later, rfl⟩ :=
        Nat.exists_eq_succ_of_ne_zero (Nat.ne_of_gt (Nat.zero_lt_of_lt hlater))
      rw [List.getElem?_cons_succ] at hitem
      rw [lastIndex] at h
      split at h
      · next last hlast =>
          cases h
          exact ih hlast (Nat.lt_of_succ_lt_succ hlater) hitem
      · next hnone =>
          intro hpasses
          have hsome := isSome_lastIndex (List.mem_of_getElem? hitem) hpasses
          rw [hnone] at hsome
          cases hsome

/-- A newer node has the id of a node. -/
def Superseded (graph : Graph) (index : Nat) : Prop :=
  ∃ module later newer, graph.modules[index]? = some module ∧ index < later ∧
    graph.modules[later]? = some newer ∧ newer.id = module.id

theorem Current.not_superseded {index : Nat} (h : graph.Current index) :
    ¬ graph.Superseded index := by
  rintro ⟨module, later, newer, hmodule, hlater, hnewer, hid⟩
  obtain ⟨same, hsame, hlast⟩ := h
  rw [hmodule, Option.some_inj] at hsame
  subst hsame
  exact not_of_lastIndex hlast hlater hnewer (decide_eq_true hid)

/-- The id of a node. -/
def idOf (graph : Graph) (index : Nat) : String :=
  (graph.modules[index]?).elim "" Module.id

theorem idOf_of_indexOf? {id : String} {index : Nat}
    (h : graph.indexOf? id = some index) :
    graph.idOf index = id := by
  obtain ⟨module, hmodule, hid⟩ := exists_of_indexOf? h
  rw [idOf, hmodule, Option.elim_some, hid]

theorem Current.indexOf?_idOf {index : Nat} (h : graph.Current index) :
    graph.indexOf? (graph.idOf index) = some index := by
  obtain ⟨module, hmodule, hindex⟩ := h
  rw [idOf, hmodule, Option.elim_some, hindex]

theorem Current.dependencies_idOf {index : Nat} (h : graph.Current index) :
    graph.dependencies (graph.idOf index) = graph.dependenciesOf index := by
  obtain ⟨module, hmodule, -⟩ := h
  rw [idOf, dependenciesOf, hmodule, Option.elim_some, Option.elim_some]

/-- Every dependency is the id of a module. -/
theorem exists_indexOf_of_dependency {index : Nat} {entry : String × Dependency}
    (h : entry ∈ graph.dependenciesOf index) :
    ∃ target, graph.indexOf? entry.1 = some target := by
  rw [dependenciesOf] at h
  cases hmodule : graph.modules[index]? with
  | none =>
      rw [hmodule] at h
      cases h
  | some module =>
      rw [hmodule, Option.elim_some, dependencies] at h
      split at h
      · cases h
      · obtain ⟨edge, -, hedge⟩ := List.mem_filterMap.mp h
        obtain ⟨target, htarget, rfl⟩ := Option.map_eq_some_iff.mp hedge
        exact exists_indexOf
          (List.mem_map_of_mem (List.mem_of_getElem? htarget))

/-- The ids of the modules that each module depends on, in the order of its
clauses. -/
def requirements (graph : Graph) : Outgoing String where
  next id := (graph.dependencies id).map Prod.fst
  sources := graph.modules.map Module.id
  next_of_notMem id hid := by
    have hnone : graph.indexOf? id = none := by
      rw [Option.eq_none_iff_forall_ne_some]
      intro index hindex
      obtain ⟨module, hmodule, rfl⟩ := exists_of_indexOf? hindex
      exact hid (List.mem_map_of_mem (List.mem_of_getElem? hmodule))
    rw [dependencies, hnone, List.map_nil]

theorem Current.next_requirements {index : Nat} (h : graph.Current index) :
    graph.requirements.next (graph.idOf index) =
      (graph.dependenciesOf index).map Prod.fst :=
  congrArg (List.map Prod.fst) h.dependencies_idOf

/-- The ids that a depth-first search from an id leaves, in the order in which
it leaves them. -/
def postorder (graph : Graph) (id : String) : List String :=
  (graph.requirements.search .start [id]).left

/-! ## What is left to search -/

namespace Walk

/-- Finishes what a frame has begun. -/
def close (graph : Graph) (search : Search String) (frame : Nat × Nat) :
    Search String :=
  (graph.requirements.search search
    (((graph.dependenciesOf frame.1).drop frame.2).map Prod.fst)).leave
    (graph.idOf frame.1)

/-- The search that a walk has done so far. -/
def searched (graph : Graph) (walk : Walk) : Search String :=
  ⟨walk.entered.map graph.idOf, walk.order.map graph.idOf⟩

/-- What becomes of the search when all frames are finished, from the top of the
stack down. -/
def finish (graph : Graph) (walk : Walk) : Search String :=
  walk.stack.foldl (close graph) (walk.searched graph)

variable {entry : Nat} {walk : Walk}

/-- Among nodes that their ids mean, an id has been entered with its node. -/
theorem Sound.idOf_mem_entered (h : Sound graph entry walk) {target : Nat}
    (htarget : graph.Current target) :
    graph.idOf target ∈ walk.entered.map graph.idOf ↔
    target ∈ walk.entered := by
  refine ⟨fun hmem => ?_, List.mem_map_of_mem⟩
  obtain ⟨node, hnode, hid⟩ := List.mem_map.mp hmem
  have hcurrent := h.current node ((h.entered node).mp hnode)
  have hsame := hcurrent.indexOf?_idOf
  rw [hid, htarget.indexOf?_idOf, Option.some_inj] at hsame
  exact hsame ▸ hnode

/-- The dependency that a frame looks at next is the first that is left to
search. -/
theorem drop_dependenciesOf {index next target : Nat}
    (h : graph.successor? index next = some target) :
    ((graph.dependenciesOf index).drop next).map Prod.fst =
      graph.idOf target ::
        ((graph.dependenciesOf index).drop (next + 1)).map Prod.fst := by
  obtain ⟨dependency, hdependency, htarget⟩ := Option.bind_eq_some_iff.mp h
  obtain ⟨hlt, rfl⟩ := List.getElem?_eq_some_iff.mp hdependency
  rw [List.drop_eq_getElem_cons hlt, List.map_cons, idOf_of_indexOf? htarget]

/-- No step of a walk changes what becomes of its search. -/
theorem Sound.finish_step (h : Sound graph entry walk)
    (hstack : walk.stack ≠ []) :
    (walk.step graph).finish graph = walk.finish graph := by
  have hmoves := moves_step graph hstack
  generalize walk.step graph = after at hmoves
  cases hmoves with
  | leave hdone =>
      rw [finish, finish, List.foldl_cons]
      congr 1
      rw [close, List.drop_eq_nil_of_le hdone, List.map_nil,
        Outgoing.search_nil, Search.leave, searched, searched, List.map_append]
      rfl
  | @pass index next stack entered order hmore hknown =>
      obtain ⟨target, htarget⟩ :=
        exists_indexOf_of_dependency (List.getElem_mem hmore)
      have hleads : graph.successor? index next = some target := by
        rw [successor?, List.getElem?_eq_getElem hmore, Option.bind_some,
          htarget]
      have hentered : graph.idOf target ∈ entered.map graph.idOf :=
        List.mem_map_of_mem (hknown target hleads)
      rw [finish, finish, List.foldl_cons, List.foldl_cons]
      congr 1
      rw [close, close, drop_dependenciesOf hleads,
        Outgoing.search_entered hentered]
      rfl
  | @enter index next target stack entered order hleads hfresh =>
      have hcurrent := current_of_successor? hleads
      have hunentered : graph.idOf target ∉ entered.map graph.idOf :=
        fun hmem =>
          hfresh ((h.idOf_mem_entered hcurrent).mp hmem)
      rw [finish, finish, List.foldl_cons, List.foldl_cons, List.foldl_cons]
      congr 1
      rw [close, close, close, drop_dependenciesOf hleads,
        Outgoing.search_fresh hunentered, hcurrent.next_requirements,
        List.drop_zero]
      rfl

theorem Sound.finish_run (h : Sound graph entry walk) (fuel : Nat) :
    (Walk.run graph fuel walk).finish graph = walk.finish graph := by
  induction fuel generalizing walk with
  | zero => rfl
  | succ fuel ih =>
      rw [Walk.run]
      split
      · rfl
      · next hstack =>
          have hne : walk.stack ≠ [] :=
            fun hnil => hstack (List.isEmpty_iff.mpr hnil)
          rw [ih (h.step hne), h.finish_step hne]

theorem finish_start (hentry : graph.Current entry) :
    finish graph ⟨[(entry, 0)], [entry], []⟩ =
      graph.requirements.search .start [graph.idOf entry] := by
  rw [Outgoing.search_fresh List.not_mem_nil, Outgoing.search_nil,
    hentry.next_requirements]
  rfl

/-- A walk that is over has listed the post-order of its entry. -/
theorem order_run {id : String} (hentry : graph.indexOf? id = some entry)
    {fuel : Nat} (hfuel : graph.modules.length + graph.edges.length ≤ fuel) :
    (run graph fuel ⟨[(entry, 0)], [entry], []⟩).stack = [] ∧
      (run graph fuel ⟨[(entry, 0)], [entry], []⟩).order.map some =
        (graph.postorder id).map graph.indexOf? := by
  have hcurrent := current_of_indexOf? hentry
  have hstart := sound_start hcurrent
  obtain ⟨hsound, hover⟩ :=
    hstart.run (Nat.le_trans hfuel (Nat.le_add_right _ _))
  refine ⟨hover, ?_⟩
  have hfinish := hstart.finish_run fuel
  rw [finish_start hcurrent, idOf_of_indexOf? hentry, finish, hover,
    List.foldl_nil] at hfinish
  rw [postorder, ← hfinish, searched, List.map_map]
  refine List.map_congr_left fun index hindex => ?_
  rw [← trail_of_over hover] at hindex
  exact (hsound.current index hindex).indexOf?_idOf.symm

end Walk

/-- The walk from the entry ends, and the order of evaluation is the post-order
of the search that calls itself for the ids that each module depends on, in
their order; every id stands for its newest node, so that no node comes whose id
a newer one has. -/
theorem evaluationOrder_postorder {id : String} (hbuilt : graph.Built)
    (hentry : graph.entry = some id) :
    ∃ entry, graph.indexOf? id = some entry ∧
      (∀ fuel, graph.modules.length + graph.edges.length ≤ fuel →
        (Walk.run graph fuel ⟨[(entry, 0)], [entry], []⟩).stack = [] ∧
          (Walk.run graph fuel ⟨[(entry, 0)], [entry], []⟩).order =
            graph.evaluationOrder) ∧
      graph.evaluationOrder.map some = (graph.postorder id).map graph.indexOf? ∧
      ∀ index ∈ graph.evaluationOrder, ¬ graph.Superseded index := by
  obtain ⟨entry, hindex⟩ := exists_indexOf (hbuilt.entry_mem hentry)
  have horder : graph.evaluationOrder =
      (Walk.run graph (graph.modules.length + graph.edges.length)
        ⟨[(entry, 0)], [entry], []⟩).order := by
    rw [evaluationOrder, hentry, Option.bind_some, hindex]
  have hpost : graph.evaluationOrder.map some =
      (graph.postorder id).map graph.indexOf? := by
    rw [horder]
    exact (Walk.order_run hindex (Nat.le_refl _)).2
  refine ⟨entry, hindex, fun fuel hfuel => ?_, hpost, fun index hlisted => ?_⟩
  · obtain ⟨hover, hrun⟩ := Walk.order_run hindex hfuel
    exact ⟨hover, List.map_injective_iff.mpr (fun _ _ => Option.some.inj)
      (hrun.trans hpost.symm)⟩
  · obtain ⟨name, -, hname⟩ :=
      List.mem_map.mp (hpost ▸ List.mem_map_of_mem hlisted)
    exact (current_of_indexOf? hname).not_superseded

/-- A graph whose entry has been added twice. An edge leads to its first node,
which leads on as the second does. -/
def renewed : Graph :=
  { modules := [.empty "/a.ts" true, .empty "/b.ts" false, .empty "/a.ts" true,
    .empty "/c.ts" false]
    edges :=
      [⟨1, 3, ⟨"./c", 1⟩⟩, ⟨2, 3, ⟨"./c", 1⟩⟩, ⟨2, 1, ⟨"./b", 0⟩⟩,
        ⟨1, 0, ⟨"./a", 0⟩⟩, ⟨0, 1, ⟨"./b", 0⟩⟩]
    entry := some "/a.ts" }

theorem built_renewed : renewed.Built := by
  have hone : Built
      { renewed with modules := renewed.modules.take 2, edges := [] } :=
    (Built.empty.addModule (.empty "/a.ts" true)).addModule
      (.empty "/b.ts" false)
  have hforth : Built
      { renewed with
        modules := renewed.modules.take 2, edges := renewed.edges.drop 4 } :=
    hone.addDependency
      (show addDependency _ "/a.ts" "/b.ts" ⟨"./b", 0⟩ = .ok _ from rfl)
  have hback : Built
      { renewed with
        modules := renewed.modules.take 2, edges := renewed.edges.drop 3 } :=
    hforth.addDependency
      (show addDependency _ "/b.ts" "/a.ts" ⟨"./a", 0⟩ = .ok _ from rfl)
  have hmodules : Built { renewed with edges := renewed.edges.drop 3 } :=
    (hback.addModule (.empty "/a.ts" true)).addModule (.empty "/c.ts" false)
  have hagain : Built { renewed with edges := renewed.edges.drop 2 } :=
    hmodules.addDependency
      (show addDependency _ "/a.ts" "/b.ts" ⟨"./b", 0⟩ = .ok _ from rfl)
  have hmore : Built { renewed with edges := renewed.edges.drop 1 } :=
    hagain.addDependency
      (show addDependency _ "/a.ts" "/c.ts" ⟨"./c", 1⟩ = .ok _ from rfl)
  exact hmore.addDependency
    (show addDependency _ "/b.ts" "/c.ts" ⟨"./c", 1⟩ = .ok _ from rfl)

/-- The search comes back to the entry by an edge to its first node, and passes
it by. -/
theorem evaluationOrder_postorder_renewed :
    renewed.Built ∧ renewed.entry = some "/a.ts" ∧ renewed.Superseded 0 ∧
      renewed.evaluationOrder = [3, 1, 2] ∧
      (renewed.postorder "/a.ts").map
        renewed.indexOf? = [some 3, some 1, some 2] ∧
      ∀ index ∈ renewed.evaluationOrder, ¬ renewed.Superseded index := by
  have horder : renewed.evaluationOrder = [3, 1, 2] := by cbv
  obtain ⟨entry, -, -, hpost, hcurrent⟩ :=
    evaluationOrder_postorder built_renewed (rfl : renewed.entry = some "/a.ts")
  rw [horder] at hpost
  exact ⟨built_renewed, rfl, ⟨_, 2, _, rfl, by decide, rfl, rfl⟩, horder,
    hpost.symm, hcurrent⟩

end Prune.Graph
