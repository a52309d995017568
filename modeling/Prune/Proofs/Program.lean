import Prune.Proofs.Carried
import Prune.Proofs.Exchange
import Prune.Proofs.WellFormed

/-!
# The graph of a program

A graph that is put together in any way may hold modules that nothing imports,
and then the order of evaluation leaves them out. A build makes no such graph.
An id is scheduled because it is the entry, or because a module that was
received names it (`Reached.traced`), and each clause of a module has become an
edge. So whatever was received hangs together by edges that start at the entry,
and the order of evaluation lists all of it. `Graph.Whole` is what the rest of a
compilation may rely on.

None of that asks what a configuration calls a source file. A specifier may then
lead to a path that is not clean; but no module has such a path for its id, so
there is no graph at all.

A build that makes a graph is also one that is over (`exists_over_of_finish`). A
task in flight would belong to an id of the graph, and so to one that was
received.
-/

namespace Prune

open Relation

theorem Build.graphOf_of_finish {build : Build} {graph : Graph}
    (h : build.finish = .ok graph) :
    build.errors = [] ∧ graphOf build.modules.reverse = .ok graph := by
  rw [finish] at h
  split at h
  · next hnone => exact ⟨List.isEmpty_iff.mp hnone, mapError_ok h⟩
  · cases h

/-- A graph that runs all of its modules, each once, and whose entry has its
names and items in order. -/
structure Graph.Whole (graph : Graph) (first : Nat) (module : Module) :
    Prop where
  entry : graph.entry.bind graph.indexOf? = some first
  stands : graph.modules[first]? = some module
  keyed : graph.Keyed
  arranged : module.Arranged
  order : graph.evaluationOrder.Perm (List.range graph.modules.length)

namespace Exchange

variable {config : Config} {load : Loader} {entry : String} {x : Exchange}
    {graph : Graph}

/-! ## Why an id has been scheduled -/

theorem Reached.traced (h : Reached config load entry x) :
    ∀ id ∈ x.build.scheduled, id = entry ∨
      ∃ module ∈ x.build.modules, ∃ clause ∈ module.imports,
        clause.target = id := by
  induction h with
  | refl => exact fun id hid => Or.inl (List.mem_singleton.mp hid)
  | @tail before _ _ hstep ih =>
      cases hstep with
      | send => exact ih
      | @receive message rest waits next =>
          obtain ⟨task, result⟩ := message
          cases result with
          | error error => exact ih
          | ok module =>
              obtain ⟨after, added, hadds, haccept⟩ :=
                Build.accept_ok before.build module
              rw [show (before.receive (task, .ok module) rest).build =
                { after with modules := module :: before.build.modules }
                  from haccept]
              intro id hid
              rw [hadds.scheduled] at hid
              rcases List.mem_append.mp hid with hnew | hold
              · obtain ⟨other, hother, rfl⟩ :=
                  List.mem_map.mp (List.mem_reverse.mp hnew)
                obtain ⟨clause, hclause, rfl⟩ := hadds.named other hother
                exact Or.inr ⟨module, List.mem_cons_self, clause, hclause, rfl⟩
              · refine (ih id hold).imp_right
                  fun ⟨importer, himporter, hclause⟩ => ?_
                exact ⟨importer, List.mem_cons_of_mem _ himporter, hclause⟩

/-- The first result that is received is that of the entry. -/
theorem Reached.begins (h : Reached config load entry x) :
    x.received = [] ∧ x.build.scheduled = [entry] ∨
      ∃ message ∈ x.received, message.1.path = entry := by
  induction h with
  | refl => exact Or.inl ⟨rfl, rfl⟩
  | @tail before _ hbefore hstep ih =>
      have hsound := Reached.sound hbefore
      cases hstep with
      | send => exact ih
      | @receive message rest waits next =>
          refine Or.inr ?_
          rcases ih with ⟨-, hscheduled⟩ | ⟨first, hfirst, hpath⟩
          · -- Nothing but the entry has been scheduled, so there is no other
            -- result to come.
            refine ⟨message, List.mem_cons_self, ?_⟩
            have hmem : message ∈ before.channel ++ before.received := by
              rw [next]
              exact List.mem_cons_self
            have hpath := hsound.scheduled_of_mem hmem
            rw [hscheduled] at hpath
            exact List.mem_singleton.mp hpath
          · exact ⟨first, List.mem_cons_of_mem _ hfirst, hpath⟩

/-! ## Ids of a graph -/

section

variable (hgraph : Build.graphOf x.build.modules.reverse = .ok graph)

include hgraph

theorem perm_modules : graph.modules.Perm x.build.modules :=
  (Build.perm_modules_graphOf hgraph).trans (List.reverse_perm _)

theorem Sound.compiled_of_mem_modules (h : x.Sound config load entry)
    {module : Module} (hmodule : module ∈ graph.modules) :
    ∃ message ∈ x.received,
      Build.compiledAt config load entry message.1.path = some module :=
  h.mem_modules_iff.mp ((perm_modules hgraph).mem_iff.mp hmodule)

/-- What a clause of a received module leads to has been received, for its edge
has an end. -/
theorem Sound.compiled_of_clause (h : x.Sound config load entry)
    {module : Module} (hmodule : module ∈ x.build.modules) {clause : Import}
    (hclause : clause ∈ module.imports) :
    ∃ message ∈ x.received, ∃ found,
      Build.compiledAt config load entry message.1.path = some found ∧
      found.id = clause.target := by
  obtain ⟨_, last, -, hlast, -⟩ :=
    Build.dependsOn_graphOf hgraph (List.mem_reverse.mpr hmodule) hclause
  obtain ⟨found, hfound, hname⟩ := Graph.exists_of_indexOf? hlast
  obtain ⟨message, hmessage, hcompiled⟩ :=
    h.compiled_of_mem_modules hgraph (List.mem_of_getElem? hfound)
  exact ⟨message, hmessage, found, hcompiled, hname⟩

variable (hentry : Path.normalize entry = entry)

include hentry

/-- What is scheduled is the entry or the id of a module, and both are clean. -/
theorem Reached.clean (h : Reached config load entry x) {id : String}
    (hid : id ∈ x.build.scheduled) :
    Path.normalize id = id := by
  rcases h.traced id hid with rfl | ⟨module, hmodule, clause, hclause, rfl⟩
  · exact hentry
  · obtain ⟨message, -, found, hcompiled, hname⟩ :=
      h.sound.compiled_of_clause hgraph hmodule hclause
    rw [← hname, (Build.dissected_of_compiledAt hcompiled).id,
      Path.normalize_normalize]

theorem Reached.id_of_compiled (h : Reached config load entry x)
    {message : Task × Except Error Module} (hmessage : message ∈ x.received)
    {module : Module}
    (hcompiled : Build.compiledAt config load entry message.1.path =
      some module) :
    module.id = message.1.path := by
  rw [(Build.dissected_of_compiledAt hcompiled).id]
  exact h.clean hgraph hentry
    (h.sound.scheduled_of_mem (List.mem_append_right _ hmessage))

theorem Reached.nodup_ids (h : Reached config load entry x) :
    (graph.modules.map Module.id).Nodup := by
  rw [((perm_modules hgraph).map Module.id).nodup_iff]
  exact h.sound.nodup_ids_of_clean fun message hmessage =>
    h.clean hgraph hentry
      (h.sound.scheduled_of_mem (List.mem_append_right _ hmessage))

/-! ## Builds that make a graph -/

/-- Once a result has been received, all that is scheduled has been: otherwise
an edge has no end. -/
theorem Reached.received_of_scheduled (h : Reached config load entry x)
    (hbegun : x.received ≠ []) {id : String} (hid : id ∈ x.build.scheduled) :
    ∃ message ∈ x.received, message.1.path = id := by
  rcases h.traced id hid with rfl | ⟨module, hmodule, clause, hclause, rfl⟩
  · exact h.begins.resolve_left fun hnone => hbegun hnone.1
  · obtain ⟨message, hmessage, found, hcompiled, hname⟩ :=
      h.sound.compiled_of_clause hgraph hmodule hclause
    exact ⟨message, hmessage,
      (h.id_of_compiled hgraph hentry hmessage hcompiled).symm.trans hname⟩

theorem Reached.awaited_eq_zero (h : Reached config load entry x)
    (hbegun : x.received ≠ []) : x.awaited = 0 := by
  have hsound := h.sound
  have hnone : x.build.inFlight ++ x.channel.map Prod.fst = [] := by
    refine List.eq_nil_iff_forall_not_mem.mpr fun task htask => ?_
    have hsplit : x.tasks =
        (x.build.inFlight ++ x.channel.map Prod.fst) ++
          x.received.map Prod.fst := by
      rw [tasks, List.map_append, List.append_assoc]
    have hnodup := hsound.spawned.nodup_iff.mpr hsound.once
    rw [hsplit, List.map_append, List.nodup_append] at hnodup
    have hmem : task ∈ x.tasks := hsplit ▸ List.mem_append_left _ htask
    -- Its id has been received as well, and no id has two tasks.
    obtain ⟨message, hmessage, hpath⟩ :=
      h.received_of_scheduled hgraph hentry hbegun
        (hsound.spawned.mem_iff.mp (List.mem_map_of_mem hmem))
    refine hnodup.2.2 _ (List.mem_map_of_mem htask) _ ?_ hpath.symm
    exact List.mem_map_of_mem (List.mem_map_of_mem hmessage)
  obtain ⟨hrunning, hchannel⟩ := List.append_eq_nil_iff.mp hnone
  rw [hsound.awaited, toCome, hrunning, List.map_eq_nil_iff.mp hchannel]
  rfl

/-! ## Modules of a graph -/

/-- Every id that is needed is one of the graph, and the entry depends on it. -/
theorem Reached.dependsOn_of_needed (h : Reached config load entry x)
    (hover : x.awaited = 0) {first : Nat}
    (hfirst : graph.indexOf? entry = some first) {id : String}
    (hneeded : Build.Needed config load entry id) :
    ∃ index, graph.indexOf? id = some index ∧
      ReflTransGen graph.DependsOn first index := by
  induction hneeded with
  | entry => exact ⟨first, hfirst, .refl⟩
  | @target importer target module hneeded compiled targets ih =>
      obtain ⟨index, hindex, hpath⟩ := ih
      obtain ⟨message, hmessage, rfl⟩ := (h.sound.mem_scheduled_iff hover).mp
        ((h.sound.scheduled_iff hover).mpr hneeded)
      have hmodule : module ∈ x.build.modules.reverse :=
        List.mem_reverse.mpr
          (h.sound.mem_modules_iff.mpr ⟨message, hmessage, compiled⟩)
      -- What a text speaks of it has a clause for, and the clause has become an
      -- edge.
      obtain ⟨clause, hclause, rfl⟩ :=
        (Build.dissected_of_compiledAt compiled).mem_targets.mp targets
      obtain ⟨source, last, hsource, hlast, hdepends⟩ :=
        Build.dependsOn_graphOf hgraph hmodule hclause
      rw [h.id_of_compiled hgraph hentry hmessage compiled, hindex,
        Option.some_inj] at hsource
      exact ⟨last, hlast, hpath.tail (hsource ▸ hdepends)⟩

/-- The file of the entry has made a module, and no other file has made an
entry. -/
theorem Reached.entry_eq (h : Reached config load entry x)
    (hover : x.awaited = 0) (herrors : x.build.errors = []) :
    graph.entry = some entry ∧ entry ∈ graph.modules.map Module.id := by
  have hsound := h.sound
  obtain ⟨message, hmessage, hpath⟩ :=
    (hsound.mem_scheduled_iff hover).mp hsound.begun
  obtain ⟨module, hcompiled⟩ :=
    Option.ne_none_iff_exists'.mp
      (hsound.errors_iff.mp herrors message hmessage)
  have hmodule : module ∈ x.build.modules.reverse :=
    List.mem_reverse.mpr
      (hsound.mem_modules_iff.mpr ⟨message, hmessage, hcompiled⟩)
  constructor
  · refine Build.entry_graphOf hgraph ⟨module, hmodule, ?_⟩
      fun other hother hisEntry => ?_
    · rw [(Build.dissected_of_compiledAt hcompiled).isEntry]
      exact decide_eq_true hpath
    · obtain ⟨sent, -, hmade⟩ :=
        hsound.mem_modules_iff.mp (List.mem_reverse.mp hother)
      have hdissected := Build.dissected_of_compiledAt hmade
      rw [hdissected.isEntry, decide_eq_true_eq] at hisEntry
      rw [hdissected.id, hisEntry, hentry]
  · refine List.mem_map.mpr
      ⟨module, (Build.perm_modules_graphOf hgraph).mem_iff.mpr hmodule, ?_⟩
    rw [h.id_of_compiled hgraph hentry hmessage hcompiled, hpath]

theorem Reached.perm_evaluationOrder (h : Reached config load entry x)
    (hover : x.awaited = 0) (hfirst : graph.entry = some entry) {first : Nat}
    (hindex : graph.indexOf? entry = some first) :
    graph.evaluationOrder.Perm (List.range graph.modules.length) := by
  have hids := h.nodup_ids hgraph hentry
  obtain ⟨walk, hwalk, hdone, horder⟩ := Graph.exists_walk hfirst hindex
  have hnodup : graph.evaluationOrder.Nodup := by
    rw [← horder, ← Graph.Walk.trail_of_over hdone]
    exact hwalk.nodup
  refine (List.perm_ext_iff_of_nodup hnodup List.nodup_range).mpr fun index =>
    ?_
  rw [List.mem_range]
  constructor
  · exact Graph.lt_of_mem_evaluationOrder
  · intro hlt
    have hmodule := List.getElem?_eq_getElem hlt
    obtain ⟨message, hmessage, hcompiled⟩ :=
      h.sound.compiled_of_mem_modules hgraph (List.mem_of_getElem? hmodule)
    have hneeded := h.sound.needed_of_mem (List.mem_append_right _ hmessage)
    rw [← h.id_of_compiled hgraph hentry hmessage hcompiled] at hneeded
    obtain ⟨place, hplace, hpath⟩ :=
      h.dependsOn_of_needed hgraph hentry hover hindex hneeded
    rw [Graph.current_of_nodup hids hmodule, Option.some_inj] at hplace
    rw [← horder, hwalk.mem_order_iff hdone, hplace]
    have hleads : graph.DependsOn ≤ graph.Leads := fun _ _ =>
      ((Build.built_graphOf hgraph).leads_iff hids).mpr
    exact ReflTransGen.mono hleads _ _ hpath

end

/-- A build that is over, in whatever order its results came, makes a graph that
runs all of its modules. -/
theorem Reached.whole (h : Reached config load entry x)
    (hentry : Path.normalize entry = entry) (hover : x.awaited = 0)
    (hbuild : x.build.finish = .ok graph) :
    ∃ first module, graph.Whole first module ∧ module.id = entry := by
  obtain ⟨herrors, hgraph⟩ := Build.graphOf_of_finish hbuild
  obtain ⟨hfirst, hid⟩ := h.entry_eq hgraph hentry hover herrors
  obtain ⟨first, hindex⟩ := Graph.exists_indexOf hid
  obtain ⟨module, hmodule, hname⟩ := Graph.exists_of_indexOf? hindex
  refine ⟨first, module, ⟨?entry, hmodule, ?keyed, ?arranged, ?order⟩, hname⟩
  case entry => rw [hfirst, Option.bind_some, hindex]
  case keyed =>
    intro other hother
    obtain ⟨message, -, hcompiled⟩ :=
      h.sound.compiled_of_mem_modules hgraph hother
    exact (Build.dissected_of_compiledAt hcompiled).keyed
  case arranged =>
    obtain ⟨message, -, hcompiled⟩ :=
      h.sound.compiled_of_mem_modules hgraph (List.mem_of_getElem? hmodule)
    obtain ⟨content, -, hmade⟩ := Build.ofText_of_compiledAt hcompiled
    exact Module.FromFile.arranged ⟨_, _, _, _, _, hmade⟩
  case order => exact h.perm_evaluationOrder hgraph hentry hover hfirst hindex

/-- When the compiler makes a graph, it has received the result of every task:
its fuel is not what the build has ended by. -/
theorem exists_over_of_finish (hentry : Path.normalize entry = entry)
    {bytesRead fuel : Nat}
    (h : ((Build.start entry bytesRead).run config load (fuel + 1)).finish =
      .ok graph) :
    ∃ x, Reached config load entry x ∧ x.awaited = 0 ∧
      x.build.finish = .ok graph := by
  have hrunning : (Build.start entry bytesRead).inFlight ≠ [] :=
    List.cons_ne_nil _ _
  obtain ⟨y, hy, hold⟩ :=
    (mirrors_start config load entry bytesRead).step hrunning
  obtain ⟨x, hx, holder⟩ := hy.run fuel
  have hrun : (Build.start entry bytesRead).run config load (fuel + 1) =
      ((Build.start entry bytesRead).step config load).run config load fuel :=
    if_neg fun hempty => hrunning (List.isEmpty_iff.mp hempty)
  have hfinish : x.build.finish = .ok graph := by
    rw [hx.build, ← h, hrun]
    rfl
  have hbegun : x.received ≠ [] := by
    intro hnone
    have hnew : x.age = 0 := by
      rw [age, hx.channel, hnone]
      rfl
    omega
  obtain ⟨-, hgraph⟩ := Build.graphOf_of_finish hfinish
  exact ⟨x, hx.reached,
    hx.reached.awaited_eq_zero hgraph hentry hbegun, hfinish⟩

end Exchange

/-! ## Linked graphs of a program -/

theorem Module.Arranged.mapReferences {module : Module} (h : module.Arranged)
    (f : Reference → Reference) : (module.mapReferences f).Arranged := by
  obtain ⟨hnames, hdeclarations, hstatements, hreExports⟩ :=
    h.map_declarations fun _ declaration => declaration.mapReferences f
  refine ⟨hnames, hdeclarations, ?_, hreExports⟩
  rw [Module.mapReferences, List.length_map]
  exact hstatements

/-- Linking adds no module and moves none. -/
theorem Graph.Whole.mapReferences {graph : Graph} {first : Nat}
    {module : Module} (h : graph.Whole first module)
    (f : Nat → Reference → Reference) :
    (graph.mapReferences f).Whole first (module.mapReferences (f first)) where
  entry := by
    rw [funext (graph.indexOf?_mapReferences f)]
    exact h.entry
  stands := by rw [modules_mapReferences, h.stands, Option.map_some]
  keyed := (keyed_mapReferences f graph).mpr h.keyed
  arranged := h.arranged.mapReferences _
  order := by
    rw [evaluationOrder_mapReferences, Graph.mapReferences, List.length_mapIdx]
    exact h.order

end Prune
