import Mathlib.Data.List.Induction
import Mathlib.Tactic.Tauto
import Prune.Proofs.Dependencies

/-!
# What a graph keeps of its additions

A graph is made by adding modules and dependencies, in any order. An id may be
added again: from then on it means the new node, while the old node stays, with
the edges that it has. A dependency names two ids and joins the nodes that they
mean at its time. So one pair of ids may own several edges, between different
nodes, and an edge that an id once had need not be one of its newest node.

None of this can be seen in one graph, but it can be read off the history of its
additions. The modules are those that were added, in their order
(`modules_grown`), and an edge is there exactly if some addition joined its two
ends, with the dependency of the first that did (`mem_edges_grown`). Both go by
the last addition of a history, so that it is enough to know what one addition
does (`Addition.edges_run`).

An addition is carried out in place. Both ends of a dependency are looked up
before anything is written, and a refusal leaves the graph as it was.
-/

namespace Prune.Graph

/-- What can be added to a graph. -/
inductive Addition where
  | node (module : Module)
  | edge (source target : String) (dependency : Dependency)

namespace Addition

/-- Adds to a graph where it stands. A module is answered with its node. -/
def perform : Addition → StateM Graph (Except MissingEnd (Option Nat))
  | .node module => do
      let index := (← get).size
      modify fun graph => graph.addModule module
      return .ok (some index)
  | .edge source target dependency => do
      let some first := (← get).indexOf? source | return .error (.source source)
      let some last := (← get).indexOf? target | return .error (.target target)
      unless (← get).hasEdge first last do
        modify fun graph =>
          { graph with edges := ⟨first, last, dependency⟩ :: graph.edges }
      return .ok none

/-- The module that is added. -/
def module? : Addition → Option Module
  | .node module => some module
  | .edge _ _ _ => none

/-- An addition asks for an edge: it is a dependency of ids that mean the ends
of the edge. -/
def Draws (graph : Graph) (addition : Addition) (edge : Edge) : Prop :=
  ∃ source target, addition = .edge source target edge.dependency ∧
    graph.indexOf? source = some edge.source ∧
    graph.indexOf? target = some edge.target

/-! ## One addition -/

theorem run_node (module : Module) (graph : Graph) :
    (perform (.node module)).run graph =
      (.ok (some graph.size), graph.addModule module) := rfl

/-- A dependency that is added in place leaves what adding it gives, and what
was there if it is refused. -/
theorem run_edge (source target : String) (dependency : Dependency)
    (graph : Graph) :
    (perform (.edge source target dependency)).run graph =
      match graph.addDependency source target dependency with
      | .ok next => (.ok none, next)
      | .error missing => (.error missing, graph) := by
  rw [perform, addDependency, StateT.run_bind, StateT.run_get, pure_bind]
  cases graph.indexOf? source with
  | none => rfl
  | some first =>
      dsimp only
      rw [StateT.run_bind, StateT.run_get, pure_bind]
      cases graph.indexOf? target with
      | none => rfl
      | some last =>
          dsimp only
          rw [StateT.run_bind, StateT.run_get, pure_bind]
          cases graph.hasEdge first last with
          | true => rfl
          | false => rfl

variable {graph : Graph} {addition : Addition}

/-- The source of a dependency is looked up first. -/
theorem fst_run_edge (source target : String) (dependency : Dependency)
    (graph : Graph) :
    ((edge source target dependency).perform.run graph).1 =
      match graph.indexOf? source, graph.indexOf? target with
      | none, _ => .error (.source source)
      | some _, none => .error (.target target)
      | some _, some _ => .ok none := by
  rw [run_edge, addDependency]
  cases graph.indexOf? source with
  | none => rfl
  | some first =>
      cases graph.indexOf? target with
      | none => rfl
      | some last =>
          dsimp only
          cases graph.hasEdge first last <;> rfl

theorem snd_run_edge {source target : String} {dependency : Dependency}
    {missing : MissingEnd}
    (h : ((edge source target dependency).perform.run graph).1 =
      .error missing) :
    ((edge source target dependency).perform.run graph).2 = graph := by
  rw [run_edge] at h ⊢
  split at h
  · cases h
  · rfl

theorem modules_run (addition : Addition) (graph : Graph) :
    (addition.perform.run graph).2.modules =
      graph.modules ++ addition.module?.toList := by
  cases addition with
  | node module => rfl
  | edge source target dependency =>
      rw [run_edge, module?, Option.toList_none, List.append_nil]
      cases hadded : graph.addDependency source target dependency with
      | error missing => rfl
      | ok next => exact (addDependency_ok hadded).1

theorem entry_run (addition : Addition) (graph : Graph) :
    (addition.perform.run graph).2.entry =
      ((addition.module?.filter Module.isEntry).map Module.id).or
        graph.entry := by
  cases addition with
  | node module =>
      rw [run_node, addModule, module?, Option.filter_some]
      cases module.isEntry <;> rfl
  | edge source target dependency =>
      rw [run_edge]
      cases hadded : graph.addDependency source target dependency with
      | error missing => rfl
      | ok next => exact (addDependency_ok hadded).2.1

theorem Draws.unique {edge other : Edge} (h : addition.Draws graph edge)
    (hother : addition.Draws graph other) : edge = other := by
  obtain ⟨source, target, rfl, hsource, htarget⟩ := h
  obtain ⟨_, _, hsame, hotherSource, hotherTarget⟩ := hother
  cases edge
  cases other
  cases hsame
  rw [hsource, Option.some_inj] at hotherSource
  rw [htarget, Option.some_inj] at hotherTarget
  cases hotherSource
  cases hotherTarget
  rfl

/-- An addition makes the edge that it asks for, unless the ends of that edge
have one. -/
theorem edges_run (addition : Addition) (graph : Graph) :
    (∃ edge, addition.Draws graph edge ∧
      graph.hasEdge edge.source edge.target = false ∧
      (addition.perform.run graph).2.edges = edge :: graph.edges) ∨
    (∀ edge, addition.Draws graph edge →
      graph.hasEdge edge.source edge.target = true) ∧
      (addition.perform.run graph).2.edges = graph.edges := by
  cases addition with
  | node module => exact Or.inr ⟨fun _ ⟨_, _, hsame, _⟩ => (nomatch hsame), rfl⟩
  | edge source target dependency =>
      have hdraws : ∀ edge,
          (Addition.edge source target dependency).Draws graph edge →
          graph.indexOf? source = some edge.source ∧
          graph.indexOf? target = some edge.target := by
        rintro edge ⟨_, _, hsame, hends⟩
        cases hsame
        exact hends
      rw [run_edge, addDependency]
      split
      · next next hadded =>
          split at hadded
          · cases hadded
          · next first hfirst =>
              split at hadded
              · cases hadded
              · next last hlast =>
                  split at hadded
                  · next hedge =>
                      cases hadded
                      refine Or.inr ⟨fun edge hedge => ?_, rfl⟩
                      obtain ⟨hsource, htarget⟩ := hdraws edge hedge
                      rw [hfirst, Option.some_inj] at hsource
                      rw [hlast, Option.some_inj] at htarget
                      rwa [← hsource, ← htarget]
                  · next hedge =>
                      cases hadded
                      exact Or.inl ⟨⟨first, last, dependency⟩,
                        ⟨source, target, rfl, hfirst, hlast⟩,
                        Bool.eq_false_iff.mpr hedge, rfl⟩
      · next missing hrefused =>
          refine Or.inr ⟨fun edge hedge => ?_, rfl⟩
          obtain ⟨hsource, htarget⟩ := hdraws edge hedge
          rw [hsource, htarget] at hrefused
          dsimp only at hrefused
          split at hrefused <;> cases hrefused

theorem hasEdge_iff {source target : Nat} :
    graph.hasEdge source target = true ↔ ∃ dependency,
      ⟨source, target, dependency⟩ ∈ graph.edges := by
  rw [hasEdge, List.any_eq_true]
  simp only [Bool.and_eq_true, decide_eq_true_eq]
  constructor
  · rintro ⟨edge, hedge, rfl, rfl⟩
    exact ⟨edge.dependency, hedge⟩
  · rintro ⟨dependency, hedge⟩
    exact ⟨_, hedge, rfl, rfl⟩

theorem mem_edges_run {edge : Edge} :
    edge ∈ (addition.perform.run graph).2.edges ↔ edge ∈ graph.edges ∨
      graph.hasEdge edge.source edge.target = false ∧
      addition.Draws graph edge := by
  obtain ⟨new, hdraws, hfree, hedges⟩ | ⟨htaken, hedges⟩ :=
    edges_run addition graph
  · rw [hedges, List.mem_cons, or_comm]
    refine or_congr_right ⟨?_, fun h => h.2.unique hdraws⟩
    rintro rfl
    exact ⟨hfree, hdraws⟩
  · rw [hedges]
    refine ⟨Or.inl, fun h => h.resolve_right ?_⟩
    rintro ⟨hfree, hdraws⟩
    rw [htaken edge hdraws] at hfree
    cases hfree

theorem hasEdge_run {source target : Nat} :
    (addition.perform.run graph).2.hasEdge source target = true ↔
      graph.hasEdge source target = true ∨
        ∃ dependency, addition.Draws graph ⟨source, target, dependency⟩ := by
  rw [hasEdge_iff, hasEdge_iff]
  simp only [mem_edges_run, exists_or, exists_and_left]
  rw [← Bool.not_eq_true, hasEdge_iff]
  tauto

end Addition

/-! ## A history of additions -/

/-- The graph that additions leave, one after the other. -/
def grown (history : List Addition) : Graph :=
  history.foldl (fun graph addition => (addition.perform.run graph).2) .empty

theorem grown_concat (history : List Addition) (addition : Addition) :
    grown (history ++ [addition]) =
      (addition.perform.run (grown history)).2 := by
  rw [grown, List.foldl_append]
  rfl

theorem modules_grown (history : List Addition) :
    (grown history).modules = history.filterMap Addition.module? := by
  induction history using List.reverseRecOn with
  | nil => rfl
  | append_singleton history addition ih =>
      rw [grown_concat, Addition.modules_run, ih, List.filterMap_append]
      cases addition <;> rfl

/-- A module of an id has been added. -/
def Added (history : List Addition) (id : String) : Prop :=
  ∃ module, .node module ∈ history ∧ module.id = id

theorem indexOf?_grown_eq_none {history : List Addition} {id : String} :
    (grown history).indexOf? id = none ↔ ¬ Added history id := by
  constructor
  · rintro hnone ⟨module, hmodule, rfl⟩
    have hmem : module ∈ (grown history).modules := by
      rw [modules_grown]
      exact List.mem_filterMap.mpr ⟨_, hmodule, rfl⟩
    obtain ⟨index, hindex⟩ := exists_indexOf (List.mem_map_of_mem hmem)
    rw [hnone] at hindex
    cases hindex
  · intro hnever
    refine lastIndex_eq_none fun module hmodule hid =>
      hnever ⟨module, ?_, of_decide_eq_true hid⟩
    rw [modules_grown] at hmodule
    obtain ⟨addition, haddition, hsome⟩ := List.mem_filterMap.mp hmodule
    cases addition with
    | node other =>
        cases hsome
        exact haddition
    | edge => cases hsome

/-- What is added without an entry leaves the entry. -/
theorem entry_grown_append {before after : List Addition}
    (h : ∀ module, .node module ∈ after → module.isEntry = false) :
    (grown (before ++ after)).entry = (grown before).entry := by
  induction after using List.reverseRecOn with
  | nil => rw [List.append_nil]
  | append_singleton after addition ih =>
      rw [← List.append_assoc, grown_concat, Addition.entry_run,
        ih fun module hmodule => h module (List.mem_append_left _ hmodule)]
      cases addition with
      | edge => rfl
      | node module =>
          rw [Addition.module?, Option.filter_some,
            h module (List.mem_append_right _ List.mem_cons_self)]
          rfl

/-! ## The edges of a history -/

theorem exists_split_concat {α : Type} {P : List α → α → Prop} {items : List α}
    {last : α} :
    (∃ before item after,
      items ++ [last] = before ++ item :: after ∧ P before item) ↔
      (∃ before item after, items = before ++ item :: after ∧ P before item) ∨
        P items last := by
  constructor
  · rintro ⟨before, item, after, hsplit, h⟩
    induction after using List.reverseRecOn with
    | nil =>
        obtain ⟨rfl, hlast⟩ := List.append_inj' hsplit rfl
        cases hlast
        exact Or.inr h
    | append_singleton after other =>
        rw [← List.cons_append, ← List.append_assoc] at hsplit
        exact Or.inl ⟨before, item, after, (List.append_inj' hsplit rfl).1, h⟩
  · rintro (⟨before, item, after, rfl, h⟩ | h)
    · exact ⟨before, item,
        after ++ [last], by rw [List.append_assoc, List.cons_append], h⟩
    · exact ⟨items, last, [], rfl, h⟩

/-- Some addition has joined the ends of an edge. -/
def Joined (history : List Addition) (edge : Edge) : Prop :=
  ∃ before addition after, history = before ++ addition :: after ∧
    ∃ dependency, addition.Draws (grown before) { edge with dependency }

/-- The first addition that has joined the ends of an edge asked for it. -/
def Drawn (history : List Addition) (edge : Edge) : Prop :=
  ∃ before addition after, history = before ++ addition :: after ∧
    ¬ Joined before edge ∧ addition.Draws (grown before) edge

theorem hasEdge_grown {history : List Addition} {edge : Edge} :
    (grown history).hasEdge edge.source edge.target = true ↔
    Joined history edge := by
  induction history using List.reverseRecOn with
  | nil =>
      refine ⟨fun h => (nomatch h), ?_⟩
      rintro ⟨before, addition, after, hsplit, -⟩
      exact absurd hsplit
        (List.append_ne_nil_of_right_ne_nil _ (List.cons_ne_nil _ _)).symm
  | append_singleton history addition ih =>
      rw [grown_concat, Addition.hasEdge_run, ih]
      exact (exists_split_concat (P := fun before (addition : Addition) =>
        ∃ dependency, addition.Draws (grown before)
          { edge with dependency })).symm

theorem mem_edges_grown {history : List Addition} {edge : Edge} :
    edge ∈ (grown history).edges ↔ Drawn history edge := by
  induction history using List.reverseRecOn with
  | nil =>
      refine ⟨fun h => (nomatch h), ?_⟩
      rintro ⟨before, addition, after, hsplit, -⟩
      exact absurd hsplit
        (List.append_ne_nil_of_right_ne_nil _ (List.cons_ne_nil _ _)).symm
  | append_singleton history addition ih =>
      rw [grown_concat, Addition.mem_edges_run, ih, ← Bool.not_eq_true,
        hasEdge_grown]
      exact (exists_split_concat (P := fun before addition =>
        ¬ Joined before edge ∧ addition.Draws (grown before) edge)).symm

/-- No two edges have the same ends. -/
theorem nodup_ends_grown (history : List Addition) :
    ((grown history).edges.map fun edge =>
      (edge.source, edge.target)).Nodup := by
  induction history using List.reverseRecOn with
  | nil => exact List.nodup_nil
  | append_singleton history addition ih =>
      rw [grown_concat]
      obtain ⟨new, -, hfree, hedges⟩ | ⟨-, hedges⟩ :=
        addition.edges_run (grown history)
      · rw [hedges, List.map_cons, List.nodup_cons]
        refine ⟨fun hmem => ?_, ih⟩
        -- An edge with these ends would have kept the new one out.
        obtain ⟨edge, hedge, hends⟩ := List.mem_map.mp hmem
        obtain ⟨hsource, htarget⟩ := Prod.mk.injEq _ _ _ _ ▸ hends
        rw [← hsource, ← htarget,
          Addition.hasEdge_iff.mpr ⟨edge.dependency, hedge⟩] at hfree
        cases hfree
      · rw [hedges]
        exact ih

/-! ## What a graph keeps -/

/-- A graph as the record of a history of additions. -/
structure Records (graph : Graph) (history : List Addition) : Prop where
  /-- An id means the node of its last module, which is the one that was
  answered. -/
  newest : ∀ before module after, history = before ++ .node module :: after →
    (∀ other, .node other ∈ after → other.id ≠ module.id) →
    ∃ index, ((Addition.node module).perform.run (grown before)).1 = .ok
      (some index) ∧
      graph.indexOf? module.id = some index ∧
      graph.modules[index]? = some module
  unknown : ∀ id, ¬ Added history id → graph.indexOf? id = none
  /-- Every node keeps its place and its module. -/
  keeps : ∀ before after, history = before ++ after →
    ∀ (index : Nat) (module : Module),
      (grown before).modules[index]? = some module →
      graph.modules[index]? = some module
  /-- The entry is the newest node of the id of the last entry. -/
  entry : ∀ before module after, history = before ++ .node module :: after →
    module.isEntry = true →
    (∀ other, .node other ∈ after → other.isEntry = false) →
    ∃ newest, graph.entryModule? = some newest ∧
      graph.module? module.id = some newest
  noEntry : (∀ module, .node module ∈ history → module.isEntry = false) →
    graph.entryModule? = none
  /-- A pair of nodes has one edge, that of the first dependency that joined the
  two. -/
  single : (graph.edges.map fun edge => (edge.source, edge.target)).Nodup
  drawn : ∀ edge, edge ∈ graph.edges ↔ Drawn history edge
  /-- A dependency is refused if an end of it has never been added, and then it
  changes nothing. -/
  refuses : ∀ before source target dependency after,
    history = before ++ .edge source target dependency :: after →
    let result :=
      (Addition.edge source target dependency).perform.run (grown before)
    (result.1 = .error (.source source) ↔ ¬ Added before source) ∧
    (result.1 = .error (.target target) ↔
      Added before source ∧ ¬ Added before target) ∧
    ((∃ missing, result.1 = .error missing) ↔
      ¬ Added before source ∨ ¬ Added before target) ∧
    ∀ missing, result.1 = .error missing → result.2 = grown before

theorem newest_grown {before after : List Addition} {module : Module}
    (h : ∀ other, .node other ∈ after → other.id ≠ module.id) :
    (grown (before ++ .node module :: after)).indexOf? module.id =
      some (grown before).size := by
  rw [indexOf?, modules_grown, List.filterMap_append, size, modules_grown]
  refine lastIndex_append_cons (decide_eq_true rfl) fun other hother hid => ?_
  obtain ⟨addition, haddition, hsome⟩ := List.mem_filterMap.mp hother
  cases addition with
  | node found =>
      cases hsome
      exact h other haddition (of_decide_eq_true hid)
  | edge => cases hsome

theorem prefix_modules_grown (before after : List Addition) :
    (grown before).modules <+: (grown (before ++ after)).modules := by
  rw [modules_grown, modules_grown, List.filterMap_append]
  exact List.prefix_append _ _

theorem refuses_grown (history : List Addition) (source target : String)
    (dependency : Dependency) :
    let result :=
  (Addition.edge source target dependency).perform.run (grown history)
    (result.1 = .error (.source source) ↔ ¬ Added history source) ∧
    (result.1 = .error (.target target) ↔
      Added history source ∧ ¬ Added history target) ∧
    ((∃ missing, result.1 = .error missing) ↔
      ¬ Added history source ∨ ¬ Added history target) ∧
    ∀ missing, result.1 = .error missing → result.2 = grown history := by
  dsimp only
  rw [← indexOf?_grown_eq_none, ← indexOf?_grown_eq_none,
    ← not_not (a := Added history source), ← indexOf?_grown_eq_none,
    Addition.fst_run_edge]
  refine ⟨?_, ?_, ?_, fun missing hmissing =>
    Addition.snd_run_edge (Addition.fst_run_edge .. ▸ hmissing)⟩
  all_goals
    cases (grown history).indexOf? source <;>
      cases (grown history).indexOf? target <;> simp

/-- After any additions a graph is the record of them. -/
theorem records_grown (history : List Addition) :
    (grown history).Records history where
  newest := by
    rintro before module after rfl hlast
    refine ⟨_, rfl, newest_grown hlast, ?_⟩
    rw [modules_grown, List.filterMap_append, size, modules_grown]
    exact List.getElem?_append_right (Nat.le_refl _) |>.trans
      (by rw [Nat.sub_self]; rfl)
  unknown _ hnever := indexOf?_grown_eq_none.mpr hnever
  keeps := by
    rintro before after rfl index module hmodule
    obtain ⟨rest, hrest⟩ := prefix_modules_grown before after
    rw [← hrest, List.getElem?_append_left
        (List.getElem?_eq_some_iff.mp hmodule).1, hmodule]
  entry := by
    rintro before module after rfl hisEntry hlast
    have hentry : (grown (before ++ .node module :: after)).entry =
        some module.id := by
      rw [List.append_cons, entry_grown_append hlast, grown_concat,
        Addition.entry_run, Addition.module?, Option.filter_some, hisEntry]
      rfl
    -- The entry is kept as an id, and the id may have been given to another
    -- module since.
    have hadded : ¬ (grown (before ++ .node module :: after)).indexOf?
        module.id = none := by
      rw [indexOf?_grown_eq_none, not_not]
      exact ⟨module, List.mem_append_right _ List.mem_cons_self, rfl⟩
    obtain ⟨index, hindex⟩ := Option.ne_none_iff_exists'.mp hadded
    obtain ⟨newest, hnewest, -⟩ := exists_of_indexOf? hindex
    have hmodule : (grown (before ++ .node module :: after)).module? module.id =
        some newest := by
      rw [module?, hindex, Option.bind_some, hnewest]
    exact ⟨newest, by
        rw [entryModule?, hentry, Option.bind_some, hmodule], hmodule⟩
  noEntry hnone := by
    have hentry : (grown ([] ++ history)).entry = (grown []).entry :=
      entry_grown_append hnone
    rw [entryModule?, show (grown history).entry = none from hentry]
    rfl
  single := nodup_ends_grown history
  drawn _ := mem_edges_grown
  refuses := by
    rintro before source target dependency after rfl
    exact refuses_grown before source target dependency

/-- An entry that is added again, with the same dependency before and after. -/
def again : List Addition :=
  [.node (.empty "/a.ts" true), .node (.empty "/b.ts" false),
    .edge "/a.ts" "/b.ts" ⟨"./b", 0⟩,
    .edge "/a.ts" "/b.ts" ⟨"./b.ts", 1⟩, .node (.empty "/a.ts" false),
    .edge "/a.ts" "/b.ts" ⟨"./b.ts", 1⟩]

/-- The ids have two edges, one for each node of the entry, and the second
dependency has made only the edge of the new one. The entry is the new node,
which was not added as an entry. -/
theorem records_grown_again :
    (grown again).indexOf? "/a.ts" = some 2 ∧
      (grown again).entryModule? = some (.empty "/a.ts" false) ∧
      Drawn again ⟨0, 1, ⟨"./b", 0⟩⟩ ∧ ¬ Drawn again ⟨0, 1, ⟨"./b.ts", 1⟩⟩ ∧
      Drawn again ⟨2, 1, ⟨"./b.ts", 1⟩⟩ := by
  have hrecords := records_grown again
  obtain ⟨index, hanswer, hindex, hmodule⟩ :=
    hrecords.newest (again.take 4) (.empty "/a.ts" false) (again.drop 5) rfl
      (by simp [again])
  obtain ⟨newest, hentry, hnewest⟩ :=
    hrecords.entry [] (.empty "/a.ts" true) (again.drop 1) rfl rfl
      (by simp [again, Module.empty])
  obtain rfl : 2 = index := Option.some.inj (Except.ok.inj hanswer)
  have hsame : (grown again).module? "/a.ts" = some (.empty "/a.ts" false) := by
    rw [module?, show (grown again).indexOf? "/a.ts" = some 2 from hindex,
      Option.bind_some, hmodule]
  refine ⟨hindex, hentry.trans (hnewest.symm.trans hsame), ?_, ?_, ?_⟩
  · exact (hrecords.drawn _).mp (by decide)
  · exact fun h => absurd ((hrecords.drawn _).mpr h) (by decide)
  · exact (hrecords.drawn _).mp (by decide)

end Prune.Graph
