import Prune.Link
import Prune.Proofs.Outcome
import Prune.Proofs.Table

/-!
# What linking changes

Linking writes one target into every reference and leaves the rest of the graph
alone. `mapReferences` is such a change: every reference of a graph is replaced
by what a function makes of it, in its place, and no name, text, flag, table or
edge is touched. Handing out the targets of a module as one list, declaration by
declaration and statement by statement, comes to the same as long as the list
was found reference by reference (`Module.assign_map`); so a linked graph is the
graph it came from with every reference `aim`ed at what its name means there
(`LinksTo`).

`unlinked`, which forgets all targets, is a change of the same kind, and what
one change made another overwrites. That is why a graph and what it is linked to
are one graph without their targets (`LinksTo.unlinked`).
-/

namespace Prune

/-! ## Changing references -/

def Declaration.mapReferences (f : Reference → Reference)
    (declaration : Declaration) : Declaration :=
  { declaration with references := declaration.references.map f }

def Statement.mapReferences (f : Reference → Reference)
    (statement : Statement) : Statement :=
  { statement with references := statement.references.map f }

/-- The module with other references in the places of its own, and nothing else
changed. -/
def Module.mapReferences (f : Reference → Reference) (module : Module) :
    Module :=
  { module with
    declarations :=
      module.declarations.map fun _ declaration => declaration.mapReferences f
    statements := module.statements.map (Statement.mapReferences f) }

/-- The graph with other references in the places of its own, and nothing else
changed. -/
def Graph.mapReferences (f : Nat → Reference → Reference) (graph : Graph) :
    Graph :=
  { graph with
    modules :=
      graph.modules.mapIdx fun index module => module.mapReferences (f index) }

theorem Module.references_mapReferences (f : Reference → Reference)
    (module : Module) :
    (module.mapReferences f).references = module.references.map f := by
  rw [references, references, mapReferences, Table.values_map, List.map_append]
  simp only [List.flatMap_map, List.map_flatMap]
  rfl

theorem Module.mapReferences_mapReferences (f g : Reference → Reference)
    (module : Module) :
    (module.mapReferences f).mapReferences g =
      module.mapReferences (g ∘ f) := by
  simp only [mapReferences, Table.map_map, List.map_map]
  congr 2
  · funext _ declaration
    simp only [Declaration.mapReferences, List.map_map]
  · funext statement
    simp only [Function.comp_apply, Statement.mapReferences, List.map_map]

/-- Only what becomes of the references of the module matters. -/
theorem Module.mapReferences_congr {f g : Reference → Reference}
    {module : Module}
    (h : ∀ reference ∈ module.references, f reference = g reference) :
    module.mapReferences f = module.mapReferences g := by
  have hdeclarations : ∀ declaration ∈ module.declarations.values,
      declaration.mapReferences f = declaration.mapReferences g := by
    intro declaration hdeclaration
    have hreferences :
        declaration.references.map f = declaration.references.map g :=
      List.map_congr_left fun reference hreference =>
        h reference
          (List.mem_append_left
            _ (List.mem_flatMap.mpr ⟨_, hdeclaration, hreference⟩))
    rw [Declaration.mapReferences, Declaration.mapReferences, hreferences]
  have hstatements : ∀ statement ∈ module.statements,
      statement.mapReferences f = statement.mapReferences g := by
    intro statement hstatement
    have hreferences :
        statement.references.map f = statement.references.map g :=
      List.map_congr_left fun reference hreference =>
        h reference
          (List.mem_append_right
            _ (List.mem_flatMap.mpr ⟨_, hstatement, hreference⟩))
    rw [Statement.mapReferences, Statement.mapReferences, hreferences]
  have htable : module.declarations.map
      (fun _ declaration => declaration.mapReferences f) =
      module.declarations.map fun _ declaration =>
        declaration.mapReferences g := by
    refine Table.eq_of_keys_of_values ?_ ?_
    · rw [Table.keys_map, Table.keys_map]
    · rw [Table.values_map, Table.values_map]
      exact List.map_congr_left hdeclarations
  rw [mapReferences, mapReferences, htable, List.map_congr_left hstatements]

namespace Graph

theorem eq_of_parts {one other : Graph} (hmodules : one.modules = other.modules)
    (hedges : one.edges = other.edges) (hentry : one.entry = other.entry) :
    one = other := by
  cases one
  cases other
  cases hmodules
  cases hedges
  cases hentry
  rfl

theorem modules_mapReferences (f : Nat → Reference → Reference) (graph : Graph)
    (index : Nat) :
    (graph.mapReferences f).modules[index]? =
      (graph.modules[index]?).map (Module.mapReferences (f index)) := by
  rw [mapReferences, List.getElem?_mapIdx]

theorem mapReferences_mapReferences (f g : Nat → Reference → Reference)
    (graph : Graph) :
    (graph.mapReferences f).mapReferences g =
      graph.mapReferences fun index => g index ∘ f index := by
  simp only [mapReferences, List.mapIdx_mapIdx, Function.comp_def,
    Module.mapReferences_mapReferences]

end Graph

/-! ## Handing out targets -/

/-- The reference with its target. -/
def Reference.aimed (reference : Reference) (target : Target) : Reference :=
  { reference with target := some target }

section

variable (find : Reference → Target)

theorem Reference.assign_append (references : List Reference)
    (rest : List Target) :
    assign references (references.map find ++ rest) =
      (references.map fun reference => reference.aimed (find reference),
        rest) := by
  induction references with
  | nil => rfl
  | cons reference references ih =>
      rw [List.map_cons, List.cons_append, assign, ih]
      rfl

theorem Declaration.assignAll_append (declarations : List Declaration)
    (rest : List Target) :
    assignAll declarations
      ((declarations.flatMap references).map find ++ rest) =
      (declarations.map
          (mapReferences fun reference => reference.aimed (find reference)),
          rest) := by
  induction declarations with
  | nil => rfl
  | cons declaration declarations ih =>
      rw [List.flatMap_cons, List.map_append, List.append_assoc, assignAll,
        Reference.assign_append]
      simp only [ih]
      rfl

theorem Statement.assignAll_map (statements : List Statement) :
    assignAll statements ((statements.flatMap references).map find) =
      statements.map
        (mapReferences fun reference => reference.aimed (find reference)) := by
  induction statements with
  | nil => rfl
  | cons statement statements ih =>
      rw [List.flatMap_cons, List.map_append, assignAll,
        Reference.assign_append]
      simp only [ih]
      rfl

/-- Targets that were found reference by reference come to the references they
were found for. -/
theorem Module.assign_map (module : Module) :
    module.assign (module.references.map find) =
      module.mapReferences fun reference =>
        reference.aimed (find reference) := by
  rw [references, List.map_append, assign, Declaration.assignAll_append]
  simp only [Statement.assignAll_map]
  rw [Table.withValues_values_map]
  rfl

end

/-! ## Forgetting targets -/

def Reference.unlinked (reference : Reference) : Reference :=
  .named reference.name

/-- The module as it was before any target was found. -/
def Module.unlinked (module : Module) : Module :=
  module.mapReferences Reference.unlinked

def Graph.unlinked (graph : Graph) : Graph :=
  graph.mapReferences fun _ => Reference.unlinked

/-- A change that keeps the names of the references changes nothing but
targets. -/
theorem Graph.unlinked_mapReferences {f : Nat → Reference → Reference}
    {graph : Graph}
    (h : ∀ index reference, (f index reference).name = reference.name) :
    (graph.mapReferences f).unlinked = graph.unlinked := by
  have hforget : ∀ index, Reference.unlinked ∘ f index = Reference.unlinked :=
    fun index =>
      funext fun reference => congrArg Reference.named (h index reference)
  simp only [unlinked, mapReferences_mapReferences, hforget]

/-! ## Linked graphs -/

namespace Graph

theorem perm_sortedIndices (graph : Graph) :
    graph.sortedIndices.Perm (List.range graph.modules.length) := by
  have h :=
    (List.mergeSort_perm graph.modules.zipIdx fun a b => a.1.id ≤ b.1.id).map
      Prod.snd
  rwa [List.zipIdx_map_snd, ← List.range_eq_range'] at h

theorem modules_assignAt_ne (graph : Graph) {place index : Nat}
    (targets : List Target) (h : place ≠ index) :
    (graph.assignAt place targets).modules[index]? = graph.modules[index]? := by
  simp only [assignAt, List.getElem?_modify, if_neg h]
  exact Option.map_id'

theorem modules_assignAt_self (graph : Graph) (index : Nat)
    (targets : List Target) :
    (graph.assignAt index targets).modules[index]? =
      (graph.modules[index]?).map fun module => module.assign targets := by
  simp only [assignAt, List.getElem?_modify, if_pos]
  rfl

theorem modules_foldl_assignAt (assignments : List (Nat × List Target))
    (graph : Graph) {index : Nat} (h : index ∉ assignments.map Prod.fst) :
    (assignments.foldl
      (fun linked assignment => linked.assignAt assignment.1 assignment.2)
      graph).modules[index]? = graph.modules[index]? := by
  induction assignments generalizing graph with
  | nil => rfl
  | cons assignment assignments ih =>
      rw [List.map_cons, List.mem_cons, not_or] at h
      rw [List.foldl_cons, ih _ h.2, modules_assignAt_ne _ _ (Ne.symm h.1)]

/-- A node that is assigned once has the targets of that assignment. -/
theorem modules_foldl_assignAt_of_mem {assignments : List (Nat × List Target)}
    (graph : Graph) (hnodup : (assignments.map Prod.fst).Nodup) {index : Nat}
    {targets : List Target} (h : (index, targets) ∈ assignments) :
    (assignments.foldl
      (fun linked assignment => linked.assignAt assignment.1 assignment.2)
      graph).modules[index]? = (graph.modules[index]?).map fun module =>
        module.assign targets := by
  induction assignments generalizing graph with
  | nil => cases h
  | cons assignment assignments ih =>
      rw [List.map_cons, List.nodup_cons] at hnodup
      rw [List.foldl_cons]
      rcases List.mem_cons.mp h with rfl | hmem
      · rw [modules_foldl_assignAt _ _ hnodup.1, modules_assignAt_self]
      · have hne : assignment.1 ≠ index := by
          rintro rfl
          exact hnodup.1 (List.mem_map.mpr ⟨_, hmem, rfl⟩)
        rw [ih _ hnodup.2 hmem, modules_assignAt_ne _ _ hne]

theorem foldl_assignAt_rest (assignments : List (Nat × List Target))
    (graph : Graph) :
    let linked := assignments.foldl
      (fun linked assignment => linked.assignAt assignment.1 assignment.2) graph
    linked.edges = graph.edges ∧ linked.entry = graph.entry ∧
      linked.modules.length = graph.modules.length := by
  induction assignments generalizing graph with
  | nil => exact ⟨rfl, rfl, rfl⟩
  | cons assignment assignments ih =>
      obtain ⟨hedges, hentry, hlength⟩ :=
        ih (graph.assignAt assignment.1 assignment.2)
      refine ⟨hedges, hentry, ?_⟩
      rw [List.foldl_cons, hlength, assignAt, List.length_modify]

/-- The reference with the target that its name has inside the module of a node,
if it has one. -/
def aim (graph : Graph) (isGlobal : String → Bool) (index : Nat)
    (reference : Reference) :
    Reference :=
  { reference with
    target := (graph.resolveName isGlobal index reference.name).toOption }

/-- The references of a module all have targets. -/
def Resolves (graph : Graph) (isGlobal : String → Bool) (index : Nat)
    (module : Module) : Prop :=
  ∀ reference ∈ module.references, ∃ target,
    graph.resolveName isGlobal index reference.name = .ok target

section

variable {graph : Graph} {isGlobal : String → Bool} {index : Nat}
    {module : Module}
  (hmodule : graph.modules[index]? = some module)

include hmodule

theorem exists_resolveModule (h : graph.Resolves isGlobal index module) :
    ∃ targets, graph.resolveModule isGlobal index = .ok targets := by
  rw [resolveModule, hmodule]
  exact exists_mapM_ok h

theorem resolves_of_resolveModule {targets : List Target}
    (h : graph.resolveModule isGlobal index = .ok targets) :
    graph.Resolves isGlobal index module := by
  rw [resolveModule, hmodule] at h
  intro reference hreference
  obtain ⟨target, -, htarget⟩ :=
    exists_of_mem_left (forall₂_of_mapM h) hreference
  exact ⟨target, htarget⟩

theorem assign_of_resolveModule {targets : List Target}
    (h : graph.resolveModule isGlobal index = .ok targets) :
    module.assign targets =
      module.mapReferences (graph.aim isGlobal index) := by
  have hresolves := resolves_of_resolveModule hmodule h
  rw [resolveModule, hmodule] at h
  let find : Reference → Target := fun reference =>
    (graph.resolveName isGlobal index reference.name).toOption.getD .ambient
  have htargets : module.references.map find = targets := by
    have hfind :=
      (forall₂_of_mapM h).imp
        (S := fun reference target => find reference = target)
        fun reference target htarget => by
          simp only [find, htarget]
          rfl
    rwa [← List.forall₂_map_left_iff, List.forall₂_eq_eq_eq] at hfind
  rw [← htargets, Module.assign_map]
  refine Module.mapReferences_congr fun reference hreference => ?_
  obtain ⟨target, htarget⟩ := hresolves reference hreference
  simp only [Reference.aimed, aim, find, htarget]
  rfl

end

/-- What linking makes of a graph in which every reference has a target: each is
aimed at it. The targets are found in the graph as it was. -/
structure LinksTo (graph : Graph) (isGlobal : String → Bool) (linked : Graph) :
    Prop where
  resolves : ∀ index module, graph.modules[index]? = some module →
    graph.Resolves isGlobal index module
  eq : linked = graph.mapReferences (graph.aim isGlobal)

theorem linksTo_of_linkWith {graph linked : Graph} {isGlobal : String → Bool}
    (h : graph.linkWith isGlobal = .ok linked) :
    graph.LinksTo isGlobal linked := by
  rw [linkWith] at h
  obtain ⟨assignments, hmap, h⟩ := bind_ok h
  cases h
  rw [Graph.assignments] at hmap
  have hassigned : List.Forall₂ (fun index assignment => index = assignment.1 ∧
      graph.resolveModule isGlobal index = .ok assignment.2) graph.sortedIndices
      assignments := by
    refine (forall₂_of_mapM hmap).imp ?_
    intro index assignment hassignment
    obtain ⟨targets, htargets, hassignment⟩ := bind_ok hassignment
    cases hassignment
    exact ⟨rfl, htargets⟩
  have hindices : graph.sortedIndices = assignments.map Prod.fst := by
    have hfst := List.forall₂_map_right_iff.mpr (hassigned.imp fun _ _ h => h.1)
    rwa [List.forall₂_eq_eq_eq] at hfst
  have hnodup : (assignments.map Prod.fst).Nodup := by
    rw [← hindices, graph.perm_sortedIndices.nodup_iff]
    exact List.nodup_range
  have htargets : ∀ index module,
      graph.modules[index]? = some module → ∃ targets,
      (index, targets) ∈ assignments ∧
      graph.resolveModule isGlobal index = .ok targets := by
    intro index module hmodule
    obtain ⟨hlt, -⟩ := List.getElem?_eq_some_iff.mp hmodule
    have hmem : index ∈ graph.sortedIndices :=
      graph.perm_sortedIndices.mem_iff.mpr (List.mem_range.mpr hlt)
    obtain ⟨⟨_, targets⟩, hassignment, rfl, hresolved⟩ :=
      exists_of_mem_left hassigned hmem
    exact ⟨targets, hassignment, hresolved⟩
  constructor
  case resolves =>
    intro index module hmodule
    obtain ⟨targets, -, hresolved⟩ := htargets index module hmodule
    exact resolves_of_resolveModule hmodule hresolved
  case eq =>
    obtain ⟨hedges, hentry, hlength⟩ := foldl_assignAt_rest assignments graph
    have hmodules : (assignments.foldl
        (fun linked assignment => linked.assignAt assignment.1 assignment.2)
        graph).modules =
          (graph.mapReferences (graph.aim isGlobal)).modules := by
      refine List.ext_getElem? fun index => ?_
      rw [modules_mapReferences]
      cases hmodule : graph.modules[index]? with
      | none =>
          rw [List.getElem?_eq_none_iff] at hmodule
          rw [Option.map_none, List.getElem?_eq_none_iff, hlength]
          exact hmodule
      | some module =>
          obtain ⟨targets, hassignment, hresolved⟩ :=
            htargets index module hmodule
          rw [modules_foldl_assignAt_of_mem graph hnodup hassignment, hmodule,
            Option.map_some, Option.map_some,
            assign_of_resolveModule hmodule hresolved]
    exact eq_of_parts hmodules hedges hentry

/-- A graph can be linked if every reference in it has a target. -/
theorem exists_linkWith {graph : Graph} {isGlobal : String → Bool}
    (h : ∀ index module, graph.modules[index]? = some module →
      graph.Resolves isGlobal index module) :
    ∃ linked, graph.linkWith isGlobal = .ok linked := by
  have hassignments : ∀ index ∈ graph.sortedIndices,
      ∃ assignment : Nat × List Target,
      (do return (index, ← graph.resolveModule isGlobal index)) =
        Except.ok (ε := Error) assignment := by
    intro index hindex
    have hlt := List.mem_range.mp (graph.perm_sortedIndices.mem_iff.mp hindex)
    have hmodule := List.getElem?_eq_getElem hlt
    obtain ⟨targets, htargets⟩ :=
      exists_resolveModule hmodule (h index _ hmodule)
    rw [htargets]
    exact ⟨_, rfl⟩
  obtain ⟨assignments, hmap⟩ := exists_mapM_ok hassignments
  rw [linkWith, Graph.assignments, hmap]
  exact ⟨_, rfl⟩

theorem LinksTo.linkWith_eq {graph linked : Graph} {isGlobal : String → Bool}
    (h : graph.LinksTo isGlobal linked) :
    graph.linkWith isGlobal = .ok linked := by
  obtain ⟨found, hfound⟩ := exists_linkWith h.resolves
  rw [hfound, (linksTo_of_linkWith hfound).eq, h.eq]

theorem LinksTo.unlinked {graph linked : Graph} {isGlobal : String → Bool}
    (h : graph.LinksTo isGlobal linked) : linked.unlinked = graph.unlinked := by
  rw [h.eq]
  exact unlinked_mapReferences fun _ _ => rfl

/-- Every reference of a linked graph has the target that its name had
before. -/
theorem LinksTo.target {graph linked : Graph} {isGlobal : String → Bool}
    (h : graph.LinksTo isGlobal linked) {index : Nat} {module : Module}
    (hmodule : linked.modules[index]? = some module) {reference : Reference}
    (hreference : reference ∈ module.references) :
    ∃ target, reference.target = some target ∧
      graph.resolveName isGlobal index reference.name = .ok target := by
  rw [h.eq, modules_mapReferences, Option.map_eq_some_iff] at hmodule
  obtain ⟨before, hbefore, rfl⟩ := hmodule
  rw [Module.references_mapReferences] at hreference
  obtain ⟨old, hold, rfl⟩ := List.mem_map.mp hreference
  obtain ⟨target, htarget⟩ := h.resolves index before hbefore old hold
  refine ⟨target, ?_, htarget⟩
  rw [aim, htarget]
  rfl

end Graph

end Prune
