import Prune.Proofs.Additions
import Prune.Proofs.Numbering
import Prune.Proofs.Program

/-!
# Dependencies and clauses

A module may name another in several clauses, in an import and in a list of
names that it passes on, say. All clauses of all modules are added in one pass,
and of those that join the same two modules the graph keeps the first. So what
the graph tells of a module are its `leadingClauses`: for every module that it
names, itself included, the first clause that names it, in the order of the
clauses.

A graph does not store that order. It is got back by sorting the edges of a node
by the places of their clauses. These are the places among all clauses, dropped
ones included, and no two clauses of a module have the same, so there is one way
to sort them. Clauses of other modules may have the same places; but they make
edges of other nodes, because no two modules of a build have one id.
-/

namespace Prune

open Script

/-! ## The clauses of a file -/

/-- The specifier of a clause that takes names from a module, or passes them
on. -/
def Script.Stmt.specifier? : Stmt → Option String
  | .importNames _ _ source _ => some source
  | .exportNames _ _ source _ => source
  | _ => none

/-- The specifiers of a file, clause by clause. -/
def Script.SourceFile.specifiers (file : SourceFile) : List String :=
  file.items.filterMap fun item => item.stmt.specifier?

namespace Dissection

variable {subject : Subject} {dissection next : Dissection}

theorem imports_declare {lo exportLo hi : Nat} {name : String} {exported : Bool}
    {uses : List String}
    (h : dissection.declare subject lo exportLo hi name exported uses =
      .ok next) :
    next.module.imports = dissection.module.imports := by
  obtain ⟨-, -, -, rfl⟩ := declare_ok h
  rfl

theorem imports_addDeclaration {item : TopItem} {declaration : Stmt}
    {exported : Bool}
    (h : dissection.addDeclaration subject item declaration exported =
      .ok next) :
    next.module.imports = dissection.module.imports := by
  rw [addDeclaration] at h
  obtain ⟨_, -, h⟩ := bind_ok h
  exact imports_declare h

theorem imports_addImported {target : String} {specifier : ImportSpecifier}
    (h : dissection.addImported subject target specifier = .ok next) :
    next.module.imports = dissection.module.imports := by
  obtain ⟨localName, imported, -, -, -, rfl⟩ := addImported_ok h
  rfl

theorem imports_addPassedOn {span : Span} {target : String}
    {specifier : ExportSpecifier}
    (h : dissection.addPassedOn subject span target specifier = .ok next) :
    next.module.imports = dissection.module.imports := by
  obtain ⟨inner, exported, name, -, -, -, -, rfl⟩ := addPassedOn_ok h
  rfl

theorem imports_addListed {span : Span} {specifier : ExportSpecifier}
    (h : dissection.addListed subject span specifier = .ok next) :
    next.module.imports = dissection.module.imports := by
  obtain ⟨inner, exported, -, -, rfl⟩ := addListed_ok h
  rfl

/-- An item adds its clause, and nothing else adds one. -/
theorem imports_addItem {item : TopItem}
    (h : dissection.addItem subject item = .ok next) :
    next.module.imports.map Import.specifier =
      dissection.module.imports.map Import.specifier ++
        item.stmt.specifier?.toList := by
  have hnone : item.stmt.specifier? = none →
      next.module.imports = dissection.module.imports →
      next.module.imports.map Import.specifier =
        dissection.module.imports.map Import.specifier ++
          item.stmt.specifier?.toList := by
    intro hspecifier himports
    rw [himports, hspecifier, Option.toList_none, List.append_nil]
  obtain ⟨span, decoratorsFrom, stmt⟩ := item
  rw [addItem] at h
  dsimp only at h hnone ⊢
  cases stmt with
  | importNames place specifiers source attributes =>
      dsimp only at h
      split at h
      · cases h
      · obtain ⟨target, -, h⟩ := bind_ok h
        obtain ⟨last, hlast, h⟩ := bind_ok h
        cases h
        rw [noteImport, List.map_append,
          foldlM_same (fun d : Dissection => d.module.imports) hlast
          imports_addImported]
        rfl
  | exportNames place specifiers source attributes =>
      cases source with
      | some source =>
          obtain ⟨target, -, h⟩ := bind_ok h
          obtain ⟨last, hlast, h⟩ := bind_ok h
          cases h
          rw [noteImport, List.map_append,
            foldlM_same (fun d : Dissection => d.module.imports) hlast
            imports_addPassedOn]
          rfl
      | none =>
          exact hnone rfl
            (foldlM_same (fun d : Dissection => d.module.imports) h
              imports_addListed)
  | exportDecl place declaration => exact hnone rfl (imports_addDeclaration h)
  | exportDefaultDecl place value =>
      cases value <;> exact hnone rfl (imports_declare h)
  | exportDefaultInterface place declaration =>
      obtain ⟨_, -, h⟩ := bind_ok h
      exact hnone rfl (imports_declare h)
  | exportDefaultExpr place value => exact hnone rfl (imports_declare h)
  | exportAll | importEquals | exportAssignment | exportNamespace => cases h
  | function | classDecl | «variable» | «using» | interface | typeAlias | enum
  | «namespace» =>
      exact hnone rfl (imports_addDeclaration h)
  | _ =>
      cases h
      exact hnone rfl rfl

theorem imports_exportListed {state after : Module × Nat} {entry : ListedExport}
    (h : exportListed state entry = .ok after) :
    after.1.imports = state.1.imports := by
  obtain ⟨-, rfl⟩ | ⟨-, -, rfl⟩ | ⟨_, -, -, -, rfl⟩ :=
    exportListed_cases h <;> rfl

theorem imports_finish {module : Module} (h : dissection.finish = .ok module) :
    module.imports = dissection.module.imports := by
  obtain ⟨shown, inserted, hshown, hmodule⟩ := finish_cases h
  have hsame :=
    foldlM_same (fun state : Module × Nat => state.1.imports) hshown
      imports_exportListed
  obtain ⟨-, rfl⟩ | ⟨-, rfl⟩ := hmodule <;> exact hsame

end Dissection

/-- A module has the clauses of its file, in their order. -/
theorem Module.imports_ofSource {subject : Subject} {isEntry : Bool}
    {module : Module} (h : Module.ofSource subject isEntry = .ok module) :
    module.imports.map Import.specifier = subject.file.specifiers := by
  rw [ofSource] at h
  obtain ⟨dissection, hdissection, h⟩ := bind_ok h
  rw [Dissection.imports_finish h, foldlM_flatMap (fun d : Dissection =>
    d.module.imports.map Import.specifier) hdissection
      Dissection.imports_addItem]
  rw [Script.SourceFile.specifiers, List.filterMap_eq_flatMap_toList]
  rfl

/-! ## Leading clauses -/

/-- The clauses of a module that are the first to name their targets: the target
of each, with its specifier and its place among all clauses. -/
def Module.leadingClauses (module : Module) : List (String × Dependency) :=
  (module.imports.zipIdx.filter fun (clause, place) =>
    (module.imports.findIdx fun other => other.target = clause.target) =
      place).map
      fun (clause, place) => (clause.target, ⟨clause.specifier, place⟩)

theorem find?_zipIdx {α : Type} {p : α → Bool} {items : List α} {item : α}
    {place : Nat} :
    items.zipIdx.find? (fun (item, _) => p item) = some (item, place) ↔
      (item, place) ∈ items.zipIdx ∧ items.findIdx p = place := by
  rw [List.find?_eq_some_iff_getElem, List.mk_mem_zipIdx_iff_getElem?,
    List.getElem?_eq_some_iff]
  simp only [List.getElem_zipIdx, List.length_zipIdx, Nat.zero_add,
    Prod.mk.injEq]
  constructor
  · rintro ⟨hitem, place, hlt, ⟨rfl, rfl⟩, hbefore⟩
    refine ⟨⟨hlt, rfl⟩,
      (List.findIdx_eq hlt).mpr ⟨hitem, fun other hother => ?_⟩⟩
    exact Bool.not_eq_true' _ ▸ hbefore other hother
  · rintro ⟨⟨hlt, rfl⟩, hfirst⟩
    obtain ⟨hitem, hbefore⟩ := (List.findIdx_eq hlt).mp hfirst
    exact ⟨hitem, place, hlt, ⟨rfl, rfl⟩,
      fun other hother => by rw [hbefore other hother]; rfl⟩

/-- A leading clause is the first of the dependencies that lead where it
does. -/
theorem Module.mem_leadingClauses {module : Module}
    {entry : String × Dependency} :
    entry ∈ module.leadingClauses ↔
      (Build.edgesOf module).find? (fun link => link.2.1 = entry.1) =
        some (module.id, entry) := by
  obtain ⟨target, specifier, place⟩ := entry
  rw [leadingClauses, Build.edgesOf, List.find?_map, Option.map_eq_some_iff,
    List.mem_map]
  constructor
  · rintro ⟨⟨clause, place⟩, hclause, hentry⟩
    cases hentry
    obtain ⟨hmem, hplace⟩ := List.mem_filter.mp hclause
    exact ⟨_, find?_zipIdx.mpr ⟨hmem, of_decide_eq_true hplace⟩, rfl⟩
  · rintro ⟨⟨clause, place⟩, hclause, hentry⟩
    cases hentry
    obtain ⟨hmem, hplace⟩ :=
      (find?_zipIdx
        (p := fun other : Import => other.target = clause.target)).mp hclause
    exact ⟨_, List.mem_filter.mpr ⟨hmem, decide_eq_true hplace⟩, rfl⟩

theorem Module.pairwise_leadingClauses (module : Module) :
    module.leadingClauses.Pairwise fun one other =>
      one.2.order < other.2.order := by
  have hplaces : (module.imports.zipIdx.map Prod.snd).Pairwise (· < ·) := by
    rw [List.zipIdx_map_snd]
    exact List.pairwise_lt_range' 1
  rw [List.pairwise_map] at hplaces
  exact List.pairwise_map.mpr (hplaces.filter _)

/-! ## Dependencies that are added in one pass -/

namespace Graph

def Addition.ofLink (link : Link) : Addition := .edge link.1 link.2.1 link.2.2

variable {modules : List Module} {links : List Link} {graph : Graph}

theorem foldl_perform_of_ok {first : Graph}
    (h : links.foldlM
      (fun graph link => graph.addDependency link.1 link.2.1 link.2.2) first =
        .ok graph) :
    (links.map Addition.ofLink).foldl
      (fun graph addition => (addition.perform.run graph).2) first = graph := by
  induction links generalizing first with
  | nil =>
      cases h
      rfl
  | cons link links ih =>
      rw [List.foldlM_cons] at h
      obtain ⟨next, hnext, h⟩ := bind_ok h
      rw [List.map_cons, List.foldl_cons, Addition.ofLink, Addition.run_edge,
        hnext]
      exact ih h

/-- A graph that could be assembled has been grown by the same additions. -/
theorem grown_of_assemble (h : assemble modules links = .ok graph) :
    grown (modules.map .node ++ links.map .ofLink) = graph := by
  have hmodules : (modules.map Addition.node).foldl
      (fun graph addition => (addition.perform.run graph).2) empty =
        modules.foldl addModule empty := List.foldl_map
  rw [grown, List.foldl_append, hmodules]
  exact foldl_perform_of_ok h

theorem modules_grown_links (modules : List Module) (links : List Link) :
    (grown (modules.map .node ++ links.map .ofLink)).modules = modules := by
  have hlinks : (links.map Addition.ofLink).filterMap
      Addition.module? = [] := by
    rw [List.filterMap_map]
    exact List.filterMap_eq_nil_iff.mpr fun _ _ => rfl
  rw [modules_grown, List.filterMap_append, hlinks, List.append_nil,
    List.filterMap_map]
  exact List.filterMap_some

theorem modules_of_assemble (h : assemble modules links = .ok graph) :
    graph.modules = modules := by
  rw [← grown_of_assemble h, modules_grown_links]

/-- Nothing but a dependency draws an edge, so what draws one has all modules
before it. -/
theorem exists_split_additions {P : List Addition → Addition → Prop}
    (hP : ∀ before module, ¬ P before (.node module)) :
    (∃ before addition after,
        modules.map .node ++ links.map .ofLink = before ++ addition :: after ∧
        P before addition) ↔
      ∃ before link after, links = before ++ link :: after ∧
        P (modules.map .node ++ before.map .ofLink) (.ofLink link) := by
  induction links using List.reverseRecOn with
  | nil =>
      constructor
      · rintro ⟨before, addition, after, hsplit, h⟩
        have hmem : addition ∈ modules.map Addition.node := by
          rw [List.map_nil, List.append_nil] at hsplit
          rw [hsplit]
          exact List.mem_append_right _ List.mem_cons_self
        obtain ⟨module, -, rfl⟩ := List.mem_map.mp hmem
        exact absurd h (hP before module)
      · rintro ⟨before, link, after, hsplit, -⟩
        exact absurd hsplit.symm
          (List.append_ne_nil_of_right_ne_nil _ (List.cons_ne_nil _ _))
  | append_singleton links link ih =>
      rw [List.map_append, List.map_singleton, ← List.append_assoc,
        exists_split_concat, ih]
      exact (exists_split_concat (P := fun before link =>
        P (modules.map .node ++ before.map .ofLink) (.ofLink link))).symm

theorem draws_ofLink (h : graph.modules = modules) (before : List Link)
    {link : Link} {edge : Edge} :
    (Addition.ofLink link).Draws
      (grown (modules.map .node ++ before.map .ofLink)) edge ↔
      graph.Draws link edge := by
  have hindex : (grown (modules.map .node ++ before.map .ofLink)).indexOf? =
      graph.indexOf? := by
    funext id
    rw [indexOf?, indexOf?, h, modules_grown_links]
  rw [Draws, Addition.Draws, hindex]
  constructor
  · rintro ⟨_, _, hsame, hsource, htarget⟩
    obtain ⟨rfl, rfl, hdependency⟩ := Addition.edge.inj hsame
    exact ⟨hsource, htarget, hdependency.symm⟩
  · rintro ⟨hsource, htarget, hdependency⟩
    exact ⟨_, _, by rw [hdependency]; rfl, hsource, htarget⟩

theorem joined_links (h : graph.modules = modules) {edge : Edge} :
    Joined (modules.map .node ++ links.map .ofLink) edge ↔ ∃ link ∈ links,
      graph.indexOf? link.1 = some edge.source ∧
      graph.indexOf? link.2.1 = some edge.target := by
  rw [Joined, exists_split_additions (P := fun before addition =>
    ∃ dependency, addition.Draws (grown before) { edge with dependency })
    fun _ _ ⟨_, _, _, hsame, _⟩ => nomatch hsame]
  constructor
  · rintro ⟨before, link, after, rfl, dependency, hdraws⟩
    obtain ⟨hsource, htarget, -⟩ := (draws_ofLink h before).mp hdraws
    exact ⟨link, List.mem_append_right _ List.mem_cons_self, hsource, htarget⟩
  · rintro ⟨link, hlink, hsource, htarget⟩
    obtain ⟨before, after, rfl⟩ := List.append_of_mem hlink
    exact ⟨before, link, after, rfl, link.2.2,
      (draws_ofLink h before).mpr ⟨hsource, htarget, rfl⟩⟩

/-- Of the dependencies that join the same two modules the first has made the
edge. -/
theorem mem_edges_assemble (h : assemble modules links = .ok graph)
    {edge : Edge} :
    edge ∈ graph.edges ↔ ∃ link, graph.Draws link edge ∧
      links.find? (fun other => other.1 = link.1 && other.2.1 = link.2.1) =
        some link := by
  have hmodules := modules_of_assemble h
  rw [← grown_of_assemble h, mem_edges_grown, grown_of_assemble h, Drawn,
    exists_split_additions (P := fun before addition =>
      ¬ Joined before edge ∧ addition.Draws (grown before) edge)
      fun _ _ ⟨_, _, _, hsame, _⟩ => nomatch hsame]
  simp only [joined_links hmodules, draws_ofLink hmodules,
    List.find?_eq_some_iff_append]
  constructor
  · rintro ⟨before, link, after, rfl, hfirst, hdraws⟩
    refine ⟨link, hdraws, by simp, before, after, rfl, fun other hother => ?_⟩
    rw [Bool.not_eq_true', Bool.eq_false_iff]
    intro hsame
    rw [Bool.and_eq_true, decide_eq_true_eq, decide_eq_true_eq] at hsame
    exact hfirst ⟨other, hother, hsame.1 ▸ hdraws.1, hsame.2 ▸ hdraws.2.1⟩
  · rintro ⟨link, hdraws, -, before, after, rfl, hfirst⟩
    refine ⟨before, link, after, rfl, ?_, hdraws⟩
    -- A node is meant by one id, so whatever joined the two nodes before joined
    -- the same ids.
    rintro ⟨other, hother, hsource, htarget⟩
    have hother := hfirst other hother
    rw [id_eq_of_indexOf? hsource hdraws.1,
      id_eq_of_indexOf? htarget hdraws.2.1] at hother
    simp at hother

/-- No dependency of a graph that could be assembled lacks an end. -/
theorem exists_draws_of_assemble (h : assemble modules links = .ok graph) :
    ∀ link ∈ links, ∃ edge, graph.Draws link edge := by
  rw [assemble] at h
  refine foldlM_forall
    (P := fun link (graph : Graph) => ∃ edge, graph.Draws link edge) h ?_ ?_
  · intro graph link next hstep
    obtain ⟨⟨source, target, hsource, htarget, -⟩, -⟩ :=
      Build.dependsOn_addDependency hstep
    exact ⟨⟨source, target, link.2.2⟩, hsource, htarget, rfl⟩
  · rintro graph link next hstep other ⟨edge, hdraws⟩
    have hindex : next.indexOf? = graph.indexOf? := by
      funext id
      rw [indexOf?, indexOf?, (addDependency_ok hstep).1]
    exact ⟨edge, by rwa [Draws, hindex]⟩

theorem mem_dependencies_assemble (h : assemble modules links = .ok graph)
    {id : String} {index : Nat} (hindex : graph.indexOf? id = some index)
    {entry : String × Dependency} :
    entry ∈ graph.dependencies id ↔
      links.find? (fun link => link.1 = id && link.2.1 = entry.1) =
        some (id, entry) := by
  rw [dependencies, hindex]
  dsimp only
  rw [List.mem_filterMap]
  constructor
  · rintro ⟨edge, hedge, hentry⟩
    obtain ⟨module, hmodule, rfl⟩ := Option.map_eq_some_iff.mp hentry
    obtain ⟨hmem, rfl⟩ := mem_edgesFrom.mp hedge
    obtain ⟨link, ⟨hsource, htarget, hdependency⟩, hfirst⟩ :=
      (mem_edges_assemble h).mp hmem
    obtain ⟨found, hfound, hname⟩ := exists_of_indexOf? htarget
    rw [hmodule, Option.some_inj] at hfound
    subst hfound
    obtain rfl := id_eq_of_indexOf? hsource hindex
    dsimp only
    rw [hname, hfirst, hdependency]
  · intro hfirst
    obtain ⟨edge, hdraws⟩ :=
      exists_draws_of_assemble h _ (List.mem_of_find?_eq_some hfirst)
    have hmem := (mem_edges_assemble h).mpr ⟨_, hdraws, hfirst⟩
    obtain ⟨hsource, htarget, hdependency⟩ := hdraws
    obtain ⟨module, hmodule, hname⟩ := exists_of_indexOf? htarget
    rw [hindex, Option.some_inj] at hsource
    refine ⟨edge, mem_edgesFrom.mpr ⟨hmem, hsource.symm⟩, ?_⟩
    rw [hmodule, Option.map_some, hname, hdependency]

/-- An edge ends at a node that its id still means. -/
theorem indexOf?_target (h : assemble modules links = .ok graph) {edge : Edge}
    (hedge : edge ∈ graph.edges) {module : Module}
    (hmodule : graph.modules[edge.target]? = some module) :
    graph.indexOf? module.id = some edge.target := by
  obtain ⟨link, ⟨-, htarget, -⟩, -⟩ := (mem_edges_assemble h).mp hedge
  obtain ⟨found, hfound, hname⟩ := exists_of_indexOf? htarget
  rw [hmodule, Option.some_inj] at hfound
  rw [hfound, hname, htarget]

/-- No module is depended on twice, for no two edges have the same ends. -/
theorem nodup_dependencies_assemble (h : assemble modules links = .ok graph)
    (id : String) :
    ((graph.dependencies id).map Prod.fst).Nodup := by
  rw [dependencies]
  cases hindex : graph.indexOf? id with
  | none => exact List.nodup_nil
  | some index =>
      have hends :
          ((graph.edgesFrom index).map fun edge =>
            (edge.source, edge.target)).Nodup := by
        rw [edgesFrom, ((List.mergeSort_perm _ _).map _).nodup_iff]
        have hall := nodup_ends_grown (modules.map .node ++ links.map .ofLink)
        rw [grown_of_assemble h] at hall
        exact hall.sublist (List.filter_sublist.map _)
      rw [List.Nodup, List.pairwise_map] at hends
      rw [List.Nodup, List.pairwise_map, List.pairwise_filterMap]
      refine hends.imp_of_mem
        fun {edge other} hedge hother hne one hone last hlast hsame => hne ?_
      obtain ⟨module, hmodule, rfl⟩ := Option.map_eq_some_iff.mp hone
      obtain ⟨found, hfound, rfl⟩ := Option.map_eq_some_iff.mp hlast
      obtain ⟨hedge, hsource⟩ := mem_edgesFrom.mp hedge
      obtain ⟨hother, hotherSource⟩ := mem_edgesFrom.mp hother
      have htarget : some edge.target = some other.target := by
        rw [← indexOf?_target h hedge hmodule,
          ← indexOf?_target h hother hfound]
        exact congrArg graph.indexOf? hsame
      exact Prod.ext (hsource.trans hotherSource.symm)
        (Option.some_inj.mp htarget)

end Graph

namespace Build

open Prune.Graph

/-- A module of an id of its own has the dependencies that come with this id. -/
theorem filter_edgesOf {modules : List Module}
    (hids : (modules.map Module.id).Nodup) {module : Module}
    (hmodule : module ∈ modules) :
    (modules.flatMap edgesOf).filter (fun link => link.1 = module.id) =
      edgesOf module := by
  induction modules with
  | nil => cases hmodule
  | cons first rest ih =>
      obtain ⟨hfirst, hrest⟩ := List.nodup_cons.mp hids
      rw [List.flatMap_cons, List.filter_append]
      rcases List.mem_cons.mp hmodule with rfl | hmem
      · have hnone : (rest.flatMap edgesOf).filter
            (fun link => link.1 = module.id) = [] := by
          refine List.filter_eq_nil_iff.mpr fun link hlink hsame => hfirst ?_
          obtain ⟨other, hother, hlink⟩ := List.mem_flatMap.mp hlink
          rw [← of_decide_eq_true hsame, (mem_edgesOf hlink).1]
          exact List.mem_map_of_mem hother
        rw [hnone, List.append_nil]
        exact List.filter_eq_self.mpr fun link hlink =>
          decide_eq_true (mem_edgesOf hlink).1
      · have hnone :
            (edgesOf first).filter (fun link => link.1 = module.id) = [] := by
          refine List.filter_eq_nil_iff.mpr fun link hlink hsame => hfirst ?_
          rw [← (mem_edgesOf hlink).1, of_decide_eq_true hsame]
          exact List.mem_map_of_mem hmem
        rw [hnone, List.nil_append, ih hrest hmem]

/-- Where modules have different ids, each depends on what its leading clauses
name, in their order. -/
theorem dependencies_graphOf {modules : List Module} {graph : Graph}
    (h : graphOf modules = .ok graph) (hids : (modules.map Module.id).Nodup)
    {module : Module} (hmodule : module ∈ modules) :
    graph.dependencies module.id = module.leadingClauses := by
  rw [graphOf_eq_assemble] at h
  have hsorted :=
    (List.mergeSort_perm modules fun a b => decide (a.id ≤ b.id)).symm
  have hlinks :=
    filter_edgesOf ((hsorted.map Module.id).nodup_iff.mp hids)
      (hsorted.mem_iff.mp hmodule)
  obtain ⟨index, hindex⟩ : ∃ index, graph.indexOf? module.id = some index := by
    refine exists_indexOf ?_
    rw [modules_of_assemble h]
    exact List.mem_map_of_mem (hsorted.mem_iff.mp hmodule)
  have hmem : ∀ entry, entry ∈ graph.dependencies module.id ↔
      entry ∈ module.leadingClauses := by
    intro entry
    -- Of the whole pass only the clauses of the module itself carry its id.
    rw [mem_dependencies_assemble h hindex, Module.mem_leadingClauses, ← hlinks,
      List.find?_filter]
    simp only [decide_eq_true_eq, Bool.decide_and]
  have hclauses := module.pairwise_leadingClauses
  have horders : (module.leadingClauses.map fun entry => entry.2.order).Nodup :=
    List.pairwise_map.mpr (hclauses.imp Nat.ne_of_lt)
  have hperm : (graph.dependencies module.id).Perm module.leadingClauses :=
    (List.perm_ext_iff_of_nodup (nodup_dependencies_assemble h module.id).of_map
      horders.of_map).mpr hmem
  -- Both lists are sorted by the places of clauses, and no place comes twice.
  refine hperm.eq_of_pairwise (fun one other hone hother hle hge => ?_)
    (pairwise_dependencies graph module.id) (hclauses.imp Nat.le_of_lt)
  exact List.inj_on_of_nodup_map horders ((hmem one).mp hone) hother
    (Nat.le_antisymm hle hge)

end Build

/-! ## The dependencies of a program -/

namespace Graph

/-- The dependencies of every module that has been built, whatever loads its
files and in whatever order their results come: for each module that the clauses
of its file name, the first clause that names it, in the order of the
clauses. -/
theorem dependencies_of_program {config : Config} {load : Loader}
    {entry : String} {x : Exchange} {graph : Graph} {module : Module}
    (hreached : Exchange.Reached config load (Path.normalize entry) x)
    (hbuild : x.build.finish = .ok graph) (hmodule : module ∈ graph.modules) :
    graph.dependencies module.id = module.leadingClauses ∧
      ((graph.dependencies module.id).map Prod.fst).Nodup ∧
      ∃ content file, load module.id = .ok content ∧
        Script.SourceFile.read
          ⟨Path.extension module.id = some "tsx", config.decorators⟩
          content.toList = .ok file ∧
        module.imports.map Import.specifier = file.specifiers ∧
        ∀ clause ∈ module.imports,
          Specifier.resolve config module.id clause.specifier =
            .ok clause.target := by
  obtain ⟨-, hgraph⟩ := Build.graphOf_of_finish hbuild
  have hclean := Path.normalize_normalize entry
  have hperm := Build.perm_modules_graphOf hgraph
  have hids :=
    (hperm.map Module.id).nodup_iff.mp (hreached.nodup_ids hgraph hclean)
  refine ⟨Build.dependencies_graphOf hgraph hids
      (hperm.mem_iff.mp hmodule), ?_, ?_⟩
  · rw [Build.graphOf_eq_assemble] at hgraph
    exact nodup_dependencies_assemble hgraph module.id
  · obtain ⟨message, hmessage, hcompiled⟩ :=
      hreached.sound.compiled_of_mem_modules hgraph hmodule
    have hid := hreached.id_of_compiled hgraph hclean hmessage hcompiled
    obtain ⟨content, hload, hmade⟩ := Build.ofText_of_compiledAt hcompiled
    rw [← (Build.dissected_of_compiledAt hcompiled).id] at hmade
    obtain ⟨file, hread, hsource⟩ := Module.exists_file_of_ofText hmade
    rw [← hid] at hload
    exact ⟨content, file, hload, hread, Module.imports_ofSource hsource,
      (Module.dissected_ofText hmade).resolved⟩

/-- An entry that names another module twice, and itself. -/
def spelledSources : Sources :=
  .ofList
    [("/a.ts",
      "import{f}from'./b';export{g}from'./b.ts';import{x as y}from'./a'"),
    ("/b.ts", "import{f}from'./a'")]

/-- The modules of these files. -/
def spelledModules : List Module :=
  [{ Module.empty "/a.ts" true with
      imports := [⟨"./b", "/b.ts"⟩, ⟨"./b.ts", "/b.ts"⟩, ⟨"./a", "/a.ts"⟩]
      importTable :=
        .ofList [("f", ⟨"f", "f", "/b.ts"⟩), ("y", ⟨"y", "x", "/a.ts"⟩)]
      reExports := .ofList [("g", ⟨"g", "g", "/b.ts"⟩)]
      items := [.reExport "g"] },
    { Module.empty "/b.ts" false with
      imports := [⟨"./a", "/a.ts"⟩]
      importTable := .ofList [("f", ⟨"f", "f", "/a.ts"⟩)] }]

theorem build_spelled :
    let build :=
  Build.ofSources .default spelledSources (Path.normalize "/a.ts") 0
    build.errors.isEmpty = true ∧ build.modules.reverse = spelledModules := by
  decide +kernel

theorem modules_spelled :
    ((Build.graphOf spelledModules).toOption.map fun graph => graph.modules) =
      some spelledModules := by
  cbv

/-- The second clause is dropped, and the third keeps its place. -/
theorem dependencies_of_program_spelled :
    ∃ x graph, Exchange.Reached .default spelledSources.load
      (Path.normalize "/a.ts") x ∧
      x.build.finish = .ok graph ∧ graph.modules = spelledModules ∧
      graph.dependencies
        "/a.ts" = [("/b.ts", ⟨"./b", 0⟩), ("/a.ts", ⟨"./a", 2⟩)] ∧
      graph.dependencies "/b.ts" = [("/a.ts", ⟨"./a", 0⟩)] := by
  obtain ⟨herrors, hbuilt⟩ := build_spelled
  obtain ⟨graph, hgraph, hmodules⟩ := Option.map_eq_some_iff.mp modules_spelled
  have hfinish :
      (Build.ofSources .default spelledSources (Path.normalize "/a.ts")
        0).finish =
      .ok graph := by
    rw [Build.finish, if_pos herrors, hbuilt, ok_of_toOption hgraph]
    rfl
  obtain ⟨x, hreached, -, hbuild⟩ :=
    Exchange.exists_over_of_finish (Path.normalize_normalize "/a.ts") hfinish
  have hclauses : ∀ module ∈ spelledModules,
      graph.dependencies module.id = module.leadingClauses :=
        fun module hmodule =>
    (dependencies_of_program hreached hbuild (hmodules ▸ hmodule)).1
  refine ⟨x, graph, hreached, hbuild, hmodules, ?_, ?_⟩
  · exact (hclauses _ List.mem_cons_self).trans (by decide)
  · exact (hclauses _ (List.mem_cons_of_mem _ List.mem_cons_self)).trans
      (by decide)

end Graph

end Prune
