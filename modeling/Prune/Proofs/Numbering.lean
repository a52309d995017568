import Prune.Proofs.Assembly
import Prune.Proofs.Carried

/-!
# The numbers of nodes

A node of the graph is a number, and which number a module gets depends on when
it is added. So do the places of edges in their list. Neither can be seen from
outside: the same modules and the same dependencies, added in whatever order,
make graphs that give the same dependencies, are evaluated in the same order,
are linked to the same declarations or fail alike, and put out the same
(`assemble_perm`).

What a node is called from outside is its `Label`: the id of its module, and the
name that a declaration is filed under. Two graphs of the same parts hold the
same modules, so that one is carried to the other by a renumbering of the
modules alone (`Renumbered`). All that goes by order has been sorted by then, by
ids or by the orders of clauses, and no two of these are the same.
-/

namespace Prune

/-! ## Parts -/

/-- A dependency between two modules, which are named by their ids. -/
abbrev Link := String × String × Dependency

namespace Graph

/-- The graph that is made by adding modules and then dependencies, one after
the other. -/
def assemble (modules : List Module) (links : List Link) :
    Except MissingEnd Graph :=
  links.foldlM (fun graph link => graph.addDependency link.1 link.2.1 link.2.2)
    (modules.foldl addModule empty)

/-- Modules of different ids, one of which may be an entry, and dependencies
between them. -/
structure Parts (modules : List Module) (links : List Link) : Prop where
  ids : (modules.map Module.id).Nodup
  entry : ∀ one ∈ modules, ∀ other ∈ modules,
    one.isEntry = true → other.isEntry = true → one = other
  ends : ∀ link ∈ links,
    link.1 ∈ modules.map Module.id ∧ link.2.1 ∈ modules.map Module.id
  /-- A pair of modules has one dependency. -/
  pairs : (links.map fun link => (link.1, link.2.1)).Nodup
  /-- The dependencies of a module come in an order. -/
  orders : (links.map fun link => (link.1, link.2.2.order)).Nodup

end Graph

theorem Build.graphOf_eq_assemble (modules : List Module) :
    graphOf modules =
      Graph.assemble (modules.mergeSort fun a b => a.id ≤ b.id)
        ((modules.mergeSort fun a b => a.id ≤ b.id).flatMap edgesOf) := rfl

namespace Graph

theorem Parts.perm {modules others : List Module} {links rest : List Link}
    (h : Parts modules links) (hmodules : modules.Perm others)
    (hlinks : links.Perm rest) : Parts others rest where
  ids := (hmodules.map _).nodup_iff.mp h.ids
  entry one hone other hother := h.entry one (hmodules.mem_iff.mpr hone) other
    (hmodules.mem_iff.mpr hother)
  ends link hlink := by
    rw [← (hmodules.map _).mem_iff, ← (hmodules.map _).mem_iff]
    exact h.ends link (hlinks.mem_iff.mpr hlink)
  pairs := (hlinks.map _).nodup_iff.mp h.pairs
  orders := (hlinks.map _).nodup_iff.mp h.orders

/-! ## What is assembled -/

/-- An edge stands for a dependency. -/
def Draws (graph : Graph) (link : Link) (edge : Edge) : Prop :=
  graph.indexOf? link.1 = some edge.source ∧
    graph.indexOf? link.2.1 = some edge.target ∧
    edge.dependency = link.2.2

/-- An index is meant by one id. -/
theorem id_eq_of_indexOf? {graph : Graph} {id other : String} {index : Nat}
    (h : graph.indexOf? id = some index)
    (hother : graph.indexOf? other = some index) : id = other := by
  obtain ⟨module, hmodule, rfl⟩ := exists_of_indexOf? h
  obtain ⟨found, hfound, rfl⟩ := exists_of_indexOf? hother
  rw [hmodule, Option.some_inj] at hfound
  rw [hfound]

/-- Dependencies of different pairs of modules each make an edge. -/
theorem exists_foldlM_addDependency {links : List Link} {graph : Graph}
    (hends : ∀ link ∈ links, link.1 ∈ graph.modules.map Module.id ∧
      link.2.1 ∈ graph.modules.map Module.id)
    (hpairs : (links.map fun link => (link.1, link.2.1)).Nodup)
    (hnew : ∀ link ∈ links, ∀ edge ∈ graph.edges,
      ¬ (graph.indexOf? link.1 = some edge.source ∧
        graph.indexOf? link.2.1 = some edge.target)) :
    ∃ last edges, links.foldlM
      (fun graph link => graph.addDependency link.1 link.2.1 link.2.2)
        graph = .ok last ∧
      last.modules = graph.modules ∧ last.entry = graph.entry ∧
      last.edges = edges.reverse ++ graph.edges ∧
      List.Forall₂ graph.Draws links edges := by
  induction links generalizing graph with
  | nil => exact ⟨graph, [], rfl, rfl, rfl, rfl, .nil⟩
  | cons link links ih =>
      obtain ⟨hsource, htarget⟩ := hends link List.mem_cons_self
      obtain ⟨source, hsource⟩ := exists_indexOf hsource
      obtain ⟨target, htarget⟩ := exists_indexOf htarget
      have hnone : graph.hasEdge source target = false := by
        rw [hasEdge, List.any_eq_false]
        intro edge hedge hsame
        rw [Bool.and_eq_true, decide_eq_true_eq, decide_eq_true_eq] at hsame
        refine hnew link List.mem_cons_self edge hedge ⟨?_, ?_⟩
        · rw [hsource, hsame.1]
        · rw [htarget, hsame.2]
      let next : Graph :=
        { graph with edges := ⟨source, target, link.2.2⟩ :: graph.edges }
      have hstep : graph.addDependency link.1 link.2.1 link.2.2 = .ok next := by
        rw [addDependency, hsource, htarget]
        dsimp only
        rw [hnone, if_neg Bool.false_ne_true]
      have hindex : next.indexOf? = graph.indexOf? :=
        funext (indexOf?_congr rfl)
      rw [List.map_cons, List.nodup_cons] at hpairs
      have hfresh : ∀ other ∈ links, ∀ edge ∈ next.edges,
          ¬ (next.indexOf? other.1 = some edge.source ∧
            next.indexOf? other.2.1 = some edge.target) := by
        intro other hother edge hedge hsame
        rw [hindex] at hsame
        rcases List.mem_cons.mp hedge with rfl | hold
        · refine hpairs.1 (List.mem_map.mpr ⟨other, hother, ?_⟩)
          rw [id_eq_of_indexOf? hsame.1 hsource,
            id_eq_of_indexOf? hsame.2 htarget]
        · exact hnew other (List.mem_cons_of_mem _ hother) edge hold hsame
      have hrest : ∀ other ∈ links,
          other.1 ∈ next.modules.map Module.id ∧
          other.2.1 ∈ next.modules.map Module.id :=
        fun other hother => hends other (List.mem_cons_of_mem _ hother)
      obtain ⟨last, edges, hlast, hmodules, hentry, hedges, hdraws⟩ :=
        ih hrest hpairs.2 hfresh
      refine ⟨last, ⟨source, target, link.2.2⟩ :: edges, ?_, hmodules,
        hentry, ?_, ?_⟩
      · rw [List.foldlM_cons, hstep]
        exact hlast
      · rw [hedges, List.reverse_cons, List.append_assoc]
        rfl
      · refine .cons ⟨hsource, htarget, rfl⟩ (hdraws.imp fun other edge h => ?_)
        rw [Draws, hindex] at h
        exact h

/-- What the parts of a graph make. -/
structure Assembled (parts : List Module) (links : List Link) (graph : Graph) :
    Prop where
  modules : graph.modules = parts
  entry : graph.entry = parts.foldl (fun entry module =>
    if module.isEntry then some module.id else entry) none
  edges : ∃ edges,
    graph.edges = edges.reverse ∧ List.Forall₂ graph.Draws links edges

theorem Parts.exists_assembled {parts : List Module} {links : List Link}
    (h : Parts parts links) :
    ∃ graph, assemble parts links = .ok graph ∧
      Assembled parts links graph := by
  let first := parts.foldl addModule empty
  have hmodules : first.modules = parts :=
    Build.modules_foldl_addModule parts empty
  have hnone : first.edges = [] := Build.edges_foldl_addModule parts empty
  have hends : ∀ link ∈ links,
      link.1 ∈ first.modules.map Module.id ∧
      link.2.1 ∈ first.modules.map Module.id := by
    rw [hmodules]
    exact h.ends
  obtain ⟨graph, edges, hgraph, hsame, hentry, hedges, hdraws⟩ :=
    exists_foldlM_addDependency hends h.pairs fun _ _ edge hedge =>
      absurd (hnone ▸ hedge) List.not_mem_nil
  refine ⟨graph, hgraph, hsame.trans hmodules, ?_, edges, ?_, ?_⟩
  · exact hentry.trans (Build.entry_foldl_addModule parts empty)
  · rw [hedges, hnone, List.append_nil]
  · refine hdraws.imp fun link edge hlink => ?_
    have hindex : graph.indexOf? = first.indexOf? :=
      funext (indexOf?_congr (congrArg (List.map Module.face) hsame))
    rw [Draws, hindex]
    exact hlink

/-! ## Dependencies -/

/-- The edges of a node and the dependencies of its module name the same
modules. -/
theorem filterMap_of_draws {graph : Graph} {id : String} {index : Nat}
    (hindex : graph.indexOf? id = some index) {links : List Link}
    {edges : List Edge} (h : List.Forall₂ graph.Draws links edges) :
    ((edges.filter fun edge => edge.source = index).filterMap fun edge =>
        (graph.modules[edge.target]?).map fun module =>
          (module.id, edge.dependency)) =
      (links.filter fun link => link.1 = id).map Prod.snd := by
  induction h with
  | nil => rfl
  | @cons link edge links edges hdraws _ ih =>
      obtain ⟨hsource, htarget, hdependency⟩ := hdraws
      have hsame : edge.source = index ↔ link.1 = id := by
        constructor
        · rintro rfl
          exact id_eq_of_indexOf? hsource hindex
        · rintro rfl
          exact Option.some_inj.mp (hsource.symm.trans hindex)
      rw [List.filter_cons, List.filter_cons]
      simp only [decide_eq_true_eq, hsame]
      split
      · obtain ⟨module, hmodule, hid⟩ := exists_of_indexOf? htarget
        have hentry : (graph.modules[edge.target]?).map
            (fun module => (module.id, edge.dependency)) = some link.2 := by
          rw [hmodule, Option.map_some, hid, hdependency]
        rw [List.filterMap_cons, hentry, List.map_cons, ← ih]
      · exact ih

theorem Assembled.perm_dependencies {parts : List Module} {links : List Link}
    {graph : Graph} (h : Assembled parts links graph) (id : String) :
    (graph.dependencies id).Perm
      ((links.filter fun link => link.1 = id).map Prod.snd) := by
  obtain ⟨edges, hedges, hdraws⟩ := h.edges
  rw [dependencies]
  cases hindex : graph.indexOf? id with
  | none =>
      have hnone : (links.filter fun link => link.1 = id) = [] := by
        rw [List.filter_eq_nil_iff]
        intro link hlink hsame
        obtain ⟨edge, -, hsource, -⟩ := exists_of_mem_left hdraws hlink
        rw [of_decide_eq_true hsame, hindex] at hsource
        cases hsource
      rw [hnone]
      exact .nil
  | some index =>
      dsimp only
      rw [← filterMap_of_draws hindex hdraws, edgesFrom, hedges]
      refine List.Perm.filterMap _ ((List.mergeSort_perm _ _).trans ?_)
      exact (List.reverse_perm edges).filter _

theorem pairwise_dependencies (graph : Graph) (id : String) :
    (graph.dependencies id).Pairwise fun one other =>
      one.2.order ≤ other.2.order := by
  rw [dependencies]
  cases graph.indexOf? id with
  | none => exact .nil
  | some index =>
      have hsorted : (graph.edgesFrom index).Pairwise fun one other =>
          one.dependency.order ≤ other.dependency.order := by
        refine (List.pairwise_mergeSort ?_ ?_ _).imp of_decide_eq_true
        · intro a b c hab hbc
          exact decide_eq_true
            (Nat.le_trans (of_decide_eq_true hab) (of_decide_eq_true hbc))
        · intro a b
          rw [Bool.or_eq_true, decide_eq_true_iff, decide_eq_true_iff]
          exact Nat.le_total _ _
      refine List.pairwise_filterMap.mpr (hsorted.imp fun hle => ?_)
      intro one hone other hother
      obtain ⟨_, -, rfl⟩ := Option.map_eq_some_iff.mp hone
      obtain ⟨_, -, rfl⟩ := Option.map_eq_some_iff.mp hother
      exact hle

section

variable {parts others : List Module} {links rest : List Link}
    {one other : Graph}

theorem Assembled.dependencies_eq (hparts : Parts parts links)
    (hlinks : links.Perm rest) (hone : Assembled parts links one)
    (hother : Assembled others rest other) :
    other.dependencies = one.dependencies := by
  funext id
  have hdependencies := hone.perm_dependencies id
  have hsame : (other.dependencies id).Perm (one.dependencies id) := by
    refine (hother.perm_dependencies id).trans (.trans ?_ hdependencies.symm)
    exact (hlinks.symm.filter _).map _
  have hlink : ∀ entry ∈ one.dependencies id, (id, entry) ∈ links := by
    intro entry hentry
    obtain ⟨link, hmem, rfl⟩ :=
      List.mem_map.mp (hdependencies.mem_iff.mp hentry)
    obtain ⟨hlink, hid⟩ := List.mem_filter.mp hmem
    rw [← of_decide_eq_true hid]
    exact hlink
  refine List.Perm.eq_of_pairwise ?_ (pairwise_dependencies other id)
    (pairwise_dependencies one id)
    hsame
  intro a b ha hb hab hba
  have hpair :=
    List.inj_on_of_nodup_map hparts.orders (hlink a (hsame.mem_iff.mp ha))
      (hlink b hb)
      (Prod.ext rfl (Nat.le_antisymm hab hba))
  exact congrArg Prod.snd hpair

end

/-! ## Numbers -/

theorem exists_renumbering {α : Type} {items others : List α}
    (h : items.Perm others) :
    ∃ place : Nat → Nat, Function.Injective place ∧ ∀ index,
      others[place index]? = items[index]? := by
  induction h with
  | nil => exact ⟨id, Function.injective_id, fun _ => rfl⟩
  | cons item _ ih =>
      obtain ⟨place, hplace, hsame⟩ := ih
      refine ⟨fun index => index.casesOn 0 fun before => place before + 1, ?_,
        fun index => ?_⟩
      · intro one other h
        cases one <;> cases other
        · rfl
        · cases h
        · cases h
        · exact congrArg Nat.succ (hplace (Nat.succ.inj h))
      · cases index with
        | zero => rfl
        | succ before => exact hsame before
  | swap first second items =>
      refine ⟨fun index => if index = 0 then 1 else if index = 1 then 0
          else index, ?_, fun index => ?_⟩
      · intro one other h
        dsimp only at h
        split at h <;> split at h <;> grind
      · match index with
        | 0 => rfl
        | 1 => rfl
        | _ + 2 => rfl
  | trans _ _ ih ih' =>
      obtain ⟨place, hplace, hsame⟩ := ih
      obtain ⟨place', hplace', hsame'⟩ := ih'
      exact ⟨place' ∘ place, hplace'.comp hplace,
        fun index => (hsame' _).trans (hsame index)⟩

end Graph

/-- The modules go to other numbers, and nothing in them to another place. -/
def Relocation.renumbering (place : Nat → Nat)
    (hplace : Function.Injective place) : Relocation where
  module := place
  declaration _ := id
  statement _ := id
  module_injective := hplace
  declaration_injective _ := Function.injective_id
  statement_injective _ := Function.injective_id

theorem Relocation.fixes_renumbering {place : Nat → Nat}
    {hplace : Function.Injective place} (index : Nat) :
    (renumbering place hplace).Fixes index := ⟨fun _ => rfl, fun _ => rfl⟩

namespace Graph

/-- Two graphs of the same modules under different numbers, with the same
dependencies. -/
structure Renumbered (place : Nat → Nat) (one other : Graph) : Prop where
  injective : Function.Injective place
  ids : (one.modules.map Module.id).Nodup
  modules : ∀ index : Nat, other.modules[place index]? = one.modules[index]?
  perm : one.modules.Perm other.modules
  entry : other.entry = one.entry
  edges : other.edges.length = one.edges.length
  dependencies : other.dependencies = one.dependencies

theorem Assembled.renumbered {parts others : List Module}
    {links rest : List Link} {one other : Graph} (hparts : Parts parts links)
    (hmodules : parts.Perm others) (hlinks : links.Perm rest)
    (hone : Assembled parts links one) (hother : Assembled others rest other) :
    ∃ place, Renumbered place one other := by
  obtain ⟨place, hplace, hsame⟩ := exists_renumbering hmodules
  have hlength : ∀ {links : List Link} {parts : List Module} {graph : Graph},
      Assembled parts links graph → graph.edges.length = links.length := by
    intro links parts graph h
    obtain ⟨edges, hedges, hdraws⟩ := h.edges
    rw [hedges, List.length_reverse, hdraws.length_eq]
  refine ⟨place, hplace, ?_, ?_, ?_, ?_, ?_, ?_⟩
  · rw [hone.modules]
    exact hparts.ids
  · rw [hone.modules, hother.modules]
    exact hsame
  · rw [hone.modules, hother.modules]
    exact hmodules
  · -- Whichever module comes first, there is only one that is an entry.
    rw [hone.entry, hother.entry]
    refine (List.Perm.foldl_eq' hmodules (fun one hmem other hmem' entry => ?_)
      none).symm
    split
    · next hother =>
        split
        · next hone => rw [hparts.entry one hmem other hmem' hone hother]
        · rfl
    · rfl
  · rw [hlength hone, hlength hother, hlinks.length_eq]
  · exact Assembled.dependencies_eq hparts hlinks hone hother

namespace Renumbered

variable {place : Nat → Nat} {one other : Graph}

theorem carries (h : Renumbered place one other) :
    (Relocation.renumbering place h.injective).Carries False one other := by
  have hids : (other.modules.map Module.id).Nodup :=
    (h.perm.map _).nodup_iff.mp h.ids
  constructor
  case entry => exact h.entry
  case indexOf =>
    intro id
    cases hindex : one.indexOf? id with
    | some index =>
        obtain ⟨module, hmodule, rfl⟩ := exists_of_indexOf? hindex
        rw [← h.modules] at hmodule
        exact current_of_nodup hids hmodule
    | none =>
        rw [Option.map_none, Option.eq_none_iff_forall_ne_some]
        intro index hother
        obtain ⟨module, hmodule, rfl⟩ := exists_of_indexOf? hother
        have hmem := h.perm.mem_iff.mpr (List.mem_of_getElem? hmodule)
        obtain ⟨found, hfound⟩ := exists_indexOf (List.mem_map_of_mem hmem)
        rw [hindex] at hfound
        cases hfound
  case dependencies =>
    intro index
    change (other.modules[place index]?).elim [] _ =
      (one.modules[index]?).elim [] _
    rw [h.modules, h.dependencies]
  case size => exact h.perm.length_eq.symm
  case edges => exact h.edges
  case passedOn =>
    rw [reExportCount_eq, reExportCount_eq]
    exact (h.perm.map _).sum_eq.symm
  case absent =>
    intro index hnone
    exact (h.modules index).trans hnone
  case present =>
    intro index module hmodule
    exact ⟨module, (h.modules index).trans hmodule,
      .self (Relocation.fixes_renumbering index)⟩

/-! ## Linking -/

/-- The modules are linked in the order of their ids, which are the same. -/
theorem sortedIndices (h : Renumbered place one other) :
    other.sortedIndices = one.sortedIndices.map place := by
  have hbefore :
      (one.sortedIndices.map place).Pairwise other.ModulePrecedes := by
    refine List.pairwise_map.mpr
      (one.pairwise_sortedIndices.imp fun {index later} hprecedes => ?_)
    obtain ⟨first, second, hfirst, hsecond, hbefore⟩ := hprecedes
    refine ⟨first, second, (h.modules _).trans hfirst,
      (h.modules _).trans hsecond, ?_⟩
    refine Or.inl (hbefore.resolve_right fun ⟨hid, hlt⟩ => ?_)
    have hindex := current_of_nodup h.ids hfirst
    rw [hid, current_of_nodup h.ids hsecond, Option.some_inj] at hindex
    omega
  have hall : (one.sortedIndices.map place).Perm other.sortedIndices := by
    have hrange := one.perm_sortedIndices.map place
    refine (List.Subperm.perm_of_length_le
      (List.subperm_of_subset ?_ fun index hindex => ?_) ?_)
    · exact hrange.nodup_iff.mpr (List.nodup_range.map h.injective)
    · obtain ⟨before, hmem, rfl⟩ := List.mem_map.mp hindex
      have hlt := List.mem_range.mp (one.perm_sortedIndices.mem_iff.mp hmem)
      refine other.perm_sortedIndices.mem_iff.mpr (List.mem_range.mpr ?_)
      exact (List.getElem?_eq_some_iff.mp
        ((h.modules before).trans (List.getElem?_eq_getElem hlt))).1
    · rw [List.length_map, one.perm_sortedIndices.length_eq,
        other.perm_sortedIndices.length_eq, List.length_range,
        List.length_range, h.perm.length_eq]
  exact (List.Perm.eq_of_pairwise
    (fun _ _ _ _ hab hba => absurd hba hab.asymm) hbefore
    other.pairwise_sortedIndices hall).symm

theorem resolveModule (h : Renumbered place one other)
    (isGlobal : String → Bool) (index : Nat) :
    Follows False (List.map (Relocation.renumbering place h.injective).target)
      (one.resolveModule isGlobal index)
      (other.resolveModule isGlobal (place index)) := by
  rw [Graph.resolveModule, Graph.resolveModule, h.modules]
  cases hmodule : one.modules[index]? with
  | none => exact Or.inl rfl
  | some module =>
      have hreferences : Follows False
          (List.map (Relocation.renumbering place h.injective).target)
          (module.references.mapM fun reference =>
            one.resolveName isGlobal index reference.name)
          ((module.references.map id).mapM fun reference =>
            other.resolveName isGlobal (place index) reference.name) :=
        Follows.mapM fun reference hreference =>
          h.carries.resolveName_of_mem isGlobal hmodule hreference
      rw [List.map_id] at hreferences
      exact hreferences

/-- Linking fails in the same way, or not at all. -/
theorem linkWith (h : Renumbered place one other) (isGlobal : String → Bool) :
    (∀ error, one.linkWith isGlobal = .error error →
      other.linkWith isGlobal = .error error) ∧
      ∀ linked, one.linkWith isGlobal = .ok linked →
        ∃ relinked, other.linkWith isGlobal = .ok relinked := by
  let carry (assignment : Nat × List Target) : Nat × List Target :=
    (place assignment.1,
      assignment.2.map (Relocation.renumbering place h.injective).target)
  have hassignments : Follows False (List.map carry) (one.assignments isGlobal)
      (other.assignments isGlobal) := by
    rw [Graph.assignments, Graph.assignments, h.sortedIndices]
    refine Follows.mapM fun index _ => ?_
    exact (h.resolveModule isGlobal index).bind fun targets =>
      .pure (index, targets)
  rw [Graph.linkWith, Graph.linkWith, hassignments.eq_of_not not_false]
  cases one.assignments isGlobal with
  | error error =>
      refine ⟨fun other hother => ?_, fun linked hlinked => ?_⟩
      · cases hother
        rfl
      · cases hlinked
  | ok assignments =>
      refine ⟨fun error herror => ?_, fun _ _ => ⟨_, rfl⟩⟩
      cases herror

end Renumbered

end Graph

/-! ## Labels -/

/-- What a node or a target is called, apart from any graph: a declaration by
the id of its module and the name it is filed under, a statement by the id of
its module and its place there. -/
inductive Label where
  | ambient
  | declaration (id name : String)
  | statement (id : String) (place : Nat)
deriving Repr, DecidableEq

namespace Graph

def idAt? (graph : Graph) (index : Nat) : Option String :=
  (graph.modules[index]?).map Module.id

def label? (graph : Graph) : Node → Option Label
  | .declaration slot => (graph.modules[slot.module]?).bind fun module =>
      (module.declarations.keys[slot.index]?).map (.declaration module.id)
  | .statement slot => (graph.modules[slot.module]?).map fun module =>
      .statement module.id slot.index

def targetLabel? (graph : Graph) : Target → Option Label
  | .declaration slot => graph.label? (.declaration slot)
  | .ambient => some .ambient

/-- The labels of the targets that the references of the module of an id
have. -/
def targetLabels (graph : Graph) (id : String) : List (Option Label) :=
  ((graph.module? id).elim [] Module.references).map fun reference =>
    reference.target.bind graph.targetLabel?

theorem label?_mapReferences (f : Nat → Reference → Reference) (graph : Graph) :
    (graph.mapReferences f).label? = graph.label? := by
  funext node
  cases node with
  | declaration slot =>
      rw [label?, label?, modules_mapReferences]
      cases graph.modules[slot.module]? with
      | none => rfl
      | some module =>
          simp only [Option.map_some, Option.bind_some, Module.mapReferences,
            Table.keys_map]
  | statement slot =>
      rw [label?, label?, modules_mapReferences]
      cases graph.modules[slot.module]? <;> rfl

theorem isSome_label? {graph : Graph} {node : Node} (h : graph.Holds node) :
    ∃ label, graph.label? node = some label := by
  cases node with
  | declaration slot =>
      rw [Holds, declaration?, Option.isSome_bind, Option.any_eq_true] at h
      obtain ⟨module, hmodule, hat⟩ := h
      have hlt : slot.index < module.declarations.keys.length := by
        rw [Table.length_keys]
        exact Table.isSome_at?.mp hat
      rw [label?, hmodule, Option.bind_some, List.getElem?_eq_getElem hlt]
      exact ⟨_, rfl⟩
  | statement slot =>
      rw [Holds, statement?, Option.isSome_bind, Option.any_eq_true] at h
      obtain ⟨module, hmodule, -⟩ := h
      rw [label?, hmodule]
      exact ⟨_, rfl⟩

theorem exists_map_some {α β : Type} {f : α → Option β} {items : List α}
    (h : ∀ item ∈ items, ∃ value, f item = some value) :
    ∃ values : List β, items.map f = values.map some := by
  induction items with
  | nil => exact ⟨[], rfl⟩
  | cons item items ih =>
      obtain ⟨value, hvalue⟩ := h item List.mem_cons_self
      obtain ⟨values, hvalues⟩ :=
        ih fun other hother => h other (List.mem_cons_of_mem _ hother)
      exact ⟨value :: values, by
        rw [List.map_cons, List.map_cons, hvalue, hvalues]⟩

theorem exists_targetLabel {graph : Graph} {isGlobal : String → Bool}
    {index : Nat} {name : String} {target : Target}
    (h : graph.resolveName isGlobal index name = .ok target) :
    ∃ label, graph.targetLabel? target = some label := by
  cases target with
  | declaration slot =>
      obtain ⟨found, hdeclares, -⟩ := resolveName_declares h
      exact isSome_label? hdeclares.holds
  | ambient => exact ⟨.ambient, rfl⟩

theorem targetLabel?_mapReferences (f : Nat → Reference → Reference)
    (graph : Graph) :
    (graph.mapReferences f).targetLabel? = graph.targetLabel? := by
  funext target
  cases target with
  | declaration slot => rw [targetLabel?, targetLabel?, label?_mapReferences]
  | ambient => rfl

/-- In a linked graph each reference has the label of what its name means. -/
theorem LinksTo.targetLabels {graph linked : Graph} {isGlobal : String → Bool}
    (h : graph.LinksTo isGlobal linked) {id : String} {index : Nat}
    {module : Module} (hindex : graph.indexOf? id = some index)
    (hmodule : graph.modules[index]? = some module) :
    linked.targetLabels id = module.references.map fun reference =>
      (graph.resolveName isGlobal index reference.name).toOption.bind
        graph.targetLabel? := by
  have hlinked : linked.module? id =
      some (module.mapReferences (graph.aim isGlobal index)) := by
    rw [h.eq, module?, indexOf?_mapReferences, hindex, Option.bind_some,
      modules_mapReferences, hmodule, Option.map_some]
  rw [Graph.targetLabels, hlinked, Option.elim_some,
    Module.references_mapReferences, List.map_map]
  refine List.map_congr_left fun reference _ => ?_
  rw [Function.comp_apply, h.eq, targetLabel?_mapReferences]
  rfl

namespace Renumbered

variable {place : Nat → Nat} {one other : Graph}

theorem label? (h : Renumbered place one other) (node : Node) :
    other.label? ((Relocation.renumbering place h.injective).node node) =
      one.label? node := by
  cases node with
  | declaration slot =>
      exact congrArg (fun found : Option Module => found.bind fun module =>
        (module.declarations.keys[slot.index]?).map
          (Label.declaration module.id)) (h.modules slot.module)
  | statement slot =>
      exact congrArg (fun found : Option Module => found.map fun module =>
        Label.statement module.id slot.index) (h.modules slot.module)

theorem targetLabel? (h : Renumbered place one other) (target : Target) :
    other.targetLabel?
      ((Relocation.renumbering place h.injective).target target) =
      one.targetLabel? target := by
  cases target with
  | declaration slot => exact h.label? (.declaration slot)
  | ambient => rfl

theorem evaluationOrder (h : Renumbered place one other) :
    ∃ ids : List String, one.evaluationOrder.map one.idAt? = ids.map some ∧
      other.evaluationOrder.map other.idAt? = ids.map some := by
  have hids : ∀ index ∈ one.evaluationOrder, ∃ id,
      one.idAt? index = some id := by
    intro index hindex
    rw [idAt?, List.getElem?_eq_getElem (lt_of_mem_evaluationOrder hindex)]
    exact ⟨_, rfl⟩
  obtain ⟨ids, hsame⟩ := exists_map_some hids
  refine ⟨ids, hsame, ?_⟩
  rw [← hsame, h.carries.evaluationOrder, List.map_map]
  exact List.map_congr_left fun index _ =>
    congrArg (Option.map Module.id) (h.modules index)

/-- The references of every module mean the same. -/
theorem targetLabels (h : Renumbered place one other) {isGlobal : String → Bool}
    {linked relinked : Graph} (hlinks : one.LinksTo isGlobal linked)
    (hrelinks : other.LinksTo isGlobal relinked) {id : String}
    (hid : id ∈ one.modules.map Module.id) :
    ∃ labels : List Label, linked.targetLabels id = labels.map some ∧
      relinked.targetLabels id = labels.map some := by
  obtain ⟨index, hindex⟩ := exists_indexOf hid
  obtain ⟨module, hmodule, -⟩ := exists_of_indexOf? hindex
  have hother : other.indexOf? id = some (place index) := by
    rw [h.carries.indexOf, hindex]
    rfl
  have hlabels : ∀ reference ∈ module.references, ∃ label,
      (one.resolveName isGlobal index reference.name).toOption.bind
        one.targetLabel? =
        some label := by
    intro reference hreference
    obtain ⟨target, htarget⟩ :=
      hlinks.resolves index module hmodule reference hreference
    rw [htarget]
    exact exists_targetLabel htarget
  obtain ⟨labels, hsame⟩ := exists_map_some hlabels
  refine ⟨labels, (hlinks.targetLabels hindex hmodule).trans hsame, ?_⟩
  rw [hrelinks.targetLabels hother ((h.modules index).trans hmodule), ← hsame]
  refine List.map_congr_left fun reference hreference => ?_
  obtain ⟨target, htarget⟩ :=
    hlinks.resolves index module hmodule reference hreference
  have hfollows :=
    (h.carries.resolveName_of_mem isGlobal hmodule hreference).ok htarget
  change other.resolveName isGlobal (place index) reference.name = _ at hfollows
  rw [htarget, hfollows]
  exact h.targetLabel? target

theorem rootLabels (h : Renumbered place one other) {roots : List Node}
    (hroots : ∀ root ∈ roots, one.Holds root) :
    ∃ labels : List Label, roots.map one.label? = labels.map some ∧
      (roots.map (Relocation.renumbering place h.injective).node).map
        other.label? =
        labels.map some := by
  obtain ⟨labels, hsame⟩ :=
    exists_map_some fun root hroot => isSome_label? (hroots root hroot)
  refine ⟨labels, hsame, ?_⟩
  rw [← hsame, List.map_map]
  exact List.map_congr_left fun root _ => h.label? root

theorem roots (h : Renumbered place one other) :
    other.roots =
      one.roots.map
        (List.map (Relocation.renumbering place h.injective).node) := by
  refine (h.carries.roots fun index module copy hmodule hcopy => ?_).eq_of_not
    not_false
  rw [show other.modules[(Relocation.renumbering place h.injective).module
    index]? = some module from
    (h.modules index).trans hmodule, Option.some_inj] at hcopy
  rw [← hcopy, funext (Relocation.fixes_renumbering index).item, List.map_id']

end Renumbered

/-- The numbers of nodes are not seen: add the same modules and the same
dependencies in any two orders. Each time there is a graph, and the two have the
same dependencies in the same order, and the same order of evaluation. Whatever
one of them fails with when it is linked or its roots are collected, the other
fails with too; else their references mean the same, their roots are the same,
and what is put out is the same, with the same collisions. -/
theorem assemble_perm {parts others : List Module} {links rest : List Link}
    (h : Parts parts links) (hmodules : parts.Perm others)
    (hlinks : links.Perm rest) :
    ∃ one other, assemble parts links = .ok one ∧
      assemble others rest = .ok other ∧
      other.dependencies = one.dependencies ∧
      (∃ ids : List String, one.evaluationOrder.map one.idAt? = ids.map some ∧
        other.evaluationOrder.map other.idAt? = ids.map some) ∧
      ∀ config : Config,
        (∀ error, one.link config = .error error →
          other.link config = .error error) ∧
        ∀ linked, one.link config = .ok linked → ∃ relinked,
          other.link config = .ok relinked ∧
          (∀ id ∈ parts.map Module.id, ∃ labels : List Label,
            linked.targetLabels id = labels.map some ∧
            relinked.targetLabels id = labels.map some) ∧
          (∀ error, linked.roots = .error error →
            relinked.roots = .error error) ∧
          ∀ roots, linked.roots = .ok roots → ∃ renumbered,
            relinked.roots = .ok renumbered ∧
            (∃ labels : List Label, roots.map linked.label? = labels.map some ∧
              renumbered.map relinked.label? = labels.map some) ∧
            (relinked.emission renumbered).output =
              (linked.emission roots).output ∧
            (relinked.emission renumbered).collisions =
              (linked.emission roots).collisions := by
  obtain ⟨one, hone, hassembled⟩ := h.exists_assembled
  obtain ⟨other, hother, hreassembled⟩ :=
    (h.perm hmodules hlinks).exists_assembled
  obtain ⟨place, hsame⟩ := hassembled.renumbered h hmodules hlinks hreassembled
  refine ⟨one, other, hone, hother, hsame.dependencies, hsame.evaluationOrder,
    fun config => ?_⟩
  obtain ⟨herror, hok⟩ := hsame.linkWith config.isGlobal
  refine ⟨herror, fun linked hlink => ?_⟩
  obtain ⟨relinked, hrelink⟩ := hok linked hlink
  have hlinks := linksTo_of_linkWith hlink
  have hrelinks := linksTo_of_linkWith hrelink
  have hembeds := hsame.carries.embeds hlinks hrelinks
  have hroots : relinked.roots =
      linked.roots.map
        (List.map (Relocation.renumbering place hsame.injective).node) := by
    rw [hlinks.eq, hrelinks.eq, roots_mapReferences, roots_mapReferences,
      hsame.roots]
  refine ⟨relinked, hrelink, fun id hid => ?_, fun error hfails => ?_,
    fun roots hfound => ?_⟩
  · rw [← hassembled.modules] at hid
    exact hsame.targetLabels hlinks hrelinks hid
  · rw [hroots, hfails]
    rfl
  · refine ⟨roots.map (Relocation.renumbering place hsame.injective).node, ?_,
      ?_, ?_, ?_⟩
    · rw [hroots, hfound]
      rfl
    · have hholds : ∀ root ∈ roots, one.Holds root := by
        rw [hlinks.eq, roots_mapReferences] at hfound
        exact fun _ => holds_of_roots hfound
      rw [hlinks.eq, hrelinks.eq, label?_mapReferences, label?_mapReferences]
      exact hsame.rootLabels hholds
    · rw [hembeds.emission]
      rfl
    · rw [hembeds.emission]
      rfl

/-- The dependencies of `relay`, and one more. -/
def relayLinks : List Link :=
  [("/a.ts", "/b.ts", ⟨"./b", 0⟩), ("/b.ts", "/c.ts", ⟨"./c", 0⟩),
    ("/a.ts", "/c.ts", ⟨"./c", 1⟩)]

theorem parts_relay : Parts relay.modules relayLinks := by
  constructor <;> decide +kernel

def relayForth : Graph :=
  { relay with
    edges := [⟨0, 2, ⟨"./c", 1⟩⟩, ⟨1, 2, ⟨"./c", 0⟩⟩, ⟨0, 1, ⟨"./b", 0⟩⟩] }

def relayBack : Graph :=
  { relay with
    modules := relay.modules.reverse
    edges := [⟨2, 1, ⟨"./b", 0⟩⟩, ⟨1, 0, ⟨"./c", 0⟩⟩, ⟨2, 0, ⟨"./c", 1⟩⟩] }

/-- Added the other way round, the module that came last has the first
number. -/
theorem assemble_perm_relay :
    assemble relay.modules relayLinks = .ok relayForth ∧
      assemble relay.modules.reverse relayLinks.reverse = .ok relayBack ∧
      relayForth.indexOf? "/c.ts" = some 2 ∧
      relayBack.indexOf? "/c.ts" = some 0 ∧
      relayBack.dependencies "/a.ts" = relayForth.dependencies "/a.ts" ∧
      ∃ linked relinked roots renumbered,
        relayForth.link .default = .ok linked ∧
        relayBack.link .default = .ok relinked ∧ linked.roots = .ok roots ∧
        relinked.roots = .ok renumbered ∧
        (relinked.emission renumbered).output = (linked.emission roots).output ∧
        (relinked.emission renumbered).collisions =
          (linked.emission roots).collisions := by
  have hforth : assemble relay.modules relayLinks = .ok relayForth := rfl
  have hback : assemble relay.modules.reverse relayLinks.reverse =
      .ok relayBack := rfl
  obtain ⟨one, other, hone, hother, hdependencies, -, hlinking⟩ :=
    assemble_perm parts_relay (List.reverse_perm _).symm
      (List.reverse_perm _).symm
  obtain rfl := Except.ok.inj (hforth.symm.trans hone)
  obtain rfl := Except.ok.inj (hback.symm.trans hother)
  obtain ⟨linked, hlink⟩ :=
    exists_ok_of_isSome
      (show (relayForth.link .default).toOption.isSome = true by cbv)
  have hfound : linked.roots =
      .ok [.declaration ⟨2, 0⟩, .statement ⟨0, 0⟩] := by
    rw [(linksTo_of_linkWith hlink).eq, roots_mapReferences]
    cbv
  obtain ⟨relinked, hrelink, -, -, hroots⟩ := (hlinking .default).2 linked hlink
  obtain ⟨renumbered, hrenumbered, -, houtput, hcollisions⟩ := hroots _ hfound
  exact ⟨hforth, hback, rfl, rfl, congrFun hdependencies "/a.ts", linked,
    relinked, _, renumbered, hlink, hrelink, hfound, hrenumbered, houtput,
    hcollisions⟩

end Graph

end Prune
