import Prune.Proofs.Linked
import Prune.Proofs.Relocation
import Prune.Proofs.Rooted

/-!
# A program that is carried along

Linking and collecting roots go by names, and a place comes in only where a name
has been found. `Relocation.Carries` is what two graphs have to have in common
so that what is found in one is found in the other at its new place: the modules
under their ids, with the same imports and the same names that are passed on,
and in them the same declarations and statements. It says nothing of targets,
which linking writes anew.

The second graph may hold more than the first. Then it may declare a name that
the module in the first graph knows nothing of (`Module.Unknown`), and what
fails in the first may come out well in the second. `Follows` leaves that open
and nothing else: what comes out well in the first graph comes out in the second
as well, and if there is no more in the second than in the first, then so do the
errors.
-/

namespace Prune

/-! ## Computations that follow others -/

/-- A computation comes out as another does, with a result that is carried
along. Where there is more to be found, it may come out in any way if the other
fails. -/
def Follows {α β ε : Type} (more : Prop) (carry : α → β) (first : Except ε α)
    (other : Except ε β) :
    Prop :=
  other = first.map carry ∨ more ∧ ∃ error, first = .error error

namespace Follows

variable {α β γ δ ε : Type} {more : Prop} {carry : α → β} {first : Except ε α}
    {other : Except ε β}

theorem eq_of_not (h : Follows more carry first other) (hnot : ¬ more) :
    other = first.map carry :=
  h.resolve_right fun hmore => hnot hmore.1

theorem ok (h : Follows more carry first other) {value : α}
    (hfirst : first = .ok value) :
    other = .ok (carry value) := by
  rcases h with heq | ⟨-, error, herror⟩
  · rw [heq, hfirst]
    rfl
  · rw [hfirst] at herror
    cases herror

theorem bind {carryNext : γ → δ} {next : α → Except ε γ}
    {nextOther : β → Except ε δ} (h : Follows more carry first other)
    (hnext : ∀ value,
      Follows more carryNext (next value) (nextOther (carry value))) :
    Follows more carryNext (first >>= next) (other >>= nextOther) := by
  rcases h with rfl | ⟨hmore, error, rfl⟩
  · cases first with
    | error error => exact Or.inl rfl
    | ok value => exact hnext value
  · exact Or.inr ⟨hmore, error, rfl⟩

theorem map {carryNext : γ → δ} {f : α → γ} {g : β → δ}
    (h : Follows more carry first other)
    (hcarry : ∀ value, g (carry value) = carryNext (f value)) :
    Follows more carryNext (first.map f) (other.map g) := by
  rcases h with rfl | ⟨hmore, error, rfl⟩
  · cases first with
    | error error => exact Or.inl rfl
    | ok value => exact Or.inl (congrArg Except.ok (hcarry value))
  · exact Or.inr ⟨hmore, error, rfl⟩

theorem pure (value : α) :
    Follows more carry (.ok value : Except ε α) (.ok (carry value)) :=
  Or.inl rfl

theorem mapM {carryItem : γ → δ} {f : γ → Except ε α} {g : δ → Except ε β}
    {items : List γ}
    (h : ∀ item ∈ items, Follows more carry (f item) (g (carryItem item))) :
    Follows more (List.map carry) (items.mapM f)
      ((items.map carryItem).mapM g) := by
  induction items with
  | nil => exact Or.inl rfl
  | cons item items ih =>
      rw [List.map_cons, List.mapM_cons, List.mapM_cons]
      refine (h item List.mem_cons_self).bind fun value => ?_
      exact (ih fun other hother =>
        h other (List.mem_cons_of_mem _ hother)).bind fun values =>
          .pure (value :: values)

end Follows

/-! ## Roots, item by item -/

namespace Graph

/-- The roots that items of a module give. -/
def itemRoots (graph : Graph) (index : Nat) (module : Module)
    (items : List Item) :
    Except Error (List Node) :=
  (items.mapM (graph.itemRoot index module)).map List.flatten

/-- An item that gives no root may come anywhere among the others. -/
theorem itemRoots_insertItem {graph : Graph} {index : Nat} {module : Module}
    {item : Item} (h : graph.itemRoot index module item = .ok [])
    (items : List Item) (position : Nat) :
    graph.itemRoots index module (Dissection.insertItem items position item) =
      graph.itemRoots index module items := by
  rw [itemRoots, itemRoots, Dissection.insertItem, List.mapM_append,
    List.mapM_cons, h]
  conv_rhs => rw [← List.take_append_drop position items, List.mapM_append]
  cases (items.take position).mapM (graph.itemRoot index module) with
  | error error => rfl
  | ok before =>
      cases (items.drop position).mapM (graph.itemRoot index module) with
      | error error => rfl
      | ok after =>
          refine congrArg Except.ok ?_
          rw [List.flatten_append, List.flatten_append, List.flatten_cons,
            List.nil_append]

/-- The statements that do something of all modules but one, in the order of
evaluation. -/
def sideEffects (graph : Graph) (entry : Nat) : List Node :=
  (graph.evaluationOrder.filter fun index => index ≠ entry).flatMap fun index =>
    (graph.modules[index]?).elim [] (effectfulStatements index)

theorem roots_eq (graph : Graph) :
    graph.roots =
      match graph.entry.bind graph.indexOf? with
      | none => .ok []
      | some entry =>
          match graph.modules[entry]? with
          | none => .ok []
          | some module =>
              (graph.itemRoots entry module module.items).map
                (graph.sideEffects entry ++ ·) := by
  rw [roots]
  cases graph.entry.bind graph.indexOf? with
  | none => rfl
  | some entry =>
      dsimp only
      cases graph.modules[entry]? with
      | none => rfl
      | some module =>
          dsimp only
          rw [itemRoots]
          cases module.items.mapM (graph.itemRoot entry module) <;> rfl

theorem holds_of_itemRoot {graph : Graph} {index : Nat} {module : Module}
    (hmodule : graph.modules[index]? = some module) {item : Item}
    {nodes : List Node} (h : graph.itemRoot index module item = .ok nodes)
    {node : Node} (hnode : node ∈ nodes) :
    graph.Holds node := by
  cases item with
  | declaration place =>
      rw [itemRoot] at h
      split at h
      · next declaration hat =>
          cases h
          split at hnode
          · rw [List.mem_singleton.mp hnode]
            exact holds_declaration hmodule hat
          · cases hnode
      · cases h
  | statement place =>
      rw [itemRoot] at h
      split at h
      · next statement hat =>
          cases h
          split at hnode
          · cases hnode
          · rw [List.mem_singleton.mp hnode]
            exact holds_statement hmodule hat
      · cases h
  | reExport name =>
      rw [itemRoot] at h
      split at h
      · cases h
        cases hnode
      · split at h
        · cases h
        · obtain ⟨slot, hslot, h⟩ := bind_ok h
          cases h
          obtain ⟨found, hdeclares, -⟩ := followExport_declares hslot
          rw [List.mem_singleton.mp hnode]
          exact hdeclares.holds

/-- Roots stand in the graph, whatever its tables file entries under. -/
theorem holds_of_roots {graph : Graph} {roots : List Node}
    (h : graph.roots = .ok roots) {node : Node} (hnode : node ∈ roots) :
    graph.Holds node := by
  rw [roots_eq] at h
  split at h
  · cases h
    cases hnode
  · next entry _ =>
      split at h
      · cases h
        cases hnode
      · next module hmodule =>
          obtain ⟨items, hitems, rfl⟩ := map_ok h
          rcases List.mem_append.mp hnode with hstatement | hitem
          · obtain ⟨index, -, hmem⟩ := List.mem_flatMap.mp hstatement
            cases hother : graph.modules[index]? with
            | none => rw [hother] at hmem; cases hmem
            | some other =>
                rw [hother] at hmem
                exact (holds_of_mem_effectfulStatements hother hmem).2
          · obtain ⟨found, hfound, rfl⟩ := map_ok hitems
            obtain ⟨nodes, hnodes, hmem⟩ := List.mem_flatten.mp hitem
            obtain ⟨item, -, hroot⟩ :=
              exists_of_mem_right (forall₂_of_mapM hfound) hnodes
            exact holds_of_itemRoot hmodule hroot hmem

/-- The dependencies look at ids and edges only. -/
theorem dependenciesOf_congr {one other : Graph}
    (hids : other.modules.map Module.id = one.modules.map Module.id)
    (hedges : other.edges = one.edges) (index : Nat) :
    other.dependenciesOf index = one.dependenciesOf index := by
  have hid : ∀ place : Nat, (other.modules[place]?).map Module.id =
      (one.modules[place]?).map Module.id := by
    intro place
    rw [← List.getElem?_map, hids, List.getElem?_map]
  have hfrom : ∀ place, other.edgesFrom place = one.edgesFrom place := by
    intro place
    rw [edgesFrom, edgesFrom, hedges]
  have hdependencies : ∀ id, other.dependencies id = one.dependencies id := by
    intro id
    rw [dependencies, dependencies, indexOf?_eq, hids, ← indexOf?_eq]
    cases one.indexOf? id with
    | none => rfl
    | some place =>
        dsimp only
        rw [hfrom]
        refine List.filterMap_congr fun edge _ => ?_
        have hentry : ∀ graph : Graph,
            (graph.modules[edge.target]?).map (fun module =>
              (module.id, edge.dependency)) =
              ((graph.modules[edge.target]?).map Module.id).map fun id =>
                (id, edge.dependency) := fun graph => by
          rw [Option.map_map]
          rfl
        rw [hentry, hentry, hid]
  have hmodule : ∀ graph : Graph, graph.dependenciesOf index =
      ((graph.modules[index]?).map Module.id).elim [] graph.dependencies := by
    intro graph
    rw [dependenciesOf]
    cases graph.modules[index]? <;> rfl
  rw [hmodule, hmodule, hid, funext hdependencies]

/-! Linking changes no roots. -/

section

variable (f : Nat → Reference → Reference) (graph : Graph)

theorem dependenciesOf_mapReferences (index : Nat) :
    (graph.mapReferences f).dependenciesOf index = graph.dependenciesOf index :=
  dependenciesOf_congr
    (map_modules_mapReferences f graph fun _ _ => rfl) rfl index

theorem evaluationOrder_mapReferences :
    (graph.mapReferences f).evaluationOrder = graph.evaluationOrder := by
  have horder : (graph.mapReferences f).evaluationOrder =
      graph.evaluationOrder.map id :=
    evaluationOrder_relocated Function.injective_id
      (fun name => by rw [indexOf?_mapReferences, Option.map_id_apply])
      (graph.dependenciesOf_mapReferences f) rfl List.length_mapIdx rfl
  rw [horder, List.map_id]

theorem effectfulStatements_mapReferences (change : Reference → Reference)
    (index : Nat) (module : Module) :
    effectfulStatements index (module.mapReferences change) =
      effectfulStatements index module := by
  rw [effectfulStatements, effectfulStatements, Module.mapReferences,
    List.zipIdx_map, List.filter_map, List.map_map]
  rfl

theorem itemRoot_mapReferences (change : Reference → Reference) (index : Nat)
    (module : Module) (item : Item) :
    (graph.mapReferences f).itemRoot index (module.mapReferences change) item =
      graph.itemRoot index module item := by
  cases item with
  | declaration place =>
      rw [itemRoot, itemRoot, Module.mapReferences, Table.at?_map,
        Table.size_map]
      cases module.declarations.at? place <;> rfl
  | statement place =>
      rw [itemRoot, itemRoot, Module.mapReferences, List.getElem?_map,
        List.length_map]
      cases module.statements[place]? <;> rfl
  | reExport name =>
      simp only [itemRoot, Module.mapReferences, resolveExport,
        reExportCount_mapReferences, followExport_mapReferences]

theorem roots_mapReferences : (graph.mapReferences f).roots = graph.roots := by
  have hentry : (graph.mapReferences f).entry.bind
      (graph.mapReferences f).indexOf? =
      graph.entry.bind graph.indexOf? :=
    congrArg graph.entry.bind (funext (graph.indexOf?_mapReferences f))
  have hstatements : ∀ entry,
      (graph.mapReferences f).sideEffects entry = graph.sideEffects entry := by
    intro entry
    rw [sideEffects, sideEffects, evaluationOrder_mapReferences]
    refine List.flatMap_congr fun index _ => ?_
    rw [modules_mapReferences]
    cases graph.modules[index]? with
    | none => rfl
    | some module => exact effectfulStatements_mapReferences _ index module
  rw [roots_eq, roots_eq, hentry]
  cases graph.entry.bind graph.indexOf? with
  | none => rfl
  | some entry =>
      dsimp only
      rw [modules_mapReferences]
      cases graph.modules[entry]? with
      | none => rfl
      | some module =>
          dsimp only [Option.map_some]
          rw [hstatements, itemRoots, itemRoots,
            funext (graph.itemRoot_mapReferences f _ entry module)]
          rfl

end

end Graph

/-! ## Old targets -/

theorem Graph.resolveName_of_unlinked_eq {one other : Graph}
    (h : other.unlinked = one.unlinked) (isGlobal : String → Bool) :
    other.resolveName isGlobal = one.resolveName isGlobal := by
  funext index name
  rw [← resolveName_mapReferences (fun _ => Reference.unlinked) other,
    ← resolveName_mapReferences (fun _ => Reference.unlinked) one]
  exact congrArg (fun graph : Graph => graph.resolveName isGlobal index name) h

/-- What a graph is linked to does not depend on the targets that its references
had before. -/
theorem Graph.LinksTo.of_unlinked_eq {one other linked : Graph}
    {isGlobal : String → Bool} (h : one.LinksTo isGlobal linked)
    (hsame : other.unlinked = one.unlinked) :
    other.LinksTo isGlobal linked := by
  have hname := resolveName_of_unlinked_eq hsame isGlobal
  have haim : other.aim isGlobal = one.aim isGlobal := by
    funext index reference
    rw [aim, aim, hname]
  constructor
  case resolves =>
    intro index module hmodule reference hreference
    have hindex : (other.unlinked).modules[index]? = some module.unlinked := by
      rw [Graph.unlinked, modules_mapReferences, hmodule, Option.map_some,
        Module.unlinked]
    rw [hsame, Graph.unlinked, modules_mapReferences,
      Option.map_eq_some_iff] at hindex
    obtain ⟨before, hbefore, hunlinked⟩ := hindex
    have hmem : reference.unlinked ∈
        before.references.map Reference.unlinked := by
      rw [← Module.references_mapReferences, hunlinked, Module.unlinked,
        Module.references_mapReferences]
      exact List.mem_map_of_mem hreference
    obtain ⟨old, hold, hboth⟩ := List.mem_map.mp hmem
    have hnames : old.unlinked.name = reference.unlinked.name :=
      congrArg Reference.name hboth
    change old.name = reference.name at hnames
    rw [hname, ← hnames]
    exact h.resolves index before hbefore old hold
  case eq =>
    have hforget : ∀ graph : Graph, graph.mapReferences (one.aim isGlobal) =
        graph.unlinked.mapReferences (one.aim isGlobal) := by
      intro graph
      rw [Graph.unlinked, mapReferences_mapReferences]
      rfl
    rw [h.eq, haim, hforget one, hforget other, hsame]

/-! ## Graphs with the same modules at other places -/

/-- An item whose place has become another. -/
def Item.mapPlaces (declared stated : Nat → Nat) : Item → Item
  | .declaration place => .declaration (declared place)
  | .statement place => .statement (stated place)
  | .reExport name => .reExport name

/-- A name that a module neither declares nor takes nor passes on, and that none
of its references has. -/
structure Module.Unknown (module : Module) (name : String) : Prop where
  undeclared : name ∉ module.declarations.keys
  unimported : name ∉ module.importTable.keys
  unpassed : name ∉ module.reExports.keys
  unused : ∀ reference ∈ module.references, reference.name ≠ name

namespace Relocation

def item (r : Relocation) (index : Nat) : Item → Item :=
  Item.mapPlaces (r.declaration index) (r.statement index)

/-- The nodes of a module have the places that they had. -/
structure Fixes (r : Relocation) (index : Nat) : Prop where
  declaration : ∀ place, r.declaration index place = place
  statement : ∀ place, r.statement index place = place

/-- A module at a place of a graph, and what it has become in another graph. -/
structure Copies (r : Relocation) (more : Prop) (index : Nat)
    (module copy : Module) : Prop where
  id : copy.id = module.id
  importTable : copy.importTable = module.importTable
  reExports : copy.reExports = module.reExports
  place : ∀ name,
    copy.declarations.place? name = (module.declarations.place? name).map
      (r.declaration index) ∨
      more ∧ module.Unknown name
  declaration : ∀ place,
    copy.declarations.at? (r.declaration index place) =
      module.declarations.at? place
  statement : ∀ place : Nat,
    copy.statements[r.statement index place]? = module.statements[place]?
  effectful : Graph.effectfulStatements (r.module index) copy =
    (Graph.effectfulStatements index module).map r.node
  /-- Errors name places and sizes. -/
  exact : more ∨ copy = module ∧ r.Fixes index

theorem Fixes.item {r : Relocation} {index : Nat} (h : r.Fixes index)
    (item : Item) :
    r.item index item = item := by
  cases item with
  | declaration place => exact congrArg Item.declaration (h.declaration place)
  | statement place => exact congrArg Item.statement (h.statement place)
  | reExport name => rfl

theorem Copies.self {r : Relocation} {more : Prop} {index : Nat}
    {module : Module} (h : r.Fixes index) :
    r.Copies more index module module where
  id := rfl
  importTable := rfl
  reExports := rfl
  place name := by
    rw [funext h.declaration]
    exact Or.inl (Option.map_id' ..).symm
  declaration place := by rw [h.declaration]
  statement place := by rw [h.statement]
  effectful := by
    rw [Graph.effectfulStatements, Graph.effectfulStatements, List.map_map]
    refine List.map_congr_left fun entry _ => ?_
    rw [Function.comp_apply, node, h.statement]
  exact := Or.inr ⟨rfl, h⟩

structure Carries (r : Relocation) (more : Prop) (one other : Graph) :
    Prop where
  entry : other.entry = one.entry
  indexOf : ∀ id, other.indexOf? id = (one.indexOf? id).map r.module
  dependencies : ∀ index,
    other.dependenciesOf (r.module index) = one.dependenciesOf index
  size : other.modules.length = one.modules.length
  edges : other.edges.length = one.edges.length
  passedOn : other.reExportCount = one.reExportCount
  absent : ∀ index : Nat,
    one.modules[index]? = none → other.modules[r.module index]? = none
  present : ∀ (index : Nat) (module : Module),
    one.modules[index]? = some module →
    ∃ copy, other.modules[r.module index]? = some copy ∧
      r.Copies more index module copy

namespace Carries

variable {r : Relocation} {more : Prop} {one other : Graph}

/-! ## Names -/

theorem followExport (h : r.Carries more one other) (fuel : Nat)
    (seen : List (String × String)) (target name : String) :
    Follows more r.slot (one.followExport fuel seen target name)
      (other.followExport fuel seen target name) := by
  induction fuel generalizing seen target name with
  | zero => exact Or.inl rfl
  | succ fuel ih =>
      rw [Graph.followExport, Graph.followExport, h.indexOf]
      cases one.indexOf? target with
      | none => exact Or.inl rfl
      | some index =>
          cases hmodule : one.modules[index]? with
          | none =>
              simp only [Option.map_some, hmodule, h.absent index hmodule]
              exact Or.inl rfl
          | some module =>
              obtain ⟨copy, hcopy, hcopies⟩ := h.present index module hmodule
              simp only [Option.map_some, hmodule, hcopy]
              rcases hcopies.place name with hplace | ⟨hmore, hunknown⟩
              · rw [hplace, hcopies.reExports, hcopies.id]
                cases module.declarations.place? name with
                | some place => exact Or.inl rfl
                | none =>
                    simp only [Option.map_none]
                    cases module.reExports.find? name with
                    | none => exact Or.inl rfl
                    | some reExport =>
                        dsimp only
                        split
                        · exact Or.inl rfl
                        · split
                          · exact Or.inl rfl
                          · exact ih _ _ _
              · refine Or.inr ⟨hmore, .unresolved name target, ?_⟩
                rw [Table.place?_eq_none_iff.mpr hunknown.undeclared,
                  Table.find?_eq_none_iff.mpr hunknown.unpassed]

theorem resolveExport (h : r.Carries more one other) (target name : String) :
    Follows more r.slot (one.resolveExport target name)
      (other.resolveExport target name) := by
  rw [Graph.resolveExport, Graph.resolveExport, h.passedOn]
  exact h.followExport _ _ _ _

theorem resolveName (h : r.Carries more one other) (isGlobal : String → Bool)
    {index : Nat} {name : String}
    (hknown : ∀ module,
      one.modules[index]? = some module → ¬ module.Unknown name) :
    Follows more r.target (one.resolveName isGlobal index name)
      (other.resolveName isGlobal (r.module index) name) := by
  rw [Graph.resolveName, Graph.resolveName]
  cases hmodule : one.modules[index]? with
  | none =>
      rw [h.absent index hmodule]
      exact Or.inl rfl
  | some module =>
      obtain ⟨copy, hcopy, hcopies⟩ := h.present index module hmodule
      have hplace := (hcopies.place name).resolve_right fun hunknown =>
        hknown module hmodule hunknown.2
      simp only [hcopy, hplace, hcopies.importTable, hcopies.id]
      cases module.declarations.place? name with
      | some place => exact Or.inl rfl
      | none =>
          simp only [Option.map_none]
          cases module.importTable.find? name with
          | some binding =>
              dsimp only
              split
              · exact Or.inl rfl
              · exact (h.resolveExport binding.target binding.imported).map
                  fun _ => rfl
          | none =>
              dsimp only
              split <;> exact Or.inl rfl

/-- A name that is used is not unknown. -/
theorem resolveName_of_mem (h : r.Carries more one other)
    (isGlobal : String → Bool) {index : Nat} {module : Module}
    (hmodule : one.modules[index]? = some module) {reference : Reference}
    (hreference : reference ∈ module.references) :
    Follows more r.target (one.resolveName isGlobal index reference.name)
      (other.resolveName isGlobal (r.module index) reference.name) := by
  refine h.resolveName isGlobal fun found hfound hunknown => ?_
  rw [hmodule, Option.some_inj] at hfound
  subst hfound
  exact hunknown.unused reference hreference rfl

/-! ## Linked graphs, carried along -/

theorem declaration? (h : r.Carries more one other) (slot : Slot) :
    other.declaration? (r.slot slot) = one.declaration? slot := by
  rw [Graph.declaration?, Graph.declaration?, Relocation.slot]
  dsimp only
  cases hmodule : one.modules[slot.module]? with
  | none => rw [h.absent _ hmodule, Option.bind_none, Option.bind_none]
  | some module =>
      obtain ⟨copy, hcopy, hcopies⟩ := h.present _ module hmodule
      rw [hcopy, Option.bind_some, Option.bind_some, hcopies.declaration]

theorem statement? (h : r.Carries more one other) (slot : Slot) :
    other.statement?
      ⟨r.module slot.module, r.statement slot.module slot.index⟩ =
      one.statement? slot := by
  rw [Graph.statement?, Graph.statement?]
  dsimp only
  cases hmodule : one.modules[slot.module]? with
  | none => rw [h.absent _ hmodule, Option.bind_none, Option.bind_none]
  | some module =>
      obtain ⟨copy, hcopy, hcopies⟩ := h.present _ module hmodule
      rw [hcopy, Option.bind_some, Option.bind_some, hcopies.statement]

/-- The references of a linked graph are aimed at the same in a graph that it is
carried to. -/
theorem aim (h : r.Carries more one other) {isGlobal : String → Bool}
    {linked : Graph} (hlinks : one.LinksTo isGlobal linked) {node : Node}
    {reference : Reference} (hreference : reference ∈ one.referencesOf node) :
    other.aim isGlobal (r.module node.slot.module) reference =
      r.reference (one.aim isGlobal node.slot.module reference) := by
  obtain ⟨module, hmodule, hmem⟩ := Graph.mem_referencesOf hreference
  obtain ⟨target, htarget⟩ := hlinks.resolves _ module hmodule reference hmem
  have hfollows := (h.resolveName_of_mem isGlobal hmodule hmem).ok htarget
  rw [Graph.aim, Graph.aim, Relocation.reference, htarget, hfollows]
  rfl

theorem embeds (h : r.Carries more one other) {isGlobal : String → Bool}
    {linked relinked : Graph} (hlinks : one.LinksTo isGlobal linked)
    (hrelinks : other.LinksTo isGlobal relinked) :
    r.Embeds linked relinked := by
  constructor
  case declaration =>
    intro slot
    rw [hlinks.eq, hrelinks.eq, Graph.declaration?_mapReferences,
      Graph.declaration?_mapReferences, h.declaration?, Option.map_map]
    refine Option.map_congr fun declaration hdeclaration => ?_
    have hreferences :
        one.referencesOf (.declaration slot) = declaration.references := by
      rw [Graph.referencesOf, hdeclaration, Option.elim_some]
    simp only [Declaration.mapReferences, Function.comp_apply, List.map_map]
    congr 1
    refine List.map_congr_left fun reference hreference => ?_
    rw [← hreferences] at hreference
    exact h.aim hlinks hreference
  case statement =>
    intro slot
    rw [hlinks.eq, hrelinks.eq, Graph.statement?_mapReferences,
      Graph.statement?_mapReferences, h.statement?, Option.map_map]
    refine Option.map_congr fun statement hstatement => ?_
    have hreferences :
        one.referencesOf (.statement slot) = statement.references := by
      rw [Graph.referencesOf, hstatement, Option.elim_some]
    simp only [Statement.mapReferences, Function.comp_apply, List.map_map]
    congr 1
    refine List.map_congr_left fun reference hreference => ?_
    rw [← hreferences] at hreference
    exact h.aim hlinks hreference

/-! ## Roots -/

theorem evaluationOrder (h : r.Carries more one other) :
    other.evaluationOrder = one.evaluationOrder.map r.module :=
  Graph.evaluationOrder_relocated r.module_injective h.indexOf h.dependencies
    h.entry h.size h.edges

theorem sideEffects (h : r.Carries more one other) (entry : Nat) :
    other.sideEffects (r.module entry) =
      (one.sideEffects entry).map r.node := by
  have hothers : (fun index => decide (index ≠ r.module entry)) ∘ r.module =
      fun index => decide (index ≠ entry) := by
    funext index
    simp only [Function.comp_apply, ne_eq, r.module_injective.eq_iff]
  rw [Graph.sideEffects, Graph.sideEffects, h.evaluationOrder, List.filter_map,
    hothers, List.flatMap_map, List.map_flatMap]
  refine List.flatMap_congr fun index _ => ?_
  cases hmodule : one.modules[index]? with
  | none => rw [h.absent index hmodule]; rfl
  | some module =>
      obtain ⟨copy, hcopy, hcopies⟩ := h.present index module hmodule
      rw [hcopy]
      exact hcopies.effectful

theorem itemRoot (h : r.Carries more one other) {index : Nat}
    {module copy : Module} (hcopies : r.Copies more index module copy)
    (item : Item) :
    Follows more (List.map r.node) (one.itemRoot index module item)
      (other.itemRoot (r.module index) copy (r.item index item)) := by
  cases item with
  | declaration place =>
      rw [Relocation.item, Item.mapPlaces, Graph.itemRoot, Graph.itemRoot,
        hcopies.declaration]
      cases module.declarations.at? place with
      | none =>
          rcases hcopies.exact with hmore | ⟨rfl, hfixes⟩
          · exact Or.inr ⟨hmore, _, rfl⟩
          · rw [hfixes.declaration]
            exact Or.inl rfl
      | some declaration =>
          dsimp only
          split <;> exact Or.inl rfl
  | statement place =>
      rw [Relocation.item, Item.mapPlaces, Graph.itemRoot, Graph.itemRoot,
        hcopies.statement]
      cases module.statements[place]? with
      | none =>
          rcases hcopies.exact with hmore | ⟨rfl, hfixes⟩
          · exact Or.inr ⟨hmore, _, rfl⟩
          · rw [hfixes.statement]
            exact Or.inl rfl
      | some statement =>
          dsimp only
          split <;> exact Or.inl rfl
  | reExport name =>
      rw [Relocation.item, Item.mapPlaces, Graph.itemRoot, Graph.itemRoot,
        hcopies.reExports, hcopies.id]
      cases module.reExports.find? name with
      | none => exact Or.inl rfl
      | some reExport =>
          dsimp only
          split
          · exact Or.inl rfl
          · exact (h.resolveExport reExport.target reExport.targetName).bind
              fun slot => .pure [_]

theorem itemRoots (h : r.Carries more one other) {index : Nat}
    {module copy : Module} (hcopies : r.Copies more index module copy)
    (items : List Item) :
    Follows more (List.map r.node) (one.itemRoots index module items)
      (other.itemRoots (r.module index) copy (items.map (r.item index))) :=
  (Follows.mapM fun item _ => h.itemRoot hcopies item).map fun _ =>
    List.map_flatten.symm

/-- The roots are carried along if the items that a module has in the other
graph only give the roots that its own items give. -/
theorem roots (h : r.Carries more one other)
    (hitems : ∀ (index : Nat) (module copy : Module),
      one.modules[index]? = some module →
      other.modules[r.module index]? = some copy →
      other.itemRoots (r.module index) copy copy.items = other.itemRoots
        (r.module index) copy (module.items.map (r.item index))) :
    Follows more (List.map r.node) one.roots other.roots := by
  have hfirst : other.entry.bind other.indexOf? =
      (one.entry.bind one.indexOf?).map r.module := by
    rw [h.entry, Option.map_bind]
    exact congrArg _ (funext h.indexOf)
  rw [Graph.roots_eq, Graph.roots_eq, hfirst]
  cases hindex : one.entry.bind one.indexOf? with
  | none => exact Or.inl rfl
  | some index =>
      dsimp only [Option.map_some]
      cases hmodule : one.modules[index]? with
      | none =>
          rw [h.absent index hmodule]
          exact Or.inl rfl
      | some module =>
          obtain ⟨copy, hcopy, hcopies⟩ := h.present index module hmodule
          rw [hcopy]
          dsimp only
          rw [hitems index module copy hmodule hcopy]
          refine (h.itemRoots hcopies module.items).map fun nodes => ?_
          rw [List.map_append, h.sideEffects]

end Carries

end Relocation

end Prune
