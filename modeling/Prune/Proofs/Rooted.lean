import Prune.Proofs.Dissected
import Prune.Proofs.Evaluation
import Prune.Proofs.Reached
import Prune.Roots

/-!
# What is looked up is there

Collecting the roots and putting out the output look up declarations and
statements by the place that they have in a module. A place that is not there
ends the run. `link_names` says that this does not come from linking: in a
graph whose tables file every entry under its own name, a reference leads to a
declaration that stands in the graph and has the name of the reference, and a
name that the entry passes on leads to a declaration of that name. Nor does it
come from the order of evaluation, which lists nodes of the graph only.

What is left is the items of the entry, whose places were written down when the
module was taken apart. They have to stand in its own tables, and those of a
module that was taken from a file do (`Module.FromFile.items`). Keyed tables do
not give this: `stray` is a graph with an item that stands nowhere.
-/

namespace Prune.Graph

/-! ## Declarations by name -/

/-- A declaration of a name stands at a slot: in the table of a module of the
graph. -/
def StandsAt (graph : Graph) (slot : Slot) (name : String) : Prop :=
  ∃ module declaration, graph.modules[slot.module]? = some module ∧
    slot.index < module.declarations.size ∧
    module.declarations.at? slot.index = some declaration ∧
    declaration.name = name

theorem Declares.standsAt {graph : Graph} {slot : Slot} {name : String}
    (h : graph.Declares slot name) (hkeyed : graph.Keyed) :
    graph.StandsAt slot name := by
  obtain ⟨module, hmodule, hplace⟩ := h
  obtain ⟨declaration, hentry⟩ := Table.entry_of_place? hplace
  have hat := Table.at?_of_entry hentry
  have hlt : slot.index < module.declarations.size :=
    Table.isSome_at?.mp (Option.isSome_iff_exists.mpr ⟨declaration, hat⟩)
  exact ⟨module, declaration, hmodule, hlt, hat,
    (hkeyed module (List.mem_of_getElem? hmodule)).declarations
      (List.mem_of_getElem? hentry)⟩

theorem StandsAt.holds {graph : Graph} {slot : Slot} {name : String}
    (h : graph.StandsAt slot name) :
    graph.Holds (.declaration slot) := by
  obtain ⟨module, declaration, hmodule, -, hat, -⟩ := h
  exact holds_declaration hmodule hat

theorem resolveExport_standsAt {graph : Graph} (hkeyed : graph.Keyed)
    {target name : String} {slot : Slot}
    (h : graph.resolveExport target name = .ok slot) :
    graph.StandsAt slot name := by
  obtain ⟨found, hdeclares, hname⟩ := followExport_declares h
  exact hname hkeyed ▸ hdeclares.standsAt hkeyed

/-- Linking leads a reference to a declaration of its name. -/
theorem LinksTo.standsAt {graph linked : Graph} {isGlobal : String → Bool}
    (h : graph.LinksTo isGlobal linked) (hkeyed : graph.Keyed) {node : Node}
    {reference : Reference} (hreference : reference ∈ linked.referencesOf node)
    {slot : Slot} (htarget : reference.target = some (.declaration slot)) :
    linked.StandsAt slot reference.name := by
  obtain ⟨module, hmodule, hmem⟩ := mem_referencesOf hreference
  obtain ⟨target, haimed, hresolved⟩ := h.target hmodule hmem
  rw [htarget, Option.some_inj] at haimed
  subst haimed
  obtain ⟨found, hdeclares, hname⟩ := resolveName_declares hresolved
  rw [← hname hkeyed]
  exact (h.declares.mpr hdeclares).standsAt (h.keyed.mpr hkeyed)

/-! ## Roots -/

/-- The roots that an item of the entry gives: what it stands for, unless that
is not exported or does nothing. A name that is passed on stands for a
declaration of that name. -/
inductive RootsOf (graph : Graph) (entry : Nat) (module : Module) :
    Item → List Node → Prop where
  | hidden {place : Nat} {declaration : Declaration}
      (stands : module.declarations.at? place = some declaration)
      (hidden : declaration.exported = false) :
      RootsOf graph entry module (.declaration place) []
  | exported {place : Nat} {declaration : Declaration}
      (stands : module.declarations.at? place = some declaration)
      (exported : declaration.exported = true) :
      RootsOf graph entry module (.declaration place)
        [.declaration ⟨entry, place⟩]
  | pure {place : Nat} {statement : Statement}
      (stands : module.statements[place]? = some statement)
      (pure : statement.isPure = true) :
      RootsOf graph entry module (.statement place) []
  | effectful {place : Nat} {statement : Statement}
      (stands : module.statements[place]? = some statement)
      (effectful : statement.isPure = false) :
      RootsOf graph entry module (.statement place) [.statement ⟨entry, place⟩]
  | unknown {name : String} (unknown : module.reExports.find? name = none) :
      RootsOf graph entry module (.reExport name) []
  | passedOn {name : String} {slot : Slot} (stands : graph.StandsAt slot name) :
      RootsOf graph entry module (.reExport name) [.declaration slot]

theorem RootsOf.holds {graph : Graph} {entry : Nat} {module : Module}
    {item : Item} {nodes : List Node}
    (h : graph.RootsOf entry module item nodes)
    (hmodule : graph.modules[entry]? = some module) :
    ∀ node ∈ nodes, graph.Holds node := by
  intro node hnode
  cases h with
  | hidden => cases hnode
  | exported hstands =>
      rw [List.mem_singleton.mp hnode]
      exact holds_declaration hmodule hstands
  | pure => cases hnode
  | effectful hstands =>
      rw [List.mem_singleton.mp hnode]
      exact holds_statement hmodule hstands
  | unknown => cases hnode
  | passedOn hstands =>
      rw [List.mem_singleton.mp hnode]
      exact hstands.holds

theorem holds_of_mem_effectfulStatements {graph : Graph} {index : Nat}
    {module : Module} (hmodule : graph.modules[index]? = some module)
    {node : Node} (h : node ∈ effectfulStatements index module) :
    (∃ slot, node = .statement slot) ∧ graph.Holds node := by
  rw [effectfulStatements, List.mem_map] at h
  obtain ⟨⟨statement, place⟩, hmem, rfl⟩ := h
  have hplace := List.mk_mem_zipIdx_iff_getElem?.mp (List.mem_filter.mp hmem).1
  exact ⟨⟨_, rfl⟩, holds_statement hmodule hplace⟩

theorem rootsOf_of_itemRoot {graph : Graph} (hkeyed : graph.Keyed) {entry : Nat}
    {module : Module} (hmodule : graph.modules[entry]? = some module)
    {item : Item} {nodes : List Node}
    (h : graph.itemRoot entry module item = .ok nodes) :
    graph.RootsOf entry module item nodes := by
  cases item with
  | declaration place =>
      rw [itemRoot] at h
      split at h
      · next declaration hat =>
          cases h
          split
          · next hexported => exact .exported hat hexported
          · next hhidden => exact .hidden hat (Bool.eq_false_iff.mpr hhidden)
      · cases h
  | statement place =>
      rw [itemRoot] at h
      split at h
      · next statement hat =>
          cases h
          split
          · next hpure => exact .pure hat hpure
          · next heffect => exact .effectful hat (Bool.eq_false_iff.mpr heffect)
      · cases h
  | reExport name =>
      rw [itemRoot] at h
      split at h
      · next hunknown =>
          cases h
          exact .unknown hunknown
      · next reExport hfind =>
          split at h
          · cases h
          · next halias =>
              obtain ⟨slot, hslot, h⟩ := bind_ok h
              cases h
              have hexported :=
                (hkeyed module (List.mem_of_getElem? hmodule)).reExports
                  (Table.mem_of_find? hfind)
              simp only [ReExport.isAliased, decide_eq_true_eq, ne_eq,
                Decidable.not_not] at halias
              rw [← hexported, halias]
              exact .passedOn (resolveExport_standsAt hkeyed hslot)

/-- The roots are statements of modules that the entry depends on, and then what
the items of the entry give. -/
theorem roots_ok {graph : Graph} (hkeyed : graph.Keyed) {roots : List Node}
    (h : graph.roots = .ok roots) {entry : Nat} {module : Module}
    (hentry : graph.entry.bind graph.indexOf? = some entry)
    (hmodule : graph.modules[entry]? = some module) :
    ∃ statements nodes, roots = statements ++ nodes.flatten ∧
      (∀ node ∈ statements,
        (∃ slot, node = .statement slot) ∧ graph.Holds node) ∧
      List.Forall₂ (graph.RootsOf entry module) module.items nodes := by
  rw [Graph.roots, hentry] at h
  dsimp only at h
  rw [hmodule] at h
  obtain ⟨nodes, hnodes, h⟩ := bind_ok h
  cases h
  refine ⟨_, nodes, rfl, fun node hnode => ?_, ?_⟩
  · obtain ⟨index, -, hmem⟩ := List.mem_flatMap.mp hnode
    cases hother : graph.modules[index]? with
    | none => rw [hother] at hmem; cases hmem
    | some other =>
        rw [hother] at hmem
        exact holds_of_mem_effectfulStatements hother hmem
  · exact (forall₂_of_mapM hnodes).imp fun _ _ hroots =>
      rootsOf_of_itemRoot hkeyed hmodule hroots

theorem holds_of_mem_roots {graph : Graph} (hkeyed : graph.Keyed)
    {roots : List Node} (h : graph.roots = .ok roots) :
    ∀ root ∈ roots, graph.Holds root := by
  cases hentry : graph.entry.bind graph.indexOf? with
  | none =>
      rw [Graph.roots, hentry] at h
      cases h
      exact fun _ hroot => absurd hroot List.not_mem_nil
  | some entry =>
      obtain ⟨id, -, hindex⟩ := Option.bind_eq_some_iff.mp hentry
      obtain ⟨module, hmodule, -⟩ := exists_of_indexOf? hindex
      obtain ⟨statements, nodes, rfl, hstatements, hitems⟩ :=
        roots_ok hkeyed h hentry hmodule
      intro root hroot
      rcases List.mem_append.mp hroot with hstatement | hitem
      · exact (hstatements root hstatement).2
      · obtain ⟨found, hfound, hmem⟩ := List.mem_flatten.mp hitem
        obtain ⟨item, -, hroots⟩ := exists_of_mem_right hitems hfound
        exact hroots.holds hmodule root hmem

/-! ## No place is missing -/

theorem followExport_ne_abandoned {graph : Graph} {fuel : Nat}
    {seen : List (String × String)} {target name reason : String} :
    graph.followExport fuel seen target name ≠ .error (.abandoned reason) := by
  induction fuel generalizing seen target name with
  | zero =>
      intro h
      cases h
  | succ fuel ih =>
      intro h
      rw [followExport] at h
      repeat' split at h
      all_goals first
        | cases h
        | exact ih h

/-- The root of an item is looked up in vain only if the item does not stand in
its module. -/
theorem itemRoot_ne_abandoned {graph : Graph} {entry : Nat} {module : Module}
    {item : Item} (hitem : module.Holds item) (reason : String) :
    graph.itemRoot entry module item ≠ .error (.abandoned reason) := by
  intro h
  cases item with
  | declaration place =>
      rw [itemRoot] at h
      split at h
      · cases h
      · next hnone =>
          have hsome := Table.isSome_at?.mpr hitem
          rw [hnone] at hsome
          cases hsome
  | statement place =>
      rw [itemRoot] at h
      split at h
      · cases h
      · next hnone =>
          exact Nat.not_lt_of_le (List.getElem?_eq_none_iff.mp hnone) hitem
  | reExport name =>
      rw [itemRoot] at h
      split at h
      · cases h
      · split at h
        · cases h
        · exact followExport_ne_abandoned
            (error_of_bind_error h fun _ => ⟨_, rfl⟩)

/-- The items of the entry stand in its own tables. -/
def EntryStands (graph : Graph) : Prop :=
  ∀ entry module, graph.entry.bind graph.indexOf? = some entry →
    graph.modules[entry]? = some module →
    ∀ item ∈ module.items, module.Holds item

theorem entryStands_of_fromFile {graph : Graph}
    (h : ∀ module ∈ graph.modules, module.FromFile) : graph.EntryStands :=
  fun _ module _ hmodule => (h module (List.mem_of_getElem? hmodule)).items

/-- Linking changes no items, and nothing that items stand for goes away. -/
theorem LinksTo.entryStands {graph linked : Graph} {isGlobal : String → Bool}
    (h : graph.LinksTo isGlobal linked) (hstands : graph.EntryStands) :
    linked.EntryStands := by
  intro entry module hentry hmodule item hitem
  rw [h.eq,
    funext (graph.indexOf?_mapReferences (graph.aim isGlobal))] at hentry
  rw [h.eq, modules_mapReferences, Option.map_eq_some_iff] at hmodule
  obtain ⟨old, hold, rfl⟩ := hmodule
  refine (hstands entry old hentry hold item hitem).mono ?_ ?_
  · exact Nat.le_of_eq (Table.size_map _ _).symm
  · exact Nat.le_of_eq (List.length_map _).symm

theorem roots_ne_abandoned {graph : Graph} (hstands : graph.EntryStands)
    (reason : String) : graph.roots ≠ .error (.abandoned reason) := by
  intro h
  rw [Graph.roots] at h
  split at h
  · cases h
  · next entry hentry =>
      split at h
      · cases h
      · next module hmodule =>
          have hfound := error_of_bind_error h fun _ => ⟨_, rfl⟩
          obtain ⟨before, item, after, hsplit, -, hitem⟩ :=
            exists_of_mapM_error hfound
          have hmem : item ∈ module.items := by
            rw [hsplit]
            exact List.mem_append_right _ List.mem_cons_self
          exact itemRoot_ne_abandoned
            (hstands entry module hentry hmodule item hmem) reason hitem

/-- Linking is by name: the declaration that a reference means stands in the
graph and has the name of the reference, over however many modules the name is
passed on, and the declaration that a root was passed on for has the name that
was passed on. So nothing is looked up in vain in what is put out, nor in the
order of evaluation. In the roots nothing is looked up in vain if the items of
the entry stand in its own tables, as those of modules from files do. -/
theorem link_names {graph linked : Graph} {config : Config}
    (hkeyed : graph.Keyed) (hlink : graph.link config = .ok linked) :
    (∀ node, ∀ reference ∈ linked.referencesOf node, ∀ slot,
      reference.target = some (.declaration slot) →
      linked.StandsAt slot reference.name) ∧
    (∀ roots, linked.roots = .ok roots →
      (∀ entry module, linked.entry.bind linked.indexOf? = some entry →
        linked.modules[entry]? = some module →
        ∃ statements nodes, roots = statements ++ nodes.flatten ∧
          (∀ node ∈ statements,
            (∃ slot, node = .statement slot) ∧ linked.Holds node) ∧
          List.Forall₂ (linked.RootsOf entry module) module.items nodes) ∧
      ∀ node, (linked.emission roots).isVisited node = true →
        linked.Holds node) ∧
    (∀ index ∈ linked.evaluationOrder, index < linked.modules.length) ∧
    (graph.EntryStands → ∀ reason, linked.roots ≠ .error (.abandoned reason)) ∧
    ((∀ module ∈ graph.modules, module.FromFile) → graph.EntryStands) := by
  have hlinks := linksTo_of_linkWith hlink
  have hkept : linked.Keyed := hlinks.keyed.mpr hkeyed
  refine ⟨fun node reference hreference slot htarget =>
      hlinks.standsAt hkeyed hreference htarget,
    fun roots hroots => ⟨fun entry module hentry hmodule =>
      roots_ok hkept hroots hentry hmodule, fun node hvisited => ?_⟩,
    fun index hindex => lt_of_mem_evaluationOrder hindex,
    fun hstands => roots_ne_abandoned (hlinks.entryStands hstands),
    entryStands_of_fromFile⟩
  rw [Emission.isVisited_iff, Emission.mem_visited_emission] at hvisited
  exact hlinks.holds_of_reachedFrom (holds_of_mem_roots hkept hroots) hvisited

/-- A name that is taken from a module that passes it on. -/
def relay : Graph :=
  { modules :=
      [{ Module.empty "/a.ts" true with
          importTable := ⟨[("f", ⟨"f", "f", "/b.ts"⟩)], by decide⟩
          reExports := ⟨[("f", ⟨"f", "f", "/b.ts"⟩)], by decide⟩
          statements := [⟨"f();", false, [.named "f"]⟩]
          items := [.reExport "f", .statement 0] },
        { Module.empty "/b.ts" false with
          reExports := ⟨[("f", ⟨"f", "f", "/c.ts"⟩)], by decide⟩ },
        { Module.empty "/c.ts" false with
          declarations :=
            ⟨[("f", ⟨"f", "let f=eval;", "let f=eval;", true, []⟩)], by decide⟩
          items := [.declaration 0] }]
    edges := [⟨1, 2, ⟨"./c", 0⟩⟩, ⟨0, 1, ⟨"./b", 0⟩⟩]
    entry := some "/a.ts" }

theorem link_names_relay :
    relay.Keyed ∧ ∃ linked, relay.link .default = .ok linked ∧
      (∃ reference ∈ linked.referencesOf (.statement ⟨0, 0⟩),
        reference.target = some (.declaration ⟨2, 0⟩) ∧ reference.name = "f") ∧
      linked.StandsAt ⟨2, 0⟩ "f" ∧
      ∀ reason, linked.roots ≠ .error (.abandoned reason) := by
  have hkeyed : relay.Keyed := by
    intro module hmodule
    simp only [relay, List.mem_cons, List.not_mem_nil, or_false] at hmodule
    rcases hmodule with rfl | rfl | rfl <;> constructor <;>
      simp [Module.empty, Table.empty]
  have hstands : relay.EntryStands := by
    intro entry module _ hmodule
    have hmem := List.mem_of_getElem? hmodule
    simp only [relay, List.mem_cons, List.not_mem_nil, or_false] at hmem
    rcases hmem with rfl | rfl | rfl <;>
      simp [Module.empty, Module.Holds, Table.size]
  have hsome : (relay.link .default).toOption.isSome = true := by cbv
  obtain ⟨linked, hlink⟩ := exists_ok_of_isSome hsome
  have hreference : ⟨"f", some (.declaration ⟨2, 0⟩)⟩ ∈
      linked.referencesOf (.statement ⟨0, 0⟩) := by
    have haim : relay.aim Config.default.isGlobal 0 (.named "f") =
        ⟨"f", some (.declaration ⟨2, 0⟩)⟩ := by
      cbv
    rw [(linksTo_of_linkWith hlink).eq, referencesOf_mapReferences, ← haim]
    exact List.mem_cons_self
  obtain ⟨hnames, -, -, hroots, -⟩ := link_names hkeyed hlink
  exact ⟨hkeyed, linked, hlink, ⟨_, hreference, rfl, rfl⟩,
    hnames _ _ hreference _ rfl, hroots hstands⟩

/-- A module whose tables are empty, with an item that they do not have. -/
def stray (item : Item) : Graph :=
  { modules := [{ Module.empty "/a.ts" true with items := [item] }]
    edges := []
    entry := some "/a.ts" }

/-- The tables of a graph may be keyed and the graph may link while an item of
its entry stands nowhere. Collecting the roots then asks for a place that a
table does not have, be it a declaration or a statement. -/
theorem roots_stray :
    (stray (.declaration 5)).Keyed ∧
    (∃ linked, (stray (.declaration 5)).link .default = .ok linked ∧
      linked.roots = .error (.outOfBounds 0 5)) ∧
    (stray (.statement 5)).Keyed ∧
    ∃ linked, (stray (.statement 5)).link .default = .ok linked ∧
      linked.roots = .error (.outOfBounds 0 5) := by
  have hkeyed : ∀ item, (stray item).Keyed := by
    intro item module hmodule
    rw [List.mem_singleton.mp hmodule]
    constructor <;> simp [Module.empty, Table.empty]
  have hlink : ∀ item, (stray item).link .default = .ok (stray item) := by
    intro item
    cbv
  exact ⟨hkeyed _, ⟨_, hlink _, by cbv⟩, hkeyed _, _, hlink _, by cbv⟩

end Prune.Graph
