import Mathlib.Algebra.GroupWithZero.Nat
import Prune.Proofs.Targets

/-!
# What names resolve to

A name is followed without being changed, since every name that changes on the
way is refused. In tables that are keyed by the names of their entries it
therefore leads to a declaration of that very name. `Declares` says where a
declaration stands, and `resolveName_declares` is what every later argument
about the targets of a linked graph starts from.

Neither where a declaration stands nor the names of the tables look at targets,
so both hold of a linked graph as they hold of the graph it came from.
-/

namespace Prune

namespace Graph

/-- The declaration that stands at a slot is filed under a name. -/
def Declares (graph : Graph) (slot : Slot) (name : String) : Prop :=
  ∃ module, graph.modules[slot.module]? = some module ∧
    module.declarations.place? name = some slot.index

/-- A node that stands in the graph. -/
def Holds (graph : Graph) : Node → Prop
  | .declaration slot => (graph.declaration? slot).isSome
  | .statement slot => (graph.statement? slot).isSome

end Graph

/-- Tables that file every entry under its own name. -/
structure Module.Keyed (module : Module) : Prop where
  declarations : ∀ {name declaration},
    (name, declaration) ∈ module.declarations.entries →
    declaration.name = name
  importTable : ∀ {name binding}, (name, binding) ∈ module.importTable.entries →
    binding.localName = name
  reExports : ∀ {name reExport}, (name, reExport) ∈ module.reExports.entries →
    reExport.exported = name

/-- An item stands in the tables of a module. What passes a name on is looked up
by that name. -/
def Module.Holds (module : Module) : Item → Prop
  | .declaration place => place < module.declarations.size
  | .statement place => place < module.statements.length
  | .reExport _ => True

theorem Module.Holds.mono {module other : Module} {item : Item}
    (h : module.Holds item)
    (hdeclarations : module.declarations.size ≤ other.declarations.size)
    (hstatements : module.statements.length ≤ other.statements.length) :
    other.Holds item := by
  cases item with
  | declaration place => exact Nat.lt_of_lt_of_le h hdeclarations
  | statement place => exact Nat.lt_of_lt_of_le h hstatements
  | reExport name => exact h

/-- What other modules see of a module: its id, the names it declares, and what
it passes on. -/
def Module.face (module : Module) : String × List String × Table ReExport :=
  (module.id, module.declarations.keys, module.reExports)

theorem Module.face_mapReferences (f : Reference → Reference)
    (module : Module) :
    (module.mapReferences f).face = module.face := by
  rw [face, mapReferences, Table.keys_map]
  rfl

namespace Graph

def Keyed (graph : Graph) : Prop := ∀ module ∈ graph.modules, module.Keyed

/-- Every declaration is filed under its own name. -/
def FilesByName (graph : Graph) : Prop :=
  ∀ module ∈ graph.modules, ∀ entry ∈ module.declarations.entries,
    entry.2.name = entry.1

theorem Keyed.filesByName {graph : Graph} (h : graph.Keyed) :
    graph.FilesByName :=
  fun module hmodule _ hentry => (h module hmodule).declarations hentry

theorem holds_declaration {graph : Graph} {slot : Slot} {module : Module}
    {declaration : Declaration}
    (hmodule : graph.modules[slot.module]? = some module)
    (hat : module.declarations.at? slot.index = some declaration) :
    graph.Holds (.declaration slot) := by
  rw [Holds, declaration?, hmodule, Option.bind_some, hat]
  rfl

theorem holds_statement {graph : Graph} {slot : Slot} {module : Module}
    {statement : Statement}
    (hmodule : graph.modules[slot.module]? = some module)
    (hat : module.statements[slot.index]? = some statement) :
    graph.Holds (.statement slot) := by
  rw [Holds, statement?, hmodule, Option.bind_some, hat]
  rfl

theorem Declares.holds {graph : Graph} {slot : Slot} {name : String}
    (h : graph.Declares slot name) : graph.Holds (.declaration slot) := by
  obtain ⟨module, hmodule, hplace⟩ := h
  obtain ⟨declaration, hentry⟩ := Table.entry_of_place? hplace
  exact holds_declaration hmodule (Table.at?_of_entry hentry)

theorem Declares.declaration {graph : Graph} {slot : Slot} {name : String}
    (h : graph.Declares slot name) (hkeyed : graph.Keyed) :
    ∃ declaration,
      graph.declaration? slot = some declaration ∧ declaration.name = name := by
  obtain ⟨module, hmodule, hplace⟩ := h
  obtain ⟨declaration, hentry⟩ := Table.entry_of_place? hplace
  refine ⟨declaration, ?_, ?_⟩
  · rw [declaration?, hmodule, Option.bind_some, Table.at?_of_entry hentry]
  · exact (hkeyed module (List.mem_of_getElem? hmodule)).declarations
      (List.mem_of_getElem? hentry)

/-- Two declarations of one name in one module are the same. -/
theorem Declares.unique {graph : Graph} {one other : Slot} {name : String}
    (hone : graph.Declares one name) (hother : graph.Declares other name)
    (hmodule : one.module = other.module) : one = other := by
  obtain ⟨module, hmem, hplace⟩ := hone
  obtain ⟨module', hmem', hplace'⟩ := hother
  rw [hmodule, hmem', Option.some_inj] at hmem
  rw [← hmem, hplace', Option.some_inj] at hplace
  cases one
  cases other
  cases hmodule
  cases hplace
  rfl

theorem FilesByName.declares {graph : Graph} (h : graph.FilesByName)
    {slot : Slot} {declaration : Declaration}
    (hdeclaration : graph.declaration? slot = some declaration) :
    graph.Declares slot declaration.name := by
  rw [declaration?, Option.bind_eq_some_iff] at hdeclaration
  obtain ⟨module, hmodule, hat⟩ := hdeclaration
  rw [Table.at?, Option.map_eq_some_iff] at hat
  obtain ⟨⟨name, found⟩, hentry, rfl⟩ := hat
  have hname : found.name = name :=
    h module (List.mem_of_getElem? hmodule) _ (List.mem_of_getElem? hentry)
  rw [hname]
  exact ⟨module, hmodule, Table.place?_of_entry hentry⟩

theorem declares_of_declaration? {graph : Graph} (hkeyed : graph.Keyed)
    {slot : Slot} {declaration : Declaration}
    (h : graph.declaration? slot = some declaration) :
    graph.Declares slot declaration.name := hkeyed.filesByName.declares h

theorem lastIndex_map {α β : Type} (p : β → Bool) (f : α → β) (items : List α) :
    lastIndex p (items.map f) = lastIndex (fun item => p (f item)) items := by
  induction items with
  | nil => rfl
  | cons item items ih => rw [List.map_cons, lastIndex, lastIndex, ih]

/-- Which node an id means depends on the ids of the modules alone. -/
theorem indexOf?_eq (graph : Graph) (id : String) :
    graph.indexOf? id =
      lastIndex (fun other => other = id) (graph.modules.map Module.id) := by
  rw [lastIndex_map]
  rfl

theorem reExportCount_eq (graph : Graph) :
    graph.reExportCount =
      (graph.modules.map fun module => module.reExports.size).sum := by
  rw [reExportCount, List.sum_eq_foldl, List.foldl_map]

/-- A name that is followed leads to a declaration in the graph. -/
theorem followExport_declares {graph : Graph} {fuel : Nat}
    {seen : List (String × String)} {target name : String} {slot : Slot}
    (h : graph.followExport fuel seen target name = .ok slot) :
    ∃ found, graph.Declares slot found ∧ (graph.Keyed → found = name) := by
  induction fuel generalizing seen target name with
  | zero => cases h
  | succ fuel ih =>
      rw [followExport] at h
      split at h
      · cases h
      · next index _ =>
          split at h
          · cases h
          · next module hmodule =>
              split at h
              · next place hplace =>
                  cases h
                  exact ⟨name, ⟨module, hmodule, hplace⟩, fun _ => rfl⟩
              · split at h
                · cases h
                · next reExport hfind =>
                    split at h
                    · cases h
                    · next halias =>
                        split at h
                        · cases h
                        · obtain ⟨found, hdeclares, hname⟩ := ih h
                          refine ⟨found, hdeclares, fun hkeyed => ?_⟩
                          have hexported :=
                            (hkeyed module
                              (List.mem_of_getElem? hmodule)).reExports
                              (Table.mem_of_find? hfind)
                          simp only [ReExport.isAliased, decide_eq_true_eq,
                            ne_eq, Decidable.not_not] at halias
                          rw [hname hkeyed, ← halias, hexported]

theorem resolveName_declares {graph : Graph} {isGlobal : String → Bool}
    {index : Nat} {name : String} {slot : Slot}
    (h : graph.resolveName isGlobal index name = .ok (.declaration slot)) :
    ∃ found, graph.Declares slot found ∧ (graph.Keyed → found = name) := by
  rw [resolveName] at h
  split at h
  · cases h
  · next module hmodule =>
      split at h
      · next place hplace =>
          cases h
          exact ⟨name, ⟨module, hmodule, hplace⟩, fun _ => rfl⟩
      · split at h
        · next binding hfind =>
            split at h
            · cases h
            · next halias =>
                obtain ⟨_, hexport, hslot⟩ := map_ok h
                cases hslot
                obtain ⟨found, hdeclares, hname⟩ :=
                  followExport_declares hexport
                refine ⟨found, hdeclares, fun hkeyed => ?_⟩
                have hlocal :=
                  (hkeyed module (List.mem_of_getElem? hmodule)).importTable
                    (Table.mem_of_find? hfind)
                simp only [ImportBinding.isAliased, decide_eq_true_eq, ne_eq,
                  Decidable.not_not] at halias
                rw [hname hkeyed, ← halias, hlocal]
        · split at h <;> cases h

/-! ## What other modules see -/

section

variable {one other : Graph}
    (h : one.modules.map Module.face = other.modules.map Module.face)

include h

theorem indexOf?_congr (id : String) : one.indexOf? id = other.indexOf? id := by
  have hids := congrArg (List.map Prod.fst) h
  rw [List.map_map, List.map_map] at hids
  rw [indexOf?_eq, indexOf?_eq]
  exact congrArg _ hids

theorem reExportCount_congr : one.reExportCount = other.reExportCount := by
  have hsizes := congrArg (List.map fun face => face.2.2.size) h
  rw [List.map_map, List.map_map] at hsizes
  rw [reExportCount_eq, reExportCount_eq]
  exact congrArg List.sum hsizes

/-- Following a name looks at nothing else. -/
theorem followExport_congr (fuel : Nat) (seen : List (String × String))
    (target name : String) :
    one.followExport fuel seen target name =
      other.followExport fuel seen target name := by
  induction fuel generalizing seen target name with
  | zero => rfl
  | succ fuel ih =>
      rw [followExport, followExport, indexOf?_congr h]
      cases other.indexOf? target with
      | none => rfl
      | some index =>
          have hface := congrArg (fun faces => faces[index]?) h
          rw [List.getElem?_map, List.getElem?_map] at hface
          dsimp only
          cases hone : one.modules[index]? with
          | none =>
              rw [hone] at hface
              rw [Option.map_eq_none_iff.mp hface.symm]
          | some module =>
              rw [hone] at hface
              obtain ⟨found, hfound, hsame⟩ :=
                Option.map_eq_some_iff.mp hface.symm
              simp only [Module.face, Prod.mk.injEq] at hsame
              obtain ⟨hid, hkeys, hreExports⟩ := hsame
              simp only [hfound, Table.place?_eq_findIdx?, hid, hkeys,
                hreExports, ih]

theorem resolveExport_congr (target name : String) :
    one.resolveExport target name = other.resolveExport target name := by
  rw [resolveExport, resolveExport, reExportCount_congr h, followExport_congr h]

end

/-! ## Reading a linked graph as the graph it came from -/

section

variable (f : Nat → Reference → Reference) (graph : Graph)

theorem declares_mapReferences {slot : Slot} {name : String} :
    (graph.mapReferences f).Declares slot name ↔ graph.Declares slot name := by
  simp only [Declares, modules_mapReferences, Option.map_eq_some_iff]
  constructor
  · rintro ⟨_, ⟨module, hmodule, rfl⟩, hplace⟩
    exact ⟨module,
      hmodule, by rwa [Module.mapReferences, Table.place?_map] at hplace⟩
  · rintro ⟨module, hmodule, hplace⟩
    exact ⟨_,
      ⟨module, hmodule, rfl⟩, by rwa [Module.mapReferences, Table.place?_map]⟩

theorem keyed_mapReferences : (graph.mapReferences f).Keyed ↔ graph.Keyed := by
  have hmodule : ∀ (change : Reference → Reference) (module : Module),
      (module.mapReferences change).Keyed ↔ module.Keyed := by
    refine fun change module => ⟨fun h => ?_, fun h => ?_⟩
    · refine ⟨fun {name declaration} hmem => ?_, h.importTable, h.reExports⟩
      have hname : (declaration.mapReferences change).name = name :=
        h.declarations (Table.mem_entries_map hmem)
      exact hname
    · refine ⟨fun {name declaration} hmem => ?_, h.importTable, h.reExports⟩
      obtain ⟨old, hold, rfl⟩ := Table.exists_of_mem_entries_map hmem
      have hname : old.name = name := h.declarations hold
      exact hname
  simp only [Keyed, List.mem_iff_getElem?, modules_mapReferences,
    Option.map_eq_some_iff]
  constructor
  · rintro h module ⟨index, hindex⟩
    exact (hmodule _ _).mp (h _ ⟨index, module, hindex, rfl⟩)
  · rintro h _ ⟨index, module, hindex, rfl⟩
    exact (hmodule _ _).mpr (h module ⟨index, hindex⟩)

/-- What does not look at the references of modules is the same of all
modules. -/
theorem map_modules_mapReferences {α : Type} {look : Module → α}
    (h : ∀ change module, look (module.mapReferences change) = look module) :
    (graph.mapReferences f).modules.map look = graph.modules.map look := by
  refine List.ext_getElem? fun index => ?_
  rw [List.getElem?_map, modules_mapReferences, List.getElem?_map,
    Option.map_map]
  exact Option.map_congr fun module _ => h _ module

theorem indexOf?_mapReferences (id : String) :
    (graph.mapReferences f).indexOf? id = graph.indexOf? id :=
  indexOf?_congr
    (map_modules_mapReferences f graph Module.face_mapReferences) id

theorem reExportCount_mapReferences :
    (graph.mapReferences f).reExportCount = graph.reExportCount :=
  reExportCount_congr
    (map_modules_mapReferences f graph Module.face_mapReferences)

theorem followExport_mapReferences (fuel : Nat) (seen : List (String × String))
    (target name : String) :
    (graph.mapReferences f).followExport fuel seen target name =
      graph.followExport fuel seen target name :=
  followExport_congr
    (map_modules_mapReferences f graph Module.face_mapReferences) fuel seen
    target name

/-- What a name means does not depend on the targets that references have. -/
theorem resolveName_mapReferences (isGlobal : String → Bool) (index : Nat)
    (name : String) :
    (graph.mapReferences f).resolveName isGlobal index name =
      graph.resolveName isGlobal index name := by
  rw [resolveName, resolveName, modules_mapReferences]
  cases graph.modules[index]? with
  | none => rfl
  | some module =>
      simp only [Option.map_some, Module.mapReferences, Table.place?_map,
        resolveExport, reExportCount_mapReferences, followExport_mapReferences]

end

theorem LinksTo.declares {graph linked : Graph} {isGlobal : String → Bool}
    (h : graph.LinksTo isGlobal linked) {slot : Slot} {name : String} :
    linked.Declares slot name ↔ graph.Declares slot name := by
  rw [h.eq, declares_mapReferences]

theorem LinksTo.keyed {graph linked : Graph} {isGlobal : String → Bool}
    (h : graph.LinksTo isGlobal linked) : linked.Keyed ↔ graph.Keyed := by
  rw [h.eq, keyed_mapReferences]

end Graph

end Prune
