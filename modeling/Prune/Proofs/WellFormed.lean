import Mathlib.Logic.Relation
import Prune.Proofs.Dissected

/-!
# Modules are well formed

Linking and emission read the tables of a module without checking them: they
look up an item by its place, and a name by the table it is thought to be in.
`Module.WellFormed` is what they rely on, and `Module.wellFormed_ofSource` says
that a file which is taken apart gives nothing else.

An item of a file may add several things to a module. `Dissection.Grows` is one
of these additions, together with what was looked up before it was made, and
every item comes down to a chain of them (`grows_addItem`). So what holds of the
names and of the order of items (`Module.Arranged`) has to be kept by six
additions, and not by every kind of item. The lists of exports, which are worked
off when all items have been seen, are the only ones to add an item in the
middle. They add names that are passed on, and neither a declaration nor a
statement changes its place among its own kind by that.
-/

namespace Prune

/-! ## The items of a kind -/

def Item.declaration? : Item → Option Nat
  | .declaration place => some place
  | _ => none

def Item.statement? : Item → Option Nat
  | .statement place => some place
  | _ => none

def Item.reExport? : Item → Option String
  | .reExport name => some name
  | _ => none

namespace Dissection

section

variable {α : Type} {kind : Item → Option α} {item : Item}

theorem filterMap_insertItem_of_none (h : kind item = none) (items : List Item)
    (position : Nat) :
    (insertItem items position item).filterMap kind = items.filterMap kind := by
  rw [insertItem, List.filterMap_append, List.filterMap_cons_none h,
    ← List.filterMap_append, List.take_append_drop]

theorem filterMap_insertItem_perm {value : α} (h : kind item = some value)
    (items : List Item) (position : Nat) :
    ((insertItem items position item).filterMap kind).Perm
      (items.filterMap kind ++ [value]) := by
  rw [insertItem, List.filterMap_append, List.filterMap_cons_some h]
  refine List.perm_middle.trans ?_
  rw [← List.filterMap_append, List.take_append_drop]
  exact (List.perm_append_singleton _ _).symm

end

end Dissection

/-! ## Names and items -/

/-- A module whose names are declared, or imported or passed on, and whose items
are what its tables hold: declarations and statements in the order of their
tables, each once, and names that are passed on each once. -/
structure Module.Arranged (module : Module) : Prop where
  names : ∀ name ∈ module.declarations.keys,
    name ∉ module.importTable.keys ∧ name ∉ module.reExports.keys
  declarations : module.items.filterMap Item.declaration? =
    List.range module.declarations.size
  statements : module.items.filterMap Item.statement? =
    List.range module.statements.length
  reExports : (module.items.filterMap Item.reExport?).Perm module.reExports.keys

namespace Module.Arranged

variable {module : Module}

theorem empty (id : String) (isEntry : Bool) :
    (Module.empty id isEntry).Arranged :=
  ⟨fun _ h => absurd h List.not_mem_nil, rfl, rfl, List.Perm.nil⟩

theorem insert_declaration (h : module.Arranged) {declaration : Declaration}
    (hundeclared : declaration.name ∉ module.declarations.keys)
    (hunimported : declaration.name ∉ module.importTable.keys)
    (hunpassed : declaration.name ∉ module.reExports.keys) :
    { module with
      declarations := module.declarations.insert declaration.name declaration
      items :=
        module.items ++
          [Item.declaration module.declarations.size] }.Arranged := by
  constructor
  case names =>
    intro name hname
    rw [Table.keys_insert hundeclared, List.mem_append,
      List.mem_singleton] at hname
    rcases hname with hold | rfl
    · exact h.names name hold
    · exact ⟨hunimported, hunpassed⟩
  case declarations =>
    rw [List.filterMap_append, h.declarations, Table.size_insert hundeclared,
      List.range_succ]
    rfl
  case statements =>
    simpa [List.filterMap_cons, Item.statement?] using h.statements
  case reExports =>
    simpa [List.filterMap_cons, Item.reExport?] using h.reExports

theorem append_statement (h : module.Arranged) (statement : Statement) :
    { module with
      statements := module.statements ++ [statement]
      items :=
        module.items ++
          [Item.statement module.statements.length] }.Arranged := by
  constructor
  case names => exact h.names
  case declarations =>
    simpa [List.filterMap_cons, Item.declaration?] using h.declarations
  case statements =>
    rw [List.filterMap_append, h.statements, List.length_append,
      List.length_singleton, List.range_succ]
    rfl
  case reExports =>
    simpa [List.filterMap_cons, Item.reExport?] using h.reExports

theorem insert_import (h : module.Arranged) {binding : ImportBinding}
    (hundeclared : binding.localName ∉ module.declarations.keys)
    (hunimported : binding.localName ∉ module.importTable.keys) :
    { module with
      importTable :=
        module.importTable.insert binding.localName binding }.Arranged := by
  refine ⟨fun name hname => ⟨fun himported => ?_, (h.names name hname).2⟩,
    h.declarations, h.statements, h.reExports⟩
  rw [Table.keys_insert hunimported, List.mem_append,
    List.mem_singleton] at himported
  rcases himported with hold | rfl
  · exact (h.names name hname).1 hold
  · exact hundeclared hname

/-- A name that is passed on may come anywhere among the items. -/
theorem insert_reExport (h : module.Arranged) (reExport : ReExport)
    (position : Nat) (hunpassed : reExport.exported ∉ module.reExports.keys)
    (hundeclared : reExport.exported ∉ module.declarations.keys) :
    { module with
      reExports := module.reExports.insert reExport.exported reExport
      items :=
        Dissection.insertItem module.items position
          (.reExport reExport.exported) }.Arranged := by
  constructor
  case names =>
    refine fun name hname => ⟨(h.names name hname).1, fun hpassed => ?_⟩
    rw [Table.keys_insert hunpassed, List.mem_append,
      List.mem_singleton] at hpassed
    rcases hpassed with hold | rfl
    · exact (h.names name hname).2 hold
    · exact hundeclared hname
  case declarations =>
    rw [Dissection.filterMap_insertItem_of_none rfl, h.declarations]
  case statements =>
    rw [Dissection.filterMap_insertItem_of_none rfl, h.statements]
  case reExports =>
    have hpassed : Item.reExport? (.reExport reExport.exported) =
        some reExport.exported := rfl
    rw [Table.keys_insert hunpassed]
    exact (Dissection.filterMap_insertItem_perm hpassed _ _).trans
      (h.reExports.append_right _)

theorem map_declarations (h : module.Arranged)
    (f : String → Declaration → Declaration) :
    { module with declarations := module.declarations.map f }.Arranged := by
  refine ⟨?_, ?_, h.statements, h.reExports⟩
  · rw [Table.keys_map]
    exact h.names
  · rw [Table.size_map]
    exact h.declarations

end Module.Arranged

/-! ## What an item adds -/

namespace Dissection

open Relation

/-- One addition to a dissection: a thing that an item adds, and what has been
checked before. -/
inductive Grows (dissection : Dissection) : Dissection → Prop where
  | declared (declaration : Declaration)
      (undeclared : declaration.name ∉ dissection.module.declarations.keys)
      (unimported : declaration.name ∉ dissection.module.importTable.keys)
      (unpassed : declaration.name ∉ dissection.module.reExports.keys) :
      Grows dissection
        { dissection with
          module :=
            { dissection.module with
              declarations :=
                dissection.module.declarations.insert declaration.name
                  declaration
              items :=
                dissection.module.items ++
                  [.declaration dissection.module.declarations.size] } }
  | stated (statement : Statement) :
      Grows dissection
        { dissection with
          module :=
            { dissection.module with
              statements := dissection.module.statements ++ [statement]
              items :=
                dissection.module.items ++
                  [.statement dissection.module.statements.length] } }
  | imported (binding : ImportBinding)
      (undeclared : binding.localName ∉ dissection.module.declarations.keys)
      (unimported : binding.localName ∉ dissection.module.importTable.keys) :
      Grows dissection
        { dissection with
          module :=
            { dissection.module with
              importTable :=
                dissection.module.importTable.insert binding.localName
                  binding } }
  | passedOn (reExport : ReExport)
      (unpassed : reExport.exported ∉ dissection.module.reExports.keys)
      (undeclared : reExport.exported ∉ dissection.module.declarations.keys) :
      Grows dissection
        { dissection with
          module :=
            { dissection.module with
              reExports :=
                dissection.module.reExports.insert reExport.exported reExport
              items :=
                dissection.module.items ++ [.reExport reExport.exported] } }
  | listed (entry : ListedExport) :
      Grows dissection
        { dissection with listed := dissection.listed ++ [entry] }
  | noted (specifier target : String) :
      Grows dissection (dissection.noteImport specifier target)

theorem Grows.arranged {dissection next : Dissection}
    (hgrows : dissection.Grows next) (h : dissection.module.Arranged) :
    next.module.Arranged := by
  cases hgrows with
  | declared _ undeclared unimported unpassed =>
      exact h.insert_declaration undeclared unimported unpassed
  | stated statement => exact h.append_statement statement
  | imported _ undeclared unimported =>
      exact h.insert_import undeclared unimported
  | passedOn reExport unpassed undeclared =>
      have hlast : insertItem dissection.module.items
          dissection.module.items.length
          (.reExport reExport.exported) =
            dissection.module.items ++ [.reExport reExport.exported] := by
        rw [insertItem, List.take_length, List.drop_length]
      rw [← hlast]
      exact h.insert_reExport reExport _ unpassed undeclared
  | listed => exact h
  | noted => exact ⟨h.names, h.declarations, h.statements, h.reExports⟩

theorem arranged_of_grows {dissection next : Dissection}
    (hgrown : ReflTransGen Grows dissection next)
    (h : dissection.module.Arranged) : next.module.Arranged := by
  induction hgrown with
  | refl => exact h
  | tail _ hgrows ih => exact hgrows.arranged ih

section

variable {subject : Subject} {dissection next : Dissection}

theorem grows_declare {lo exportLo hi : Nat} {name : String} {exported : Bool}
    {uses : List String}
    (h : dissection.declare subject lo exportLo hi name exported uses =
      .ok next) :
    dissection.Grows next := by
  obtain ⟨hundeclared, hunimported, hunpassed, rfl⟩ := declare_ok h
  exact .declared
    ⟨name, subject.text lo hi, plainText subject lo exportLo hi, exported,
      uses.map Reference.named⟩
    hundeclared hunimported hunpassed

theorem grows_addDeclaration {item : Script.TopItem} {declaration : Script.Stmt}
    {exported : Bool}
    (h : dissection.addDeclaration subject item declaration exported =
      .ok next) :
    dissection.Grows next := by
  rw [addDeclaration] at h
  obtain ⟨_, -, h⟩ := bind_ok h
  exact grows_declare h

theorem grows_addImported {target : String} {specifier : Script.ImportSpecifier}
    (h : dissection.addImported subject target specifier = .ok next) :
    dissection.Grows next := by
  obtain ⟨localName, imported, -, hundeclared, hunimported, rfl⟩ :=
    addImported_ok h
  exact .imported
    ⟨localName, imported.elim localName Script.ExportName.value, target⟩
    hundeclared hunimported

theorem grows_addPassedOn {span : Script.Span} {target : String}
    {specifier : Script.ExportSpecifier}
    (h : dissection.addPassedOn subject span target specifier = .ok next) :
    dissection.Grows next := by
  obtain ⟨inner, exported, name, -, -, hunpassed, hundeclared, rfl⟩ :=
    addPassedOn_ok h
  exact .passedOn ⟨name, inner.value, target⟩ hunpassed hundeclared

theorem grows_addListed {span : Script.Span}
    {specifier : Script.ExportSpecifier}
    (h : dissection.addListed subject span specifier = .ok next) :
    dissection.Grows next := by
  obtain ⟨inner, exported, -, -, rfl⟩ := addListed_ok h
  exact .listed _

/-- Specifiers that are worked off one by one. -/
theorem grows_foldlM {α : Type} {specifiers : List α}
    {add : Dissection → α → Except Error Dissection}
    (hadd : ∀ {before specifier after},
      add before specifier = .ok after → before.Grows after)
    (h : specifiers.foldlM add dissection = .ok next) :
    ReflTransGen Grows dissection next :=
  foldlM_induction (P := ReflTransGen Grows dissection) h .refl
    fun _ _ _ _ hstep hbefore => hbefore.tail (hadd hstep)

theorem grows_addItem {item : Script.TopItem}
    (h : dissection.addItem subject item = .ok next) :
    ReflTransGen Grows dissection next := by
  rw [addItem] at h
  split at h
  · dsimp only at h
    split at h
    · cases h
    · obtain ⟨target, -, h⟩ := bind_ok h
      obtain ⟨last, hlast, h⟩ := bind_ok h
      cases h
      exact (grows_foldlM grows_addImported hlast).tail (.noted _ _)
  · obtain ⟨target, -, h⟩ := bind_ok h
    obtain ⟨last, hlast, h⟩ := bind_ok h
    cases h
    exact (grows_foldlM grows_addPassedOn hlast).tail (.noted _ _)
  · exact grows_foldlM grows_addListed h
  · exact .single (grows_addDeclaration h)
  · split at h <;> exact .single (grows_declare h)
  · obtain ⟨_, -, h⟩ := bind_ok h
    exact .single (grows_declare h)
  · exact .single (grows_declare h)
  · cases h
  · cases h
  · cases h
  · cases h
  all_goals first
    | exact .single (grows_addDeclaration h)
    | (cases h; exact .single (.stated _))

theorem arranged_exportListed {state after : Module × Nat}
    {entry : ListedExport} (hafter : exportListed state entry = .ok after)
    (h : state.1.Arranged) : after.1.Arranged := by
  obtain ⟨-, rfl⟩ | ⟨-, -, rfl⟩ | ⟨binding, -, hundeclared, hunpassed, rfl⟩ :=
    exportListed_cases hafter
  · exact h.map_declarations _
  · exact h
  · exact h.insert_reExport ⟨entry.name, binding.imported, binding.target⟩
      _ hunpassed hundeclared

end

end Dissection

/-! ## Modules that come from files -/

/-- What linking and emission rely on: besides what its names and items are,
that a module files everything under its own name, has a clause for all that it
takes or passes on, and exports nothing unless it is an entry. -/
structure Module.WellFormed (module : Module) :
    Prop extends module.Arranged where
  keyed : module.Keyed
  imported : ∀ {name binding}, (name, binding) ∈ module.importTable.entries →
    binding.target ∈ module.imports.map Import.target
  passedOn : ∀ {name reExport}, (name, reExport) ∈ module.reExports.entries →
    reExport.target ∈ module.imports.map Import.target
  hidden : module.isEntry = false → ∀ {name declaration},
    (name, declaration) ∈ module.declarations.entries →
    declaration.exported = false

namespace Dissection

open Relation

theorem arranged_foldlM_addItem {subject : Subject}
    {items : List Script.TopItem} {dissection last : Dissection}
    (hlast : items.foldlM (addItem subject) dissection = .ok last)
    (h : dissection.module.Arranged) : last.module.Arranged := by
  refine foldlM_induction
    (P := fun dissection : Dissection => dissection.module.Arranged) hlast h ?_
  exact fun _ _ _ _ hstep hbefore =>
    arranged_of_grows (grows_addItem hstep) hbefore

theorem arranged_finish {dissection : Dissection} {module : Module}
    (hmodule : dissection.finish = .ok module)
    (h : dissection.module.Arranged) :
    module.Arranged ∧ (module.isEntry = false → ∀ {name declaration},
      (name, declaration) ∈ module.declarations.entries →
      declaration.exported = false) := by
  obtain ⟨shown, inserted, hshown, hmodule⟩ := finish_cases hmodule
  have harranged : shown.Arranged :=
    foldlM_induction
      (P := fun state : Module × Nat => state.1.Arranged) hshown h
      fun _ _ _ _ hstep hbefore => arranged_exportListed hstep hbefore
  obtain ⟨hentry, rfl⟩ | ⟨-, rfl⟩ := hmodule
  · refine ⟨harranged, fun hother => ?_⟩
    cases hentry.symm.trans hother
  · refine ⟨harranged.map_declarations _, fun _ name declaration hmem => ?_⟩
    obtain ⟨old, -, rfl⟩ := Table.exists_of_mem_entries_map hmem
    rfl

end Dissection

theorem Module.arranged_ofSource {subject : Subject} {isEntry : Bool}
    {module : Module} (h : Module.ofSource subject isEntry = .ok module) :
    module.Arranged ∧ (module.isEntry = false → ∀ {name declaration},
      (name, declaration) ∈ module.declarations.entries →
      declaration.exported = false) := by
  rw [ofSource] at h
  obtain ⟨dissection, hdissection, h⟩ := bind_ok h
  exact Dissection.arranged_finish h
    (Dissection.arranged_foldlM_addItem hdissection
      (Arranged.empty subject.path isEntry))

theorem Module.FromFile.arranged {module : Module} (h : module.FromFile) :
    module.Arranged := by
  obtain ⟨config, path, content, isEntry, bytesBefore, h⟩ := h
  obtain ⟨file, -, hmodule⟩ := exists_file_of_ofText h
  exact (arranged_ofSource hmodule).1

/-- A file that is taken apart, as an entry or not, gives a module that is well
formed. -/
theorem Module.wellFormed_ofSource {subject : Subject} {isEntry : Bool}
    {module : Module} (h : Module.ofSource subject isEntry = .ok module) :
    module.id = subject.path ∧ module.isEntry = isEntry ∧
    module.WellFormed := by
  have hdissected := dissected_ofSource h
  obtain ⟨harranged, hhidden⟩ := arranged_ofSource h
  refine ⟨hdissected.id, hdissected.isEntry, harranged, hdissected.keyed,
    fun hmem => ?_, fun hmem => ?_, hhidden⟩
  · exact (hdissected.taken hmem).resolve_right List.not_mem_nil
  · exact (hdissected.passedOn hmem).resolve_right List.not_mem_nil

/-- A file that lists its exports first: one that it declares and one that it
imports. -/
def listsFirst : Except Script.Unreadable Script.SourceFile :=
  Script.SourceFile.read ⟨false, true⟩
    "export{f,g};import{g}from'./b';let f=eval;export{h}from'./c';f()".toList

theorem items_listsFirst :
    (listsFirst.toOption.bind fun file =>
      (Module.ofSource ⟨.default, "/a.ts", file⟩ true).toOption.map
        Module.items) =
        some [.reExport "g", .declaration 0, .reExport "h", .statement 0] := by
  decide +kernel

theorem Module.wellFormed_ofSource_listsFirst :
    ∃ file module, listsFirst = .ok file ∧
      Module.ofSource ⟨.default, "/a.ts", file⟩ true = .ok module ∧
      module.items =
        [.reExport "g", .declaration 0, .reExport "h", .statement 0] ∧
      module.WellFormed := by
  have hitems := items_listsFirst
  cases hfile : listsFirst with
  | error unreadable => rw [hfile] at hitems; cases hitems
  | ok file =>
      rw [hfile] at hitems
      dsimp only [Except.toOption, Option.bind_some] at hitems
      cases hmodule : Module.ofSource ⟨.default, "/a.ts", file⟩ true with
      | error error => rw [hmodule] at hitems; cases hitems
      | ok module =>
          rw [hmodule] at hitems
          exact ⟨file, module, rfl, hmodule, Option.some.inj hitems,
            (Module.wellFormed_ofSource hmodule).2.2⟩

end Prune
