import Prune.Dissection
import Prune.Proofs.Resolution

/-!
# What is known of a module taken from a file

A module that comes out of `Module.ofText` was put together item by item, and
`Module.Dissected` is what every item keeps: the module has the id it was read
under, its tables file every entry under its own name and hold what its items
stand for, and its clauses lead where their specifiers resolve to. The names it
takes or passes on come from modules that its clauses name; inside an item that
is not known yet, since the names of a clause are entered before the clause is
noted, so the invariant speaks of the targets that are still `ahead`.
-/

namespace Prune

/-- What holds of a module on the way, except that the clauses of some targets
are still to come. -/
structure Module.Dissected (config : Config) (path : String) (isEntry : Bool)
    (ahead : List String) (module : Module) : Prop where
  id : module.id = path
  isEntry : module.isEntry = isEntry
  keyed : module.Keyed
  resolved : ∀ clause ∈ module.imports,
    Specifier.resolve config path clause.specifier = .ok clause.target
  taken : ∀ {name binding}, (name, binding) ∈ module.importTable.entries →
    binding.target ∈ module.imports.map Import.target ∨ binding.target ∈ ahead
  passedOn : ∀ {name reExport}, (name, reExport) ∈ module.reExports.entries →
    reExport.target ∈ module.imports.map Import.target ∨ reExport.target ∈ ahead
  items : ∀ item ∈ module.items, module.Holds item

namespace Module.Dissected

variable {config : Config} {path : String} {isEntry : Bool}
    {ahead : List String} {module : Module}

theorem empty : (Module.empty path isEntry).Dissected config path isEntry [] :=
  ⟨rfl, rfl,
    ⟨fun h => absurd h List.not_mem_nil, fun h => absurd h List.not_mem_nil,
    fun h => absurd h List.not_mem_nil⟩, fun _ h => absurd h List.not_mem_nil,
    fun h => absurd h List.not_mem_nil, fun h => absurd h List.not_mem_nil,
    fun _ h => absurd h List.not_mem_nil⟩

/-- What changes nothing but items, statements and declarations. -/
theorem of_declarations {other : Module}
    (h : module.Dissected config path isEntry ahead)
    (hid : other.id = module.id) (hentry : other.isEntry = module.isEntry)
    (himports : other.imports = module.imports)
    (htaken : other.importTable = module.importTable)
    (hpassed : other.reExports = module.reExports)
    (hkeyed : ∀ {name declaration}, (name, declaration) ∈
      other.declarations.entries → declaration.name = name)
    (hitems : ∀ item ∈ other.items, other.Holds item) :
    other.Dissected config path isEntry ahead := by
  refine ⟨hid.trans h.id, hentry.trans h.isEntry, ⟨hkeyed, ?_, ?_⟩, ?_, ?_,
    ?_, hitems⟩
  · rw [htaken]; exact h.keyed.importTable
  · rw [hpassed]; exact h.keyed.reExports
  · rw [himports]; exact h.resolved
  · rw [htaken, himports]; exact h.taken
  · rw [hpassed, himports]; exact h.passedOn

theorem map_declarations (h : module.Dissected config path isEntry ahead)
    {f : String → Declaration → Declaration}
    (hname : ∀ name declaration, (f name declaration).name = declaration.name) :
    { module with declarations := module.declarations.map f }.Dissected config
      path isEntry
      ahead := by
  refine h.of_declarations rfl rfl rfl rfl rfl
    (fun {name declaration} hmem => ?_)
    fun item hitem => ?_
  · obtain ⟨old, hold, rfl⟩ := Table.exists_of_mem_entries_map hmem
    rw [hname]
    exact h.keyed.declarations hold
  · exact (h.items item hitem).mono (Nat.le_of_eq (Table.size_map _ _).symm)
      (Nat.le_refl _)

theorem insert_import (h : module.Dissected config path isEntry ahead)
    {name : String} {binding : ImportBinding} (hname : binding.localName = name)
    (htarget : binding.target ∈ ahead) :
    { module with
      importTable := module.importTable.insert name binding }.Dissected
      config path isEntry ahead := by
  refine ⟨h.id, h.isEntry,
    ⟨h.keyed.declarations, fun {name other} hmem => ?_, h.keyed.reExports⟩,
    h.resolved, fun {name other} hmem => ?_, h.passedOn, fun item hitem =>
      (h.items item hitem).mono (Nat.le_refl _) (Nat.le_refl _)⟩
  · rcases Table.of_mem_entries_insert hmem with ⟨rfl, rfl⟩ | hold
    · exact hname
    · exact h.keyed.importTable hold
  · rcases Table.of_mem_entries_insert hmem with ⟨rfl, rfl⟩ | hold
    · exact Or.inr htarget
    · exact h.taken hold

theorem insert_reExport (h : module.Dissected config path isEntry ahead)
    {name : String} {reExport : ReExport} {items : List Item}
    (hname : reExport.exported = name)
    (htarget : reExport.target ∈ module.imports.map Import.target ∨
      reExport.target ∈ ahead)
    (hitems : ∀ item ∈ items, item ∈ module.items ∨ item = .reExport name) :
    { module with
      reExports := module.reExports.insert name reExport
      items := items }.Dissected config path isEntry ahead := by
  refine ⟨h.id, h.isEntry,
    ⟨h.keyed.declarations, h.keyed.importTable, fun {name other} hmem => ?_⟩,
    h.resolved, h.taken, fun {name other} hmem => ?_, fun item hitem => ?_⟩
  · rcases Table.of_mem_entries_insert hmem with ⟨rfl, rfl⟩ | hold
    · exact hname
    · exact h.keyed.reExports hold
  · rcases Table.of_mem_entries_insert hmem with ⟨rfl, rfl⟩ | hold
    · exact htarget
    · exact h.passedOn hold
  · rcases hitems item hitem with hold | rfl
    · exact (h.items item hold).mono (Nat.le_refl _) (Nat.le_refl _)
    · trivial

/-- More may be ahead than there is. -/
theorem ahead_cons (h : module.Dissected config path isEntry [])
    (target : String) :
    module.Dissected config path isEntry [target] :=
  ⟨h.id, h.isEntry, h.keyed, h.resolved,
    fun hmem => Or.inl ((h.taken hmem).resolve_right List.not_mem_nil),
    fun hmem =>
      Or.inl ((h.passedOn hmem).resolve_right List.not_mem_nil), h.items⟩

end Module.Dissected

namespace Dissection

variable {subject : Subject} {isEntry : Bool} {ahead : List String}
    {dissection next : Dissection}

/-- What holds of the module of a dissection. -/
def Keeps (subject : Subject) (isEntry : Bool) (ahead : List String)
    (dissection : Dissection) :
    Prop :=
  dissection.module.Dissected subject.config subject.path isEntry ahead

theorem Keeps.noteImport {specifier target : String}
    (htarget : Specifier.resolve subject.config subject.path specifier =
      .ok target)
    (h : dissection.Keeps subject isEntry [target]) :
    (dissection.noteImport specifier target).Keeps subject isEntry [] := by
  have hnoted : ∀ {other},
      other ∈ dissection.module.imports.map Import.target ∨ other ∈ [target] →
        other ∈ (dissection.noteImport specifier target).module.imports.map
          Import.target ∨
          other ∈ [] := by
    intro other hother
    refine Or.inl ?_
    rw [Dissection.noteImport, List.map_append, List.mem_append]
    exact hother
  refine ⟨h.id, h.isEntry,
    ⟨h.keyed.declarations, h.keyed.importTable, h.keyed.reExports⟩,
    fun clause hclause => ?_, fun hmem => hnoted (h.taken hmem),
    fun hmem => hnoted (h.passedOn hmem), fun item hitem =>
      (h.items item hitem).mono (Nat.le_refl _) (Nat.le_refl _)⟩
  rcases List.mem_append.mp hclause with hold | hlast
  · exact h.resolved clause hold
  · rw [List.mem_singleton.mp hlast]
    exact htarget

/-! ## What an addition checks and changes -/

theorem notMem_of_refuseDeclared {name : String} {done : Unit}
    (h : dissection.refuseDeclared name = .ok done) :
    name ∉ dissection.module.declarations.keys ∧
    name ∉ dissection.module.importTable.keys := by
  rw [refuseDeclared] at h
  split at h
  · cases h
  · next hfree =>
      rw [Bool.or_eq_true, Table.contains_iff, Table.contains_iff,
        not_or] at hfree
      exact hfree

theorem notMem_of_refusePassedOn {name : String} {done : Unit}
    (h : dissection.refusePassedOn name = .ok done) :
    name ∉ dissection.module.reExports.keys := by
  rw [refusePassedOn] at h
  split at h
  · cases h
  · next hfree =>
      rw [Table.contains_iff] at hfree
      exact hfree

/-- A declaration is added at the end, under a name that is not declared,
imported or passed on. -/
theorem declare_ok {lo exportLo hi : Nat} {name : String} {exported : Bool}
    {uses : List String}
    (h : dissection.declare subject lo exportLo hi name exported uses =
      .ok next) :
    name ∉ dissection.module.declarations.keys ∧
    name ∉ dissection.module.importTable.keys ∧
      name ∉ dissection.module.reExports.keys ∧
      next = { dissection with
        module := { dissection.module with
          declarations := dissection.module.declarations.insert name
            ⟨name, subject.text lo hi,
              plainText subject lo exportLo hi, exported,
              uses.map Reference.named⟩
          items :=
            dissection.module.items ++
              [.declaration dissection.module.declarations.size] } } := by
  rw [declare] at h
  obtain ⟨_, hundeclared, h⟩ := bind_ok h
  obtain ⟨_, hunpassed, h⟩ := bind_ok h
  cases h
  obtain ⟨hundeclared, hunimported⟩ := notMem_of_refuseDeclared hundeclared
  exact ⟨hundeclared, hunimported, notMem_of_refusePassedOn hunpassed, rfl⟩

/-- Only a name can be imported, and it is neither declared nor imported
before. -/
theorem addImported_ok {target : String} {specifier : Script.ImportSpecifier}
    (h : dissection.addImported subject target specifier = .ok next) :
    ∃ localName imported, specifier = .named localName imported ∧
      localName ∉ dissection.module.declarations.keys ∧
      localName ∉ dissection.module.importTable.keys ∧
      next = { dissection with
        module := { dissection.module with
          importTable := dissection.module.importTable.insert localName
            ⟨localName, imported.elim localName Script.ExportName.value, target⟩
            } } := by
  cases specifier with
  | named localName imported =>
      rw [addImported] at h
      obtain ⟨_, hfree, h⟩ := bind_ok h
      cases h
      obtain ⟨hundeclared, hunimported⟩ := notMem_of_refuseDeclared hfree
      exact ⟨localName, imported, rfl, hundeclared, hunimported, rfl⟩
  | default span localName => cases h
  | everything span localName => cases h

/-- Only a name can be passed on, and it is neither passed on nor declared
before. -/
theorem addPassedOn_ok {span : Script.Span} {target : String}
    {specifier : Script.ExportSpecifier}
    (h : dissection.addPassedOn subject span target specifier = .ok next) :
    ∃ inner exported name, specifier = .named inner exported ∧
      exported.elim inner.value Script.ExportName.value = name ∧
      name ∉ dissection.module.reExports.keys ∧
      name ∉ dissection.module.declarations.keys ∧
      next = { dissection with
        module := { dissection.module with
          reExports :=
            dissection.module.reExports.insert name ⟨name, inner.value, target⟩
          items := dissection.module.items ++ [.reExport name] } } := by
  cases specifier with
  | named inner exported =>
      rw [addPassedOn] at h
      split at h
      · cases h
      · next hfree =>
          cases h
          rw [Bool.or_eq_true, Table.contains_iff, Table.contains_iff,
            not_or] at hfree
          exact ⟨inner, exported, _, rfl, rfl, hfree.1, hfree.2, rfl⟩
  | default name => cases h
  | everything name => cases h

/-- Only a name can be listed, and under itself. -/
theorem addListed_ok {span : Script.Span} {specifier : Script.ExportSpecifier}
    (h : dissection.addListed subject span specifier = .ok next) :
    ∃ inner exported, specifier = .named inner exported ∧
      exported.elim inner.value Script.ExportName.value = inner.value ∧
      next = { dissection with
        listed :=
          dissection.listed ++
            [⟨dissection.module.items.length, inner.value⟩] } := by
  cases specifier with
  | named inner exported =>
      rw [addListed] at h
      split at h
      · next hsame =>
          cases h
          exact ⟨inner, exported, rfl, hsame, rfl⟩
      · cases h
  | default name => cases h
  | everything name => cases h

/-! ## What every item keeps -/

theorem Keeps.declare {lo exportLo hi : Nat} {name : String} {exported : Bool}
    {uses : List String}
    (hnext : dissection.declare subject lo exportLo hi name exported
      uses = .ok next)
    (h : dissection.Keeps subject isEntry ahead) :
    next.Keeps subject isEntry ahead := by
  obtain ⟨hundeclared, -, -, rfl⟩ := declare_ok hnext
  refine h.of_declarations rfl rfl rfl rfl rfl
    (fun {other declaration} hmem => ?_)
    fun item hitem => ?_
  · rcases Table.of_mem_entries_insert hmem with ⟨rfl, rfl⟩ | hold
    · rfl
    · exact h.keyed.declarations hold
  · have hsize := Table.size_insert hundeclared
    rcases List.mem_append.mp hitem with hold | hlast
    · refine (h.items item hold).mono ?_ (Nat.le_refl _)
      rw [hsize]
      exact Nat.le_succ _
    · rw [List.mem_singleton.mp hlast, Module.Holds, hsize]
      exact Nat.lt_succ_self _

theorem Keeps.addDeclaration {item : Script.TopItem} {declaration : Script.Stmt}
    {exported : Bool}
    (hnext : dissection.addDeclaration subject item declaration
      exported = .ok next)
    (h : dissection.Keeps subject isEntry ahead) :
    next.Keeps subject isEntry ahead := by
  rw [Dissection.addDeclaration] at hnext
  obtain ⟨_, -, hnext⟩ := bind_ok hnext
  exact h.declare hnext

theorem Keeps.addImported {target : String} {specifier : Script.ImportSpecifier}
    (hnext : dissection.addImported subject target specifier = .ok next)
    (h : dissection.Keeps subject isEntry [target]) :
    next.Keeps subject isEntry [target] := by
  obtain ⟨localName, imported, -, -, -, rfl⟩ := addImported_ok hnext
  exact Module.Dissected.insert_import h rfl (List.mem_singleton.mpr rfl)

theorem Keeps.addPassedOn {span : Script.Span} {target : String}
    {specifier : Script.ExportSpecifier}
    (hnext : dissection.addPassedOn subject span target specifier = .ok next)
    (h : dissection.Keeps subject isEntry [target]) :
    next.Keeps subject isEntry [target] := by
  obtain ⟨inner, exported, name, -, -, -, -, rfl⟩ := addPassedOn_ok hnext
  refine Module.Dissected.insert_reExport h rfl
    (Or.inr (List.mem_singleton.mpr rfl)) ?_
  intro item hitem
  exact (List.mem_append.mp hitem).imp_right List.mem_singleton.mp

theorem Keeps.addListed {span : Script.Span}
    {specifier : Script.ExportSpecifier}
    (hnext : dissection.addListed subject span specifier = .ok next)
    (h : dissection.Keeps subject isEntry ahead) :
    next.Keeps subject isEntry ahead := by
  obtain ⟨inner, exported, -, -, rfl⟩ := addListed_ok hnext
  exact h

theorem Keeps.addStatement {item : Script.TopItem}
    (h : dissection.Keeps subject isEntry ahead) :
    (dissection.addStatement subject item).Keeps subject isEntry ahead := by
  refine h.of_declarations rfl rfl rfl rfl rfl h.keyed.declarations
    fun other hother => ?_
  have hlength : ∀ statement,
      (dissection.module.statements ++ [statement]).length =
      dissection.module.statements.length + 1 := fun _ => List.length_append
  rcases List.mem_append.mp hother with hold | hlast
  · refine (h.items other hold).mono (Nat.le_refl _) ?_
    exact Nat.le_trans (Nat.le_succ _) (Nat.le_of_eq (hlength _).symm)
  · rw [List.mem_singleton.mp hlast]
    exact Nat.lt_of_lt_of_eq (Nat.lt_succ_self _) (hlength _).symm

/-- A clause that takes names from a module, and is noted after its names. -/
theorem Keeps.addClause {α : Type} {specifiers : List α}
    {specifier target : String} {add : Dissection → α → Except Error Dissection}
    (hadd : ∀ {before item after},
      add before item = .ok after → before.Keeps subject isEntry [target] →
      after.Keeps subject isEntry [target])
    (htarget : Specifier.resolve subject.config subject.path specifier =
      .ok target)
    {last : Dissection} (hlast : specifiers.foldlM add dissection = .ok last)
    (h : dissection.Keeps subject isEntry []) :
    (last.noteImport specifier target).Keeps subject isEntry [] := by
  have hstart : dissection.Keeps subject isEntry [target] :=
    Module.Dissected.ahead_cons h target
  exact (foldlM_induction hlast hstart fun _ _ _ _ hstep hbefore =>
    hadd hstep hbefore).noteImport
      htarget

theorem Keeps.addItem {item : Script.TopItem}
    (hnext : dissection.addItem subject item = .ok next)
    (h : dissection.Keeps subject isEntry []) :
    next.Keeps subject isEntry [] := by
  rw [Dissection.addItem] at hnext
  split at hnext
  · dsimp only at hnext
    split at hnext
    · cases hnext
    · obtain ⟨target, htarget, hnext⟩ := bind_ok hnext
      obtain ⟨last, hlast, hnext⟩ := bind_ok hnext
      cases hnext
      exact h.addClause (fun hstep hbefore => hbefore.addImported hstep)
        htarget hlast
  · obtain ⟨target, htarget, hnext⟩ := bind_ok hnext
    obtain ⟨last, hlast, hnext⟩ := bind_ok hnext
    cases hnext
    exact h.addClause (fun hstep hbefore => hbefore.addPassedOn hstep)
      htarget hlast
  · exact foldlM_induction hnext h fun _ _ _ _ hstep hbefore =>
      hbefore.addListed hstep
  · exact h.addDeclaration hnext
  · split at hnext <;> exact h.declare hnext
  · obtain ⟨_, -, hnext⟩ := bind_ok hnext
    exact h.declare hnext
  · exact h.declare hnext
  · cases hnext
  · cases hnext
  · cases hnext
  · cases hnext
  all_goals first
    | exact h.addDeclaration hnext
    | (cases hnext; exact h.addStatement)

theorem mem_insertItem {items : List Item} {position : Nat}
    {inserted item : Item} (h : item ∈ insertItem items position inserted) :
    item ∈ items ∨ item = inserted := by
  rw [insertItem, List.mem_append, List.mem_cons] at h
  rcases h with hbefore | hsame | hafter
  · exact Or.inl (List.mem_of_mem_take hbefore)
  · exact Or.inr hsame
  · exact Or.inl (List.mem_of_mem_drop hafter)

/-- What becomes of a listed name: its declaration is exported, or it is
imported, and then it is passed on at the place of its list unless it is passed
on already. -/
theorem exportListed_cases {state after : Module × Nat} {entry : ListedExport}
    (h : exportListed state entry = .ok after) :
    (entry.name ∈ state.1.declarations.keys ∧
      after = ({ state.1 with
        declarations := state.1.declarations.map fun name declaration =>
          if name = entry.name then { declaration with exported := true }
          else declaration },
        state.2)) ∨
    (entry.name ∉ state.1.declarations.keys ∧
      entry.name ∈ state.1.reExports.keys ∧
      after = state) ∨
    ∃ binding, state.1.importTable.find? entry.name = some binding ∧
      entry.name ∉ state.1.declarations.keys ∧
      entry.name ∉ state.1.reExports.keys ∧
      after = ({ state.1 with
        reExports := state.1.reExports.insert entry.name
          ⟨entry.name, binding.imported, binding.target⟩
        items :=
          insertItem state.1.items (entry.position + state.2)
            (.reExport entry.name) },
        state.2 + 1) := by
  obtain ⟨module, inserted⟩ := state
  rw [exportListed] at h
  dsimp only at h ⊢
  split at h
  · next hdeclared =>
      cases h
      exact Or.inl ⟨Table.contains_iff.mp hdeclared, rfl⟩
  · next hundeclared =>
      rw [Table.contains_iff] at hundeclared
      split at h
      · cases h
      · next binding hfind =>
          split at h
          · next hpassed =>
              cases h
              exact Or.inr
                (Or.inl ⟨hundeclared, Table.contains_iff.mp hpassed, rfl⟩)
          · next hunpassed =>
              cases h
              rw [Table.contains_iff] at hunpassed
              exact Or.inr
                (Or.inr ⟨binding, hfind, hundeclared, hunpassed, rfl⟩)

theorem dissected_exportListed {config : Config} {path : String}
    {state after : Module × Nat} {entry : ListedExport}
    (hafter : exportListed state entry = .ok after)
    (h : state.1.Dissected config path isEntry []) :
    after.1.Dissected config path isEntry [] := by
  obtain ⟨-, rfl⟩ | ⟨-, -, rfl⟩ | ⟨binding, hfind, -, -, rfl⟩ :=
    exportListed_cases hafter
  · refine h.map_declarations fun name declaration => ?_
    split <;> rfl
  · exact h
  · exact h.insert_reExport rfl (h.taken (Table.mem_of_find? hfind)) fun _ =>
      mem_insertItem

theorem dissected_foldlM {config : Config} {path : String}
    {state last : Module × Nat} {entries : List ListedExport}
    (hlast : entries.foldlM exportListed state = .ok last)
    (h : state.1.Dissected config path isEntry []) :
    last.1.Dissected config path isEntry [] :=
  foldlM_induction
    (P := fun state : Module × Nat => state.1.Dissected config path isEntry [])
    hlast h
    fun _ _ _ _ hstep hbefore => dissected_exportListed hstep hbefore

/-- The module is what the lists leave, and if it is no entry, its declarations
are hidden. -/
theorem finish_cases {module : Module} (h : dissection.finish = .ok module) :
    ∃ shown inserted,
      dissection.listed.foldlM exportListed (dissection.module, 0) = .ok
        (shown, inserted) ∧
        (shown.isEntry = true ∧ module = shown ∨
          shown.isEntry = false ∧ module =
            { shown with
              declarations := shown.declarations.map fun _ declaration =>
                { declaration with exported := false } }) := by
  rw [Dissection.finish] at h
  obtain ⟨⟨shown, inserted⟩, hshown, h⟩ := bind_ok h
  refine ⟨shown, inserted, hshown, ?_⟩
  dsimp only at h
  split at h
  · next hentry => cases h; exact Or.inl ⟨hentry, rfl⟩
  · next hentry => cases h; exact Or.inr ⟨Bool.eq_false_iff.mpr hentry, rfl⟩

theorem Keeps.finish {module : Module}
    (hmodule : dissection.finish = .ok module)
    (h : dissection.Keeps subject isEntry []) :
    module.Dissected subject.config subject.path isEntry [] := by
  obtain ⟨shown, inserted, hshown, hmodule⟩ := finish_cases hmodule
  have hstate : shown.Dissected subject.config subject.path isEntry [] :=
    dissected_foldlM hshown h
  obtain ⟨-, rfl⟩ | ⟨-, rfl⟩ := hmodule
  · exact hstate
  · exact hstate.map_declarations fun _ _ => rfl

theorem keeps_of_foldlM {items : List Script.TopItem}
    (h : items.foldlM (Dissection.addItem subject)
      ⟨.empty subject.path isEntry, []⟩ = .ok dissection) :
    dissection.Keeps subject isEntry [] :=
  foldlM_induction h Module.Dissected.empty
    fun _ _ _ _ hstep hbefore => Keeps.addItem hstep hbefore

end Dissection

theorem Module.dissected_ofSource {subject : Subject} {isEntry : Bool}
    {module : Module} (h : Module.ofSource subject isEntry = .ok module) :
    module.Dissected subject.config subject.path isEntry [] := by
  rw [ofSource] at h
  obtain ⟨dissection, hdissection, h⟩ := bind_ok h
  exact (Dissection.keeps_of_foldlM hdissection).finish h

/-- A text that gives a module has been read as a file. -/
theorem Module.exists_file_of_ofText {config : Config} {path content : String}
    {isEntry : Bool} {bytesBefore : Nat} {module : Module}
    (h : Module.ofText config path content isEntry bytesBefore = .ok module) :
    ∃ file, Script.SourceFile.read
      ⟨Path.extension path = some "tsx", config.decorators⟩
        content.toList = .ok file ∧
          Module.ofSource ⟨config, path, file⟩ isEntry = .ok module := by
  rw [ofText] at h
  dsimp only at h
  split at h
  · next file hread => exact ⟨file, hread, h⟩
  · cases h
  · split at h <;> cases h

/-- What is known of every module that is taken from a file. -/
theorem Module.dissected_ofText {config : Config} {path content : String}
    {isEntry : Bool} {bytesBefore : Nat} {module : Module}
    (h : Module.ofText config path content isEntry bytesBefore = .ok module) :
    module.Dissected config path isEntry [] := by
  obtain ⟨file, -, hmodule⟩ := exists_file_of_ofText h
  exact dissected_ofSource hmodule

/-- A module that was taken from a file. -/
def Module.FromFile (module : Module) : Prop :=
  ∃ config path content isEntry bytesBefore,
    Module.ofText config path content isEntry bytesBefore = .ok module

theorem Module.FromFile.items {module : Module} (h : module.FromFile) :
    ∀ item ∈ module.items, module.Holds item := by
  obtain ⟨config, path, content, isEntry, bytesBefore, hmodule⟩ := h
  exact (dissected_ofText hmodule).items

end Prune
