import Prune.Proofs.Dissected

/-!
# What is cut out of a file

The declarations and statements of a module are pieces of its file.
`Script.Stmt.role` sorts the items of a file by what they add; a declaring item
adds the declaration that is cut out of it (`Subject.Cuts`), and an item that
runs adds its text, both in the order of the file.

Whether a declaration is exported is known only when all items have been seen:
its own item exports it, or a list of exports names it, and the file is an
entry. Each list is worked off by `exposed`, which changes the flag of the
declarations that it names and nothing that was cut out.
-/

namespace Prune

open Script

/-! ## What an item adds -/

/-- What an item adds to its module. -/
inductive Role where
  /-- Names that are imported, passed on or listed. -/
  | clause
  | statement
  | declaration
  /-- A declaration that its own item exports, and the decorators of it. -/
  | exported (decorators : List Expr)

def Script.Stmt.role : Stmt → Role
  | .importNames _ _ _ _ | .exportNames _ _ _ _ | .exportAll _ _
  | .importEquals _ _ _ | .exportAssignment _ _
  | .exportNamespace _ _ => .clause
  | .exportDecl _ declaration => .exported (Dissection.decoratorsOf declaration)
  | .exportDefaultDecl span value =>
      .exported (Dissection.decoratorsOf (.exportDefaultDecl span value))
  | .exportDefaultInterface _ _ | .exportDefaultExpr _ _ => .exported []
  | .function _ _ _ | .classDecl _ _ _ | .variable _ _ _ _ | .using _ _
  | .interface _ _ _ _ _ | .typeAlias _ _ _ _ | .enum _ _ _ _
  | .namespace _ _ _ _ => .declaration
  | _ => .statement

/-- The names that a specifier gives to other modules. -/
def Script.ExportSpecifier.names : ExportSpecifier → List String
  | .named inner exported => [exported.elim inner.value ExportName.value]
  | _ => []

namespace Script.TopItem

def declares (item : TopItem) : Bool :=
  match item.stmt.role with
  | .declaration | .exported _ => true
  | _ => false

/-- Whether the words that export a declaration are words of its item. -/
def exports (item : TopItem) : Bool :=
  match item.stmt.role with
  | .exported _ => true
  | _ => false

def runs (item : TopItem) : Bool :=
  match item.stmt.role with
  | .statement => true
  | _ => false

/-- Where the text of a declaration starts: where its item does, and if that
exports it, before decorators that come before the item. -/
def textFrom (item : TopItem) : Nat :=
  match item.stmt.role with
  | .exported decorators => Dissection.itemStart item decorators
  | _ => item.span.lo

/-- The names that an item lists as exports of its own module. -/
def listed (item : TopItem) : List String :=
  match item.stmt with
  | .exportNames _ specifiers none _ => specifiers.flatMap ExportSpecifier.names
  | _ => []

/-- The names that an item passes on from another module. -/
def passedOn (item : TopItem) : List String :=
  match item.stmt with
  | .exportNames _ specifiers (some _) _ =>
      specifiers.flatMap ExportSpecifier.names
  | _ => []

end Script.TopItem

/-- The names that a file lists as exports. -/
def Script.SourceFile.listed (file : SourceFile) : List String :=
  file.items.flatMap TopItem.listed

namespace Subject

/-- The name that a statement declares. -/
def nameOf? (subject : Subject) : Stmt → Option String
  | .exportDecl _ declaration | .exportDefaultInterface _ declaration =>
      (Dissection.declaredName subject declaration).toOption.map Prod.fst
  | .exportDefaultDecl _ (.function _ name _)
  | .exportDefaultDecl _ (.classExpr _ name _) =>
      some (name.getD "default")
  | .exportDefaultDecl _ _ | .exportDefaultExpr _ _ => some "default"
  | stmt => (Dissection.declaredName subject stmt).toOption.map Prod.fst

/-- A declaration is cut out of an item of a file. -/
structure Cuts (subject : Subject) (item : TopItem)
    (declaration : Declaration) : Prop where
  name : subject.nameOf? item.stmt = some declaration.name
  itemText : declaration.itemText = subject.text item.textFrom item.span.hi
  plainText : declaration.plainText =
    Dissection.plainText subject item.textFrom item.span.lo item.span.hi

end Subject

/-- Only a clause lists names or passes them on. -/
theorem Script.TopItem.lists_of_role (item : TopItem)
    (h : item.stmt.role ≠ .clause) :
    item.listed = [] ∧ item.passedOn = [] := by
  rw [listed, passedOn]
  constructor
  · split
    · next hstmt => exact absurd (congrArg Stmt.role hstmt) h
    · rfl
  · split
    · next hstmt => exact absurd (congrArg Stmt.role hstmt) h
    · rfl

namespace Dissection

variable {subject : Subject} {item : TopItem} {dissection next : Dissection}

/-- What an item has added: what is cut out of it, and the names that it gives
to other modules. -/
structure Took (subject : Subject) (item : TopItem)
    (dissection next : Dissection) : Prop where
  declarations : ∃ new,
    next.module.declarations.values =
      dissection.module.declarations.values ++ new ∧
      List.Forall₂ (fun item declaration => subject.Cuts item declaration ∧
        declaration.exported = item.exports)
        ([item].filter TopItem.declares) new
  statements : ∃ new,
    next.module.statements = dissection.module.statements ++ new ∧
    List.Forall₂
      (fun item statement => statement.text =
        subject.text item.span.lo item.span.hi)
      ([item].filter TopItem.runs) new
  listed : next.listed.map ListedExport.name =
    dissection.listed.map ListedExport.name ++ item.listed
  passedOn : next.module.reExports.keys =
    dissection.module.reExports.keys ++ item.passedOn

theorem appends_nothing {α : Type} {R : TopItem → α → Prop}
    {picks : TopItem → Bool} {before after : List α} (hsame : after = before)
    (hunpicked : ¬ picks item = true) :
    ∃ new, after = before ++ new ∧
      List.Forall₂ R ([item].filter picks) new := by
  refine ⟨[], by rw [hsame, List.append_nil], ?_⟩
  rw [List.filter_cons_of_neg hunpicked]
  exact .nil

/-- An item that is a declaration adds the one that is cut out of it. -/
theorem took_declare {name : String} {uses : List String}
    (hdeclares : item.declares = true)
    (hname : subject.nameOf? item.stmt = some name)
    (h : dissection.declare subject item.textFrom item.span.lo item.span.hi name
      item.exports uses = .ok next) :
    Took subject item dissection next := by
  have hruns : ¬ item.runs = true := by
    rw [TopItem.runs]
    split
    · next hrole => rw [TopItem.declares, hrole] at hdeclares; cases hdeclares
    · exact Bool.false_ne_true
  obtain ⟨hlisted, hpassed⟩ := item.lists_of_role fun hrole => by
    rw [TopItem.declares, hrole] at hdeclares
    cases hdeclares
  obtain ⟨hundeclared, -, -, rfl⟩ := declare_ok h
  constructor
  case declarations =>
    refine ⟨_, Table.values_insert hundeclared _, ?_⟩
    rw [List.filter_cons_of_pos hdeclares]
    exact .cons ⟨⟨hname, rfl, rfl⟩, rfl⟩ .nil
  case statements => exact appends_nothing rfl hruns
  case listed => rw [hlisted, List.append_nil]
  case passedOn => rw [hpassed, List.append_nil]

theorem took_addDeclaration {declaration : Stmt}
    (hdeclares : item.declares = true)
    (hname : subject.nameOf? item.stmt =
      (declaredName subject declaration).toOption.map Prod.fst)
    (hlo : (if item.exports then itemStart item (decoratorsOf declaration)
      else item.span.lo) = item.textFrom)
    (h : dissection.addDeclaration subject item declaration item.exports =
      .ok next) :
    Took subject item dissection next := by
  rw [addDeclaration] at h
  obtain ⟨⟨name, ambient⟩, hdeclared, h⟩ := bind_ok h
  dsimp only at h
  rw [hlo] at h
  exact took_declare hdeclares (hname.trans (by rw [hdeclared]; rfl)) h

theorem took_addStatement (hrole : item.stmt.role = .statement) :
    Took subject item dissection (dissection.addStatement subject item) := by
  have hdeclares : ¬ item.declares = true := by
    rw [TopItem.declares, hrole]; exact Bool.false_ne_true
  have hruns : item.runs = true := by rw [TopItem.runs, hrole]
  obtain ⟨hlisted, hpassed⟩ := item.lists_of_role (by rw [hrole]; exact nofun)
  constructor
  case declarations => exact appends_nothing rfl hdeclares
  case statements =>
    refine ⟨_, rfl, ?_⟩
    rw [List.filter_cons_of_pos hruns]
    exact .cons rfl .nil
  case listed => rw [hlisted, List.append_nil]; rfl
  case passedOn => rw [hpassed, List.append_nil]; rfl

/-- A clause cuts nothing out. -/
theorem took_clause (hrole : item.stmt.role = .clause)
    (hdeclarations : next.module.declarations = dissection.module.declarations)
    (hstatements : next.module.statements = dissection.module.statements)
    (hlisted : next.listed.map ListedExport.name =
      dissection.listed.map ListedExport.name ++ item.listed)
    (hpassed : next.module.reExports.keys =
      dissection.module.reExports.keys ++ item.passedOn) :
    Took subject item dissection next := by
  have hdeclares : ¬ item.declares = true := by
    rw [TopItem.declares, hrole]; exact Bool.false_ne_true
  have hruns : ¬ item.runs = true := by
    rw [TopItem.runs, hrole]; exact Bool.false_ne_true
  exact ⟨appends_nothing (by rw [hdeclarations]) hdeclares,
    appends_nothing hstatements hruns, hlisted, hpassed⟩

section

variable {span : Span} {target : String}

theorem addImported_cut {specifier : ImportSpecifier}
    (h : dissection.addImported subject target specifier = .ok next) :
    next.module.declarations = dissection.module.declarations ∧
      next.module.statements = dissection.module.statements ∧
      next.listed = dissection.listed ∧
      next.module.reExports = dissection.module.reExports := by
  obtain ⟨localName, imported, -, -, -, rfl⟩ := addImported_ok h
  exact ⟨rfl, rfl, rfl, rfl⟩

theorem addPassedOn_cut {specifier : ExportSpecifier}
    (h : dissection.addPassedOn subject span target specifier = .ok next) :
    next.module.declarations = dissection.module.declarations ∧
      next.module.statements = dissection.module.statements ∧
      next.listed = dissection.listed ∧
      next.module.reExports.keys =
        dissection.module.reExports.keys ++ specifier.names := by
  obtain ⟨inner, exported, name, rfl, rfl, hunpassed, -, rfl⟩ :=
    addPassedOn_ok h
  exact ⟨rfl, rfl, rfl, Table.keys_insert hunpassed _⟩

theorem addListed_cut {specifier : ExportSpecifier}
    (h : dissection.addListed subject span specifier = .ok next) :
    next.module = dissection.module ∧ next.listed.map ListedExport.name =
      dissection.listed.map ListedExport.name ++ specifier.names := by
  obtain ⟨inner, exported, rfl, hsame, rfl⟩ := addListed_ok h
  rw [List.map_append, ExportSpecifier.names, hsame]
  exact ⟨rfl, rfl⟩

end

theorem took_addItem (h : dissection.addItem subject item = .ok next) :
    Took subject item dissection next := by
  obtain ⟨span, decoratorsFrom, stmt⟩ := item
  rw [addItem] at h
  dsimp only at h
  cases stmt with
  | importNames place specifiers source attributes =>
      dsimp only at h
      split at h
      · cases h
      · obtain ⟨target, -, h⟩ := bind_ok h
        obtain ⟨last, hlast, h⟩ := bind_ok h
        cases h
        have hdeclarations :=
          foldlM_same (fun d : Dissection => d.module.declarations) hlast
            fun hstep => (addImported_cut hstep).1
        have hstatements :=
          foldlM_same (fun d : Dissection => d.module.statements) hlast
            fun hstep => (addImported_cut hstep).2.1
        have hlists :=
          foldlM_same (fun d : Dissection => d.listed.map ListedExport.name)
            hlast
            fun hstep => by rw [(addImported_cut hstep).2.2.1]
        have hpassed :=
          foldlM_same (fun d : Dissection => d.module.reExports.keys) hlast
            fun hstep => by rw [(addImported_cut hstep).2.2.2]
        exact took_clause rfl hdeclarations hstatements
          (hlists.trans (List.append_nil _).symm)
          (hpassed.trans (List.append_nil _).symm)
  | exportNames place specifiers source attributes =>
      cases source with
      | some source =>
          obtain ⟨target, -, h⟩ := bind_ok h
          obtain ⟨last, hlast, h⟩ := bind_ok h
          cases h
          have hdeclarations :=
            foldlM_same (fun d : Dissection => d.module.declarations) hlast
              fun hstep => (addPassedOn_cut hstep).1
          have hstatements :=
            foldlM_same (fun d : Dissection => d.module.statements) hlast
              fun hstep => (addPassedOn_cut hstep).2.1
          have hlists :=
            foldlM_same (fun d : Dissection => d.listed.map ListedExport.name)
              hlast
              fun hstep => by rw [(addPassedOn_cut hstep).2.2.1]
          exact took_clause rfl hdeclarations hstatements
            (hlists.trans (List.append_nil _).symm)
            (foldlM_flatMap (fun d => d.module.reExports.keys) hlast
              fun hstep => (addPassedOn_cut hstep).2.2.2)
      | none =>
          have hmodule :=
            foldlM_same Dissection.module h fun hstep => (addListed_cut hstep).1
          refine took_clause rfl (by rw [hmodule]) (by rw [hmodule])
            (foldlM_flatMap (fun d => d.listed.map ListedExport.name) h
              fun hstep => (addListed_cut hstep).2) ?_
          rw [hmodule]
          exact (List.append_nil _).symm
  | exportDecl place declaration => exact took_addDeclaration rfl rfl rfl h
  | exportDefaultDecl place value =>
      cases value with
      | function | classExpr => exact took_declare rfl rfl h
      | _ => exact took_declare rfl rfl h
  | exportDefaultInterface place declaration =>
      obtain ⟨⟨name, ambient⟩, hdeclared, h⟩ := bind_ok h
      exact took_declare rfl (by rw [Subject.nameOf?, hdeclared]; rfl) h
  | exportDefaultExpr place value => exact took_declare rfl rfl h
  | exportAll | importEquals | exportAssignment | exportNamespace => cases h
  | function | classDecl | «variable» | «using» | interface | typeAlias | enum
  | «namespace» =>
      exact took_addDeclaration rfl rfl rfl h
  | _ =>
      cases h
      exact took_addStatement rfl

/-! ## What becomes of the lists of exports -/

/-- A declaration that is exported if it was, or if it is one of the names of
some lists. -/
def exposed (names : List String) (declaration : Declaration) : Declaration :=
  { declaration with
    exported := declaration.exported || names.contains declaration.name }

theorem exposed_nil : exposed [] = id := by
  funext declaration
  rw [exposed, List.contains_nil, Bool.or_false]
  rfl

theorem exposed_cons (name : String) (names : List String) :
    exposed (name :: names) = exposed names ∘ exposed [name] := by
  funext declaration
  simp only [exposed, Function.comp_apply, List.contains_cons,
    List.contains_nil, Bool.or_false, Bool.or_assoc]

theorem exposed_singleton (name : String) (declaration : Declaration) :
    exposed [name] declaration =
      if declaration.name = name then { declaration with exported := true }
      else declaration := by
  rw [exposed, List.contains_cons, List.contains_nil, Bool.or_false]
  split
  · next hname => rw [hname, beq_self_eq_true, Bool.or_true]
  · next hname => rw [beq_eq_false_iff_ne.mpr hname, Bool.or_false]

/-- A listed name exports the declaration of that name, if there is one, and
changes no other. -/
theorem exportListed_cut {state after : Module × Nat} {entry : ListedExport}
    (hkeyed : state.1.Keyed) (hafter : exportListed state entry = .ok after) :
    after.1.declarations.values = state.1.declarations.values.map
      (exposed [entry.name]) ∧
      after.1.statements = state.1.statements ∧
      after.1.isEntry = state.1.isEntry := by
  have hsame : entry.name ∉ state.1.declarations.keys →
      state.1.declarations.values =
        state.1.declarations.values.map (exposed [entry.name]) := by
    intro hundeclared
    refine (List.map_id _).symm.trans
      (List.map_congr_left fun declaration hdeclaration => ?_)
    have hname : declaration.name ∈ state.1.declarations.keys := by
      rw [Table.keys_of_keyed hkeyed.declarations]
      exact List.mem_map_of_mem hdeclaration
    have hother : declaration.name ≠ entry.name :=
      fun heq => hundeclared (heq ▸ hname)
    rw [exposed_singleton, if_neg hother]
    rfl
  obtain ⟨-, rfl⟩ | ⟨hundeclared, -, rfl⟩ | ⟨_, -, hundeclared, -, rfl⟩ :=
    exportListed_cases hafter
  · refine ⟨Table.values_map_of_keyed fun {name declaration} hmem =>
        ?_, rfl, rfl⟩
    rw [exposed_singleton, hkeyed.declarations hmem]
  · exact ⟨hsame hundeclared, rfl, rfl⟩
  · exact ⟨hsame hundeclared, rfl, rfl⟩

/-- Working off the lists exports what they name. -/
theorem foldlM_exportListed_cut {config : Config} {path : String}
    {isEntry : Bool} {entries : List ListedExport} {state last : Module × Nat}
    (hdissected : state.1.Dissected config path isEntry [])
    (hlast : entries.foldlM exportListed state = .ok last) :
    last.1.declarations.values =
        state.1.declarations.values.map
          (exposed (entries.map ListedExport.name)) ∧
      last.1.statements = state.1.statements ∧ last.1.isEntry = isEntry := by
  induction entries generalizing state with
  | nil =>
      cases hlast
      exact ⟨by
          rw [List.map_nil, exposed_nil, List.map_id], rfl, hdissected.isEntry⟩
  | cons entry entries ih =>
      rw [List.foldlM_cons] at hlast
      obtain ⟨next, hnext, hlast⟩ := bind_ok hlast
      obtain ⟨hvalues, hstatements, -⟩ :=
        exportListed_cut hdissected.keyed hnext
      obtain ⟨hrest, hlater, hentry⟩ :=
        ih (dissected_exportListed hnext hdissected) hlast
      refine ⟨?_, hlater.trans hstatements, hentry⟩
      rw [List.map_cons,
        exposed_cons entry.name (entries.map ListedExport.name), hrest, hvalues,
        List.map_map]

theorem finish_cut {isEntry : Bool} {module : Module}
    (hkeeps : dissection.Keeps subject isEntry [])
    (h : dissection.finish = .ok module) :
    module.declarations.values =
      dissection.module.declarations.values.map (fun declaration =>
        { declaration with
          exported := isEntry && (declaration.exported ||
            (dissection.listed.map ListedExport.name).contains
            declaration.name) }) ∧
      module.statements = dissection.module.statements := by
  obtain ⟨shown, inserted, hshown, hmodule⟩ := finish_cases h
  have hstart : (dissection.module, 0).1.Dissected subject.config subject.path
      isEntry [] := hkeeps
  obtain ⟨hvalues, hstatements, hentry⟩ := foldlM_exportListed_cut hstart hshown
  obtain ⟨hshows, rfl⟩ | ⟨hhides, rfl⟩ := hmodule
  · cases hentry.symm.trans hshows
    exact ⟨hvalues, hstatements⟩
  · cases hentry.symm.trans hhides
    refine ⟨?_, hstatements⟩
    dsimp only at hvalues ⊢
    rw [Table.values_map, hvalues, List.map_map]
    rfl

/-- A listed name that is not declared is passed on. -/
theorem mem_reExports_exportListed {state after : Module × Nat}
    {entry : ListedExport} (hafter : exportListed state entry = .ok after) :
    after.1.declarations.keys = state.1.declarations.keys ∧
      ∀ name, name ∈ after.1.reExports.keys ↔ name ∈ state.1.reExports.keys ∨
        name = entry.name ∧ name ∉ state.1.declarations.keys := by
  obtain ⟨hdeclared, rfl⟩ | ⟨-, hpassed, rfl⟩ |
      ⟨_, -, hundeclared, hunpassed, rfl⟩ :=
    exportListed_cases hafter
  · refine ⟨Table.keys_map _ _,
      fun name => ⟨Or.inl, fun h => h.resolve_right ?_⟩⟩
    rintro ⟨rfl, hundeclared⟩
    exact hundeclared hdeclared
  · refine ⟨rfl, fun name => ⟨Or.inl, fun h => h.elim id ?_⟩⟩
    rintro ⟨rfl, -⟩
    exact hpassed
  · refine ⟨rfl, fun name => ?_⟩
    rw [Table.keys_insert hunpassed, List.mem_append, List.mem_singleton]
    exact or_congr_right ⟨fun heq => ⟨heq, heq ▸ hundeclared⟩, And.left⟩

theorem mem_reExports_foldlM {entries : List ListedExport}
    {state last : Module × Nat}
    (hlast : entries.foldlM exportListed state = .ok last) :
    last.1.declarations.keys = state.1.declarations.keys ∧
      ∀ name, name ∈ last.1.reExports.keys ↔ name ∈ state.1.reExports.keys ∨
        name ∈ entries.map ListedExport.name ∧
        name ∉ state.1.declarations.keys := by
  induction entries generalizing state with
  | nil =>
      cases hlast
      exact ⟨rfl, fun name => by simp⟩
  | cons entry entries ih =>
      rw [List.foldlM_cons] at hlast
      obtain ⟨next, hnext, hlast⟩ := bind_ok hlast
      obtain ⟨hkeys, hpassed⟩ := mem_reExports_exportListed hnext
      obtain ⟨hrestKeys, hrest⟩ := ih hlast
      refine ⟨hrestKeys.trans hkeys, fun name => ?_⟩
      rw [hrest, hpassed, hkeys, List.map_cons, List.mem_cons, or_assoc,
        or_and_right]

theorem mem_reExports_finish {module : Module}
    (h : dissection.finish = .ok module) {name : String} :
    name ∈ module.reExports.keys ↔ name ∈ dissection.module.reExports.keys ∨
      name ∈ dissection.listed.map ListedExport.name ∧
      name ∉ module.declarations.keys := by
  obtain ⟨shown, inserted, hshown, hmodule⟩ := finish_cases h
  obtain ⟨hkeys, hpassed⟩ := mem_reExports_foldlM hshown
  dsimp only at hkeys hpassed
  obtain ⟨-, rfl⟩ | ⟨-, rfl⟩ := hmodule
  · rw [hpassed, hkeys]
  · rw [hpassed, Table.keys_map, hkeys]

end Dissection

/-! ## Modules -/

/-- The declarations of a module are cut out of the declaring items of its file,
and its statements are the texts of those that run, both in the order of the
file. A declaration is exported if the file is an entry, and its item exports it
or a list of exports names it. -/
theorem Module.cut_ofSource {subject : Subject} {isEntry : Bool}
    {module : Module} (h : Module.ofSource subject isEntry = .ok module) :
    List.Forall₂ (fun item declaration => subject.Cuts item declaration ∧
        declaration.exported =
          (isEntry &&
            (item.exports || subject.file.listed.contains declaration.name)))
      (subject.file.items.filter TopItem.declares) module.declarations.values ∧
    List.Forall₂
      (fun item statement => statement.text =
        subject.text item.span.lo item.span.hi)
      (subject.file.items.filter TopItem.runs) module.statements := by
  rw [ofSource] at h
  obtain ⟨dissection, hdissection, h⟩ := bind_ok h
  obtain ⟨hvalues, hstatements⟩ :=
    Dissection.finish_cut (Dissection.keeps_of_foldlM hdissection) h
  have hlisted :
      dissection.listed.map ListedExport.name = subject.file.listed :=
    foldlM_flatMap (fun d => d.listed.map ListedExport.name) hdissection
      fun hstep => (Dissection.took_addItem hstep).listed
  obtain ⟨declarations, hdeclarations, hcut⟩ := foldlM_appends
    (fun d => d.module.declarations.values) hdissection
    fun hstep => (Dissection.took_addItem hstep).declarations
  obtain ⟨statements, hadded, hrun⟩ :=
    foldlM_appends (fun d => d.module.statements) hdissection
      fun hstep => (Dissection.took_addItem hstep).statements
  constructor
  · rw [hvalues, hdeclarations, hlisted]
    refine List.forall₂_map_right_iff.mpr
      (hcut.imp fun item declaration hdeclaration => ?_)
    obtain ⟨⟨hname, hitemText, hplainText⟩, hexported⟩ := hdeclaration
    exact ⟨⟨hname, hitemText, hplainText⟩, by rw [hexported]⟩
  · rw [hstatements, hadded]
    exact hrun

/-- What a module passes on is what items of its file pass on, and what its
lists name without that the file declares it. -/
theorem Module.mem_reExports_ofSource {subject : Subject} {isEntry : Bool}
    {module : Module} (h : Module.ofSource subject isEntry = .ok module)
    {name : String} :
    name ∈ module.reExports.keys ↔
    (∃ item ∈ subject.file.items, name ∈ item.passedOn) ∨
      name ∈ subject.file.listed ∧ name ∉ module.declarations.keys := by
  rw [ofSource] at h
  obtain ⟨dissection, hdissection, h⟩ := bind_ok h
  have hpassed : dissection.module.reExports.keys =
      subject.file.items.flatMap TopItem.passedOn :=
    foldlM_flatMap (fun d => d.module.reExports.keys) hdissection
      fun hstep => (Dissection.took_addItem hstep).passedOn
  have hlisted :
      dissection.listed.map ListedExport.name = subject.file.listed :=
    foldlM_flatMap (fun d => d.listed.map ListedExport.name) hdissection
      fun hstep => (Dissection.took_addItem hstep).listed
  rw [Dissection.mem_reExports_finish h, hpassed, hlisted, List.mem_flatMap]

end Prune
