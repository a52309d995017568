import Prune.Proofs.Pieces
import Prune.Proofs.WellFormed

/-!
# A file read once

A file is taken apart in two passes. The first goes through its items and keeps
its lists of exports; the second works the lists off and puts names that are
passed on between items that are already there, at positions which were counted
before anything was put in. The outline of a file is made in one pass from left
to right, and adds to the end only: what it has to be told in advance is what
the whole file declares, imports and passes on. `Module.outlined_ofSource` says
that both give the same.

What an item says comes down to mentions. The first pass adds one mention after
another to a `Draft`, so that the items and the listings it has come to are
known from the mentions alone (`placed`, `listings`). The second pass is then
followed mention by mention: before each of them the items are those of the
outline so far and, behind these, those that the mentions ahead have placed
(`Outline.Agrees`).
-/

namespace Prune

open Script

/-! ## What a file says -/

/-- What an item of a file says about the names and the items of its module. -/
inductive Mention where
  | declares (name : String) (exported : Bool)
  | runs
  | imports (binding : ImportBinding)
  | passesOn (reExport : ReExport)
  | lists (name : String)
deriving DecidableEq

namespace Mention

def declaration? : Mention → Option (String × Bool)
  | declares name exported => some (name, exported)
  | _ => none

def binding? : Mention → Option ImportBinding
  | imports binding => some binding
  | _ => none

def reExport? : Mention → Option ReExport
  | passesOn reExport => some reExport
  | _ => none

end Mention

namespace Script

/-- What a specifier takes from a module. -/
def ImportSpecifier.mentions (target : String) : ImportSpecifier → List Mention
  | .named localName imported =>
      [.imports ⟨localName, imported.elim localName ExportName.value, target⟩]
  | _ => []

/-- What a specifier passes on from a module. -/
def ExportSpecifier.mentions (target : String) : ExportSpecifier → List Mention
  | .named inner exported =>
      [.passesOn
        ⟨exported.elim inner.value ExportName.value, inner.value, target⟩]
  | _ => []

end Script

namespace Subject

/-- What a clause says that names the module it is about. -/
def mentionsFrom (subject : Subject) (source : String)
    (mentions : String → List Mention) :
    List Mention :=
  (Specifier.resolve subject.config subject.path source).toOption.elim
    [] mentions

/-- What an item says, in the order of its text. -/
def mentions (subject : Subject) (item : TopItem) : List Mention :=
  match item.stmt with
  | .importNames _ specifiers source _ =>
      subject.mentionsFrom source fun target =>
        specifiers.flatMap (ImportSpecifier.mentions target)
  | .exportNames _ specifiers (some source) _ =>
      subject.mentionsFrom source fun target =>
        specifiers.flatMap (ExportSpecifier.mentions target)
  | .exportNames _ specifiers none _ =>
      specifiers.flatMap fun specifier => specifier.names.map .lists
  | stmt =>
      if item.declares then
        (subject.nameOf? stmt).toList.map (.declares · item.exports)
      else if item.runs then [.runs] else []

theorem mentionsFrom_of_resolve {subject : Subject} {source target : String}
    (h : Specifier.resolve subject.config subject.path source = .ok target)
    (mentions : String → List Mention) :
    subject.mentionsFrom source mentions = mentions target := by
  rw [mentionsFrom, h]
  rfl

end Subject

/-! ## One pass -/

/-- What has been read of a file. -/
structure Outline where
  /-- The declarations, and whether their own items export them. -/
  declared : List (String × Bool)
  statements : Nat
  /-- The declared names that were listed. -/
  marked : List String
  reExports : List ReExport
  items : List Item
deriving DecidableEq

namespace Outline

def empty : Outline := ⟨[], 0, [], [], []⟩

def passOn (outline : Outline) (reExport : ReExport) : Outline :=
  { outline with
    reExports := outline.reExports ++ [reExport]
    items := outline.items ++ [.reExport reExport.exported] }

/-- Reads a listed name, given all mentions of the file: a name that is
declared, before or after, is marked, and one that is imported is passed on
where it is first listed, unless a clause passes it on. -/
def list (all : List Mention) (outline : Outline) (name : String) : Outline :=
  if name ∈ (all.filterMap Mention.declaration?).map Prod.fst then
    { outline with marked := outline.marked ++ [name] }
  else
    match (all.filterMap Mention.binding?).find? fun binding =>
        binding.localName = name with
    | none => outline
    | some binding =>
        if name ∈ (outline.reExports ++ all.filterMap Mention.reExport?).map
          ReExport.exported then
          outline
        else outline.passOn ⟨name, binding.imported, binding.target⟩

/-- Reads a mention. Items are added at the end. -/
def mention (all : List Mention) (outline : Outline) : Mention → Outline
  | .declares name exported =>
      { outline with
        declared := outline.declared ++ [(name, exported)]
        items := outline.items ++ [.declaration outline.declared.length] }
  | .runs =>
      { outline with
        statements := outline.statements + 1
        items := outline.items ++ [.statement outline.statements] }
  | .imports _ => outline
  | .passesOn reExport => outline.passOn reExport
  | .lists name => outline.list all name

/-- Whether a declaration is exported, given the names that are marked. -/
def marking (marked : List String) (flag : String × Bool) : String × Bool :=
  (flag.1, flag.2 || marked.contains flag.1)

/-- The names of the declarations, and whether they are exported. -/
def flags (outline : Outline) : List (String × Bool) :=
  outline.declared.map (marking outline.marked)

end Outline

/-- The outline of a file. -/
def Subject.outline (subject : Subject) : Outline :=
  let all := subject.file.items.flatMap subject.mentions
  all.foldl (Outline.mention all) .empty

/-! ## The first pass -/

/-- The name of a declaration, and whether it is exported. -/
def Declaration.flag (declaration : Declaration) : String × Bool :=
  (declaration.name, declaration.exported)

/-- The part of a dissection that the mentions of a file determine. -/
structure Draft where
  declared : List (String × Bool)
  statements : Nat
  imported : List ImportBinding
  reExports : List ReExport
  items : List Item
  listed : List ListedExport

def Draft.empty : Draft := ⟨[], 0, [], [], [], []⟩

/-- What a mention adds in the first pass. -/
def Draft.mention (draft : Draft) : Mention → Draft
  | .declares name exported =>
      { draft with
        declared := draft.declared ++ [(name, exported)]
        items := draft.items ++ [.declaration draft.declared.length] }
  | .runs =>
      { draft with
        statements := draft.statements + 1
        items := draft.items ++ [.statement draft.statements] }
  | .imports binding => { draft with imported := draft.imported ++ [binding] }
  | .passesOn reExport =>
      { draft with
        reExports := draft.reExports ++ [reExport]
        items := draft.items ++ [.reExport reExport.exported] }
  | .lists name =>
      { draft with listed := draft.listed ++ [⟨draft.items.length, name⟩] }

namespace Dissection

def draft (dissection : Dissection) : Draft where
  declared := dissection.module.declarations.values.map Declaration.flag
  statements := dissection.module.statements.length
  imported := dissection.module.importTable.values
  reExports := dissection.module.reExports.values
  items := dissection.module.items
  listed := dissection.listed

variable {subject : Subject} {dissection next : Dissection}

theorem draft_declare {lo exportLo hi : Nat} {name : String} {exported : Bool}
    {uses : List String}
    (h : dissection.declare subject lo exportLo hi name exported uses =
      .ok next) :
    next.draft = dissection.draft.mention (.declares name exported) := by
  obtain ⟨hundeclared, -, -, rfl⟩ := declare_ok h
  simp only [draft, Draft.mention, Table.values_insert hundeclared,
    List.map_append, List.length_map, Table.length_values]
  rfl

theorem draft_addDeclaration {item : TopItem} {declaration : Stmt}
    {exported : Bool}
    (h : dissection.addDeclaration subject item declaration exported =
      .ok next) :
    next.draft =
      (((declaredName subject declaration).toOption.map Prod.fst).toList.map
        (Mention.declares · exported)).foldl Draft.mention
        dissection.draft := by
  rw [addDeclaration] at h
  obtain ⟨⟨name, ambient⟩, hdeclared, h⟩ := bind_ok h
  rw [hdeclared]
  exact draft_declare h

theorem draft_addStatement {item : TopItem} :
    (dissection.addStatement subject item).draft =
      dissection.draft.mention .runs := by
  simp only [draft, addStatement, Draft.mention, List.length_append,
    List.length_singleton]

theorem draft_addImported {target : String} {specifier : ImportSpecifier}
    (h : dissection.addImported subject target specifier = .ok next) :
    next.draft = (specifier.mentions target).foldl Draft.mention
      dissection.draft := by
  obtain ⟨localName, imported, rfl, -, hunimported, rfl⟩ := addImported_ok h
  simp only [draft, Table.values_insert hunimported]
  rfl

theorem draft_addPassedOn {span : Span} {target : String}
    {specifier : ExportSpecifier}
    (h : dissection.addPassedOn subject span target specifier = .ok next) :
    next.draft = (specifier.mentions target).foldl Draft.mention
      dissection.draft := by
  obtain ⟨inner, exported, name, rfl, rfl, hunpassed, -, rfl⟩ :=
    addPassedOn_ok h
  simp only [draft, Table.values_insert hunpassed]
  rfl

theorem draft_addListed {span : Span} {specifier : ExportSpecifier}
    (h : dissection.addListed subject span specifier = .ok next) :
    next.draft = (specifier.names.map Mention.lists).foldl Draft.mention
      dissection.draft := by
  obtain ⟨inner, exported, rfl, hsame, rfl⟩ := addListed_ok h
  rw [ExportSpecifier.names, hsame]
  rfl

/-- If each step adds what its value mentions, a fold adds what all of them
mention. -/
theorem draft_foldlM {α : Type} {values : List α} {mentions : α → List Mention}
    {step : Dissection → α → Except Error Dissection} {last : Dissection}
    (h : values.foldlM step dissection = .ok last)
    (hstep : ∀ {before value after}, step before value = .ok after →
      after.draft = (mentions value).foldl Draft.mention before.draft) :
    last.draft = (values.flatMap mentions).foldl Draft.mention
      dissection.draft := by
  induction values generalizing dissection with
  | nil => cases h; rfl
  | cons value values ih =>
      rw [List.foldlM_cons] at h
      obtain ⟨next, hnext, h⟩ := bind_ok h
      rw [ih h, hstep hnext, List.flatMap_cons, List.foldl_append]

/-- An item adds what it mentions. -/
theorem draft_addItem {item : TopItem}
    (h : dissection.addItem subject item = .ok next) :
    next.draft = (subject.mentions item).foldl Draft.mention
      dissection.draft := by
  obtain ⟨span, decoratorsFrom, stmt⟩ := item
  rw [addItem] at h
  dsimp only at h
  cases stmt with
  | importNames place specifiers source attributes =>
      dsimp only at h
      split at h
      · cases h
      · obtain ⟨target, htarget, h⟩ := bind_ok h
        obtain ⟨last, hlast, h⟩ := bind_ok h
        cases h
        have hmentions := Subject.mentionsFrom_of_resolve htarget fun target =>
          specifiers.flatMap (ImportSpecifier.mentions target)
        exact (draft_foldlM hlast draft_addImported).trans
          (congrArg _ hmentions.symm)
  | exportNames place specifiers source attributes =>
      cases source with
      | some source =>
          obtain ⟨target, htarget, h⟩ := bind_ok h
          obtain ⟨last, hlast, h⟩ := bind_ok h
          cases h
          have hmentions :=
            Subject.mentionsFrom_of_resolve htarget fun target =>
              specifiers.flatMap (ExportSpecifier.mentions target)
          exact (draft_foldlM hlast draft_addPassedOn).trans
            (congrArg _ hmentions.symm)
      | none => exact draft_foldlM h draft_addListed
  | exportDecl place declaration => exact draft_addDeclaration h
  | exportDefaultDecl place value =>
      cases value with
      | function | classExpr => exact draft_declare h
      | _ => exact draft_declare h
  | exportDefaultInterface place declaration =>
      obtain ⟨⟨name, ambient⟩, hdeclared, h⟩ := bind_ok h
      have hmentions : subject.mentions
          ⟨span, decoratorsFrom, .exportDefaultInterface place declaration⟩ =
            [.declares name true] := by
        change ((declaredName subject declaration).toOption.map
          Prod.fst).toList.map _ = _
        rw [hdeclared]
        rfl
      rw [hmentions]
      exact draft_declare h
  | exportDefaultExpr place value => exact draft_declare h
  | exportAll | importEquals | exportAssignment | exportNamespace => cases h
  | function | classDecl | «variable» | «using» | interface | typeAlias | enum
  | «namespace» =>
      exact draft_addDeclaration h
  | _ =>
      cases h
      exact draft_addStatement

end Dissection

/-- The items that mentions place, behind a number of declarations and a number
of statements. -/
def placed (declared statements : Nat) : List Mention → List Item
  | [] => []
  | .declares _ _ :: ahead =>
      .declaration declared :: placed (declared + 1) statements ahead
  | .runs :: ahead =>
      .statement statements :: placed declared (statements + 1) ahead
  | .passesOn reExport :: ahead =>
      .reExport reExport.exported :: placed declared statements ahead
  | .imports _ :: ahead | .lists _ :: ahead => placed declared statements ahead

/-- What mentions list, each name with the position it gets behind a number of
items. -/
def listings (position : Nat) : List Mention → List ListedExport
  | [] => []
  | .declares _ _ :: ahead | .runs :: ahead | .passesOn _ :: ahead =>
      listings (position + 1) ahead
  | .imports _ :: ahead => listings position ahead
  | .lists name :: ahead => ⟨position, name⟩ :: listings position ahead

theorem Draft.foldl_mention (draft : Draft) (mentions : List Mention) :
    let last := mentions.foldl Draft.mention draft
    last.declared = draft.declared ++ mentions.filterMap Mention.declaration? ∧
      last.imported = draft.imported ++ mentions.filterMap Mention.binding? ∧
      last.reExports = draft.reExports ++ mentions.filterMap Mention.reExport? ∧
      last.items = draft.items ++
        placed draft.declared.length draft.statements mentions ∧
      last.listed = draft.listed ++ listings draft.items.length mentions := by
  induction mentions generalizing draft with
  | nil => simp [placed, listings]
  | cons mention mentions ih =>
      have hnext := ih (draft.mention mention)
      cases mention <;>
        simpa [Draft.mention, placed, listings, List.filterMap_cons,
          Mention.declaration?, Mention.binding?, Mention.reExport?] using hnext

/-! ## The second pass -/

theorem Dissection.insertItem_length (front back : List Item) (item : Item) :
    insertItem (front ++ back) front.length item = front ++ item :: back := by
  rw [insertItem, List.take_left, List.drop_left]

namespace Outline

variable {all ahead : List Mention} {outline : Outline} {name : String}

theorem marking_append (marked : List String) (name : String)
    (flag : String × Bool) :
    marking (marked ++ [name]) flag = marking [name] (marking marked flag) := by
  simp only [marking, List.contains_append, Bool.or_assoc]

/-- To export a listed name is to mark it. -/
theorem flags_exposed {declarations : List Declaration}
    {flags : List (String × Bool)} {marked : List String}
    (h : declarations.map Declaration.flag = flags.map (marking marked))
    (name : String) :
    (declarations.map (Dissection.exposed [name])).map Declaration.flag =
      flags.map (marking (marked ++ [name])) := by
  have hexposed : Declaration.flag ∘ Dissection.exposed [name] =
      marking [name] ∘ Declaration.flag := rfl
  calc (declarations.map (Dissection.exposed [name])).map Declaration.flag
      = (declarations.map Declaration.flag).map (marking [name]) := by
        rw [List.map_map, hexposed, List.map_map]
    _ = (flags.map (marking marked)).map (marking [name]) := by rw [h]
    _ = flags.map (marking (marked ++ [name])) := by
        rw [List.map_map]
        exact List.map_congr_left fun flag _ =>
          (marking_append marked name flag).symm

theorem list_of_declared
    (h : name ∈ (all.filterMap Mention.declaration?).map Prod.fst) :
    outline.list all name =
      { outline with marked := outline.marked ++ [name] } := if_pos h

theorem list_of_passedOn
    (hundeclared : name ∉ (all.filterMap Mention.declaration?).map Prod.fst)
    (hpassed : name ∈ (outline.reExports ++ all.filterMap Mention.reExport?).map
      ReExport.exported) :
    outline.list all name = outline := by
  rw [list, if_neg hundeclared]
  split
  · rfl
  · rw [if_pos hpassed]

theorem list_of_imported {binding : ImportBinding}
    (hundeclared : name ∉ (all.filterMap Mention.declaration?).map Prod.fst)
    (hbinding : (all.filterMap Mention.binding?).find?
      (fun binding => binding.localName = name) = some binding)
    (hunpassed : name ∉
      (outline.reExports ++ all.filterMap Mention.reExport?).map
      ReExport.exported) :
    outline.list all name =
      outline.passOn ⟨name, binding.imported, binding.target⟩ := by
  rw [list, if_neg hundeclared, hbinding]
  exact if_neg hunpassed

/-- The lists before the mentions ahead have been worked off, and the outline
has come as far. The position is the number of items before these mentions in
the first pass. -/
structure Agrees (all ahead : List Mention) (position : Nat) (outline : Outline)
    (state : Module × Nat) : Prop where
  suffix : ahead <:+ all
  imported : state.1.importTable.values = all.filterMap Mention.binding?
  declared : outline.declared ++ ahead.filterMap Mention.declaration? =
    all.filterMap Mention.declaration?
  flags : state.1.declarations.values.map Declaration.flag =
    (all.filterMap Mention.declaration?).map (marking outline.marked)
  reExports : state.1.reExports.values.Perm
    (outline.reExports ++ ahead.filterMap Mention.reExport?)
  foreseen : all.filterMap Mention.reExport? ⊆
    outline.reExports ++ ahead.filterMap Mention.reExport?
  items : state.1.items =
    outline.items ++ placed outline.declared.length outline.statements ahead
  position : position + state.2 = outline.items.length

namespace Agrees

variable {position : Nat} {state : Module × Nat}

theorem declares {exported : Bool}
    (h : Agrees all (.declares name exported :: ahead) position outline state) :
    Agrees all ahead (position + 1)
      (outline.mention all (.declares name exported)) state := by
  have hposition := h.position
  exact { h with
    suffix := (List.suffix_cons _ _).trans h.suffix
    declared := (List.append_assoc _ _ _).trans h.declared
    items := by simpa [placed, Outline.mention] using h.items
    position := by
      rw [Outline.mention, List.length_append, List.length_singleton]
      omega }

theorem runs (h : Agrees all (.runs :: ahead) position outline state) :
    Agrees all ahead (position + 1) (outline.mention all .runs) state := by
  have hposition := h.position
  exact { h with
    suffix := (List.suffix_cons _ _).trans h.suffix
    items := by simpa [placed, Outline.mention] using h.items
    position := by
      rw [Outline.mention, List.length_append, List.length_singleton]
      omega }

theorem imports {binding : ImportBinding}
    (h : Agrees all (.imports binding :: ahead) position outline state) :
    Agrees all ahead position (outline.mention all (.imports binding)) state :=
  { h with suffix := (List.suffix_cons _ _).trans h.suffix }

theorem passesOn {reExport : ReExport}
    (h : Agrees all (.passesOn reExport :: ahead) position outline state) :
    Agrees all ahead (position + 1) (outline.mention all (.passesOn reExport))
      state := by
  have hposition := h.position
  have hpassed :
      outline.reExports ++ reExport :: ahead.filterMap Mention.reExport? =
      outline.reExports ++ [reExport] ++ ahead.filterMap Mention.reExport? :=
        List.append_cons _ _ _
  exact { h with
    suffix := (List.suffix_cons _ _).trans h.suffix
    reExports := h.reExports.trans (List.Perm.of_eq hpassed)
    foreseen := List.Subset.trans h.foreseen (List.Perm.of_eq hpassed).subset
    items := by simpa [placed, Outline.mention, passOn] using h.items
    position := by
      rw [Outline.mention, passOn, List.length_append, List.length_singleton]
      omega }

/-- The names that are declared are known in advance. -/
theorem keys_declarations (h : Agrees all ahead position outline state)
    (hkeyed : state.1.Keyed) :
    state.1.declarations.keys =
      (all.filterMap Mention.declaration?).map Prod.fst := by
  have hnames := congrArg (List.map Prod.fst) h.flags
  rw [List.map_map, List.map_map] at hnames
  rw [Table.keys_of_keyed hkeyed.declarations]
  exact hnames

/-- The names that are passed on are those of the outline and those that are
known in advance. -/
theorem mem_keys_reExports (h : Agrees all ahead position outline state)
    (hkeyed : state.1.Keyed) (name : String) :
    name ∈ state.1.reExports.keys ↔
      name ∈ (outline.reExports ++ all.filterMap Mention.reExport?).map
        ReExport.exported := by
  rw [Table.keys_of_keyed hkeyed.reExports, (h.reExports.map _).mem_iff]
  -- The table holds what clauses ahead pass on, which the outline has yet to
  -- read but knows of.
  have hahead : ahead.filterMap Mention.reExport? ⊆
      all.filterMap Mention.reExport? :=
    (h.suffix.sublist.filterMap _).subset
  have hfrom : outline.reExports ++ ahead.filterMap Mention.reExport? ⊆
      outline.reExports ++ all.filterMap Mention.reExport? :=
    List.append_subset.mpr
      ⟨List.subset_append_left _ _,
        List.Subset.trans hahead (List.subset_append_right _ _)⟩
  have hto : outline.reExports ++ all.filterMap Mention.reExport? ⊆
      outline.reExports ++ ahead.filterMap Mention.reExport? :=
    List.append_subset.mpr ⟨List.subset_append_left _ _, h.foreseen⟩
  exact ⟨fun hmem => List.map_subset _ hfrom hmem,
    fun hmem => List.map_subset _ hto hmem⟩

/-- A listed name is read where its list stands. -/
theorem lists {after : Module × Nat}
    (h : Agrees all (.lists name :: ahead) position outline state)
    (hkeyed : state.1.Keyed)
    (hafter : Dissection.exportListed state ⟨position, name⟩ = .ok after) :
    Agrees all ahead position (outline.list all name) after := by
  have hdeclarations := h.keys_declarations hkeyed
  have hahead := (List.suffix_cons _ _).trans h.suffix
  obtain ⟨hvalues, -, -⟩ := Dissection.exportListed_cut hkeyed hafter
  obtain ⟨hdeclared, rfl⟩ | ⟨hundeclared, hpassed, rfl⟩ |
    ⟨binding, hbinding, hundeclared, hunpassed, rfl⟩ :=
      Dissection.exportListed_cases hafter
  · rw [hdeclarations] at hdeclared
    rw [list_of_declared hdeclared]
    exact { h with
      suffix := hahead
      flags := (congrArg _ hvalues).trans (flags_exposed h.flags name) }
  · rw [hdeclarations] at hundeclared
    rw [h.mem_keys_reExports hkeyed] at hpassed
    rw [list_of_passedOn hundeclared hpassed]
    exact { h with suffix := hahead }
  · rw [hdeclarations] at hundeclared
    have hknown := h.mem_keys_reExports hkeyed name
    rw [Table.find?_of_keyed hkeyed.importTable, h.imported] at hbinding
    rw [list_of_imported hundeclared hbinding fun hmem =>
      hunpassed (hknown.mpr hmem)]
    have hposition := h.position
    have hadded (reExport : ReExport) :
        (outline.reExports ++ ahead.filterMap Mention.reExport? ++
          [reExport]).Perm
          (outline.reExports ++ [reExport] ++
            ahead.filterMap Mention.reExport?) := by
      rw [List.append_assoc, List.append_assoc]
      exact List.perm_append_comm.append_left _
    exact { h with
      suffix := hahead
      reExports := by
        dsimp only
        rw [Table.values_insert hunpassed]
        exact (h.reExports.append_right _).trans (hadded _)
      foreseen :=
        fun _ hmem =>
          (hadded _).subset (List.mem_append_left _ (h.foreseen hmem))
      items := by
        -- With what has been put in since it was counted, the position is the
        -- end of the outline.
        dsimp only
        rw [h.items, hposition, Dissection.insertItem_length]
        exact List.append_cons _ _ _
      position := by
        rw [passOn, List.length_append, List.length_singleton]
        dsimp only
        omega }

/-- Working off the lists ahead leads to where the outline leads, and each
position is one of the list of items as it is then. -/
theorem foldlM_exportListed {config : Config} {path : String} {isEntry : Bool}
    {last : Module × Nat} (h : Agrees all ahead position outline state)
    (hdissected : state.1.Dissected config path isEntry [])
    (hlast : (listings position ahead).foldlM Dissection.exportListed state =
      .ok last) :
    (∃ position,
      Agrees all [] position (ahead.foldl (Outline.mention all) outline) last) ∧
      ∀ {earlier entry later before},
        listings position ahead = earlier ++ entry :: later →
        earlier.foldlM Dissection.exportListed state = .ok before →
          entry.position + before.2 ≤ before.1.items.length := by
  induction ahead generalizing position outline state with
  | nil =>
      cases hlast
      exact ⟨⟨position, h⟩,
        fun {earlier _ _ _} hsplit => by cases earlier <;> cases hsplit⟩
  | cons mention ahead ih =>
      cases mention with
      | declares name exported => exact ih h.declares hdissected hlast
      | runs => exact ih h.runs hdissected hlast
      | imports binding => exact ih h.imports hdissected hlast
      | passesOn reExport => exact ih h.passesOn hdissected hlast
      | lists name =>
          rw [listings, List.foldlM_cons] at hlast
          obtain ⟨next, hnext, hlast⟩ := bind_ok hlast
          obtain ⟨hagrees, hrange⟩ := ih (h.lists hdissected.keyed hnext)
            (Dissection.dissected_exportListed hnext hdissected) hlast
          refine ⟨hagrees,
            fun {earlier entry later before} hsplit hbefore => ?_⟩
          cases earlier with
          | nil =>
              cases hsplit
              cases hbefore
              rw [h.position, h.items, List.length_append]
              exact Nat.le_add_right _ _
          | cons head earlier =>
              injection hsplit with hhead hsplit
              subst hhead
              rw [List.foldlM_cons] at hbefore
              obtain ⟨other, hother, hbefore⟩ := bind_ok hbefore
              rw [hnext] at hother
              cases hother
              exact hrange hsplit hbefore

end Agrees

/-- When all items have been seen, no list has been worked off and the outline
is empty. -/
theorem agrees_of_draft {dissection : Dissection}
    (h : dissection.draft = all.foldl Draft.mention .empty) :
    Agrees all all 0 .empty (dissection.module, 0) ∧
    dissection.listed = listings 0 all := by
  obtain ⟨hdeclared, himported, hreExports, hitems, hlisted⟩ :=
    Draft.foldl_mention .empty all
  rw [← h] at hdeclared himported hreExports hitems hlisted
  refine ⟨?_, hlisted⟩
  constructor
  case suffix => exact List.suffix_rfl
  case imported => exact himported
  case declared => rfl
  case flags =>
    have hunmarked : marking [] = id := by
      funext flag
      exact Prod.ext rfl (Bool.or_false _)
    rw [show Outline.empty.marked = [] from rfl, hunmarked, List.map_id]
    exact hdeclared
  case reExports => exact List.Perm.of_eq hreExports
  case foreseen => exact List.Subset.refl _
  case items => exact hitems
  case position => rfl

end Outline

/-- A file that is taken apart in two passes gives what its outline says, which
is made in one: the same declarations are exported, before those of a file that
is no entry are hidden, the same items come in the same order, and the same
names are passed on from the same modules. Where a name is put in between items,
there are as many items before it as its position says. -/
theorem Module.outlined_ofSource {subject : Subject} {isEntry : Bool}
    {module : Module} (h : Module.ofSource subject isEntry = .ok module) :
    ∃ dissection shown inserted,
      subject.file.items.foldlM (Dissection.addItem subject)
        ⟨.empty subject.path isEntry, []⟩ =
        .ok dissection ∧
      dissection.listed.foldlM Dissection.exportListed (dissection.module, 0) =
        .ok (shown, inserted) ∧
      module = (if isEntry then shown else
        { shown with
          declarations := shown.declarations.map fun _ declaration =>
            { declaration with exported := false } }) ∧
      shown.declarations.values.map Declaration.flag = subject.outline.flags ∧
      module.items = subject.outline.items ∧
      module.reExports.entries.Perm
        (subject.outline.reExports.map fun reExport =>
          (reExport.exported, reExport)) ∧
      ∀ earlier entry later before,
        dissection.listed = earlier ++ entry :: later →
        earlier.foldlM Dissection.exportListed (dissection.module, 0) =
          .ok before →
          entry.position + before.2 ≤ before.1.items.length := by
  rw [ofSource] at h
  obtain ⟨dissection, hdissection, h⟩ := bind_ok h
  obtain ⟨shown, inserted, hshown, hmodule⟩ := Dissection.finish_cases h
  have hkept : (dissection.module, 0).1.Dissected subject.config subject.path
      isEntry [] :=
    Dissection.keeps_of_foldlM hdissection
  have hshownKept : shown.Dissected subject.config subject.path isEntry [] :=
    Dissection.dissected_foldlM hshown hkept
  have hdraft := Dissection.draft_foldlM hdissection Dissection.draft_addItem
  obtain ⟨hstart, hlisted⟩ := Outline.agrees_of_draft hdraft
  obtain ⟨⟨position, hagrees⟩, hrange⟩ :=
    hstart.foldlM_exportListed hkept (hlisted ▸ hshown)
  have hflags : shown.declarations.values.map Declaration.flag =
      subject.outline.flags := by
    have hdeclared := (List.append_nil _).symm.trans hagrees.declared
    exact hagrees.flags.trans (congrArg (List.map _) hdeclared.symm)
  have hitems : shown.items = subject.outline.items :=
    hagrees.items.trans (List.append_nil _)
  have hreExports : shown.reExports.entries.Perm
      (subject.outline.reExports.map fun reExport =>
        (reExport.exported, reExport)) := by
    rw [Table.entries_of_keyed hshownKept.keyed.reExports]
    exact (hagrees.reExports.trans (List.Perm.of_eq (List.append_nil _))).map _
  have hpositions : ∀ earlier entry later before,
      dissection.listed = earlier ++ entry :: later →
      earlier.foldlM Dissection.exportListed (dissection.module, 0) =
        .ok before →
        entry.position + before.2 ≤ before.1.items.length := by
    rw [hlisted]
    exact fun _ _ _ _ => hrange
  obtain ⟨hshows, rfl⟩ | ⟨hhides, rfl⟩ := hmodule
  · cases hshownKept.isEntry.symm.trans hshows
    exact ⟨dissection, module, inserted, hdissection, hshown, rfl, hflags,
      hitems, hreExports, hpositions⟩
  · cases hshownKept.isEntry.symm.trans hhides
    exact ⟨dissection, shown, inserted, hdissection, hshown, rfl, hflags,
      hitems, hreExports, hpositions⟩

/-- A file that lists names before and between what they name, two at one place,
one twice, and one that a clause passes on. -/
def interleaved : Except Unreadable SourceFile :=
  SourceFile.read ⟨false, true⟩
    "export{a,f};import{a,b,c,d}from'./m';f();export{b,a,d};let f=eval;export{c}from'./n';export{c}".toList

theorem outline_interleaved :
    (interleaved.toOption.bind fun file =>
      (Module.ofSource ⟨.default, "/a.ts", file⟩ false).toOption.map
        fun _ => (Subject.mk .default "/a.ts" file).outline) =
          some ⟨[("f", false)], 1, ["f"],
            [⟨"a", "a", "/m.ts"⟩, ⟨"b", "b", "/m.ts"⟩, ⟨"d", "d", "/m.ts"⟩,
              ⟨"c", "c", "/n.ts"⟩],
            [.reExport "a", .statement 0, .reExport "b", .reExport "d",
              .declaration 0, .reExport "c"]⟩ := by
  decide +kernel

theorem Module.outlined_ofSource_interleaved :
    ∃ file module,
      ∃ (dissection : Dissection) (shown : Module) (inserted : Nat),
      interleaved = .ok file ∧
      Module.ofSource ⟨.default, "/a.ts", file⟩ false = .ok module ∧
      dissection.listed.foldlM Dissection.exportListed (dissection.module, 0) =
        .ok (shown, inserted) ∧
      shown.declarations.values.map Declaration.flag = [("f", true)] ∧
      module.items =
        [.reExport "a", .statement 0, .reExport "b", .reExport "d",
          .declaration 0,
        .reExport "c"] ∧
      module.reExports.entries.Perm
        [("a", ⟨"a", "a", "/m.ts"⟩), ("b", ⟨"b", "b", "/m.ts"⟩),
        ("d", ⟨"d", "d", "/m.ts"⟩), ("c", ⟨"c", "c", "/n.ts"⟩)] := by
  obtain ⟨file, hfile, hrest⟩ := Option.bind_eq_some_iff.mp outline_interleaved
  obtain ⟨module, hmodule, houtline⟩ := Option.map_eq_some_iff.mp hrest
  obtain ⟨dissection, shown, inserted, -, hshown, -, hflags, hitems,
      hreExports, -⟩ :=
    Module.outlined_ofSource (ok_of_toOption hmodule)
  rw [houtline] at hflags hitems hreExports
  exact ⟨file, module, dissection, shown, inserted, ok_of_toOption hfile,
    ok_of_toOption hmodule, hshown, hflags, hitems, hreExports⟩

end Prune
