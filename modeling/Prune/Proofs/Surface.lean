import Prune.Proofs.Pieces

/-!
# What an entry exports

A declaration is exported by its own item or by a list of exports, and what a
list names without that the file declares it is passed on. Together these are
the names that the items of the file export (`Module.mem_surface_iff`), so none
is lost or added when the file is taken apart.

What stands for an exported declaration in the output is another matter. Its
text was cut out of its item before the lists were worked off. It has the words
that export it if they are words of the item, and a declaration that only a list
exports is put out without them: the list itself is no piece of the output.
-/

namespace Prune

open Script

/-- The names that a module exports: those of its exported declarations, and
those it passes on. -/
def Module.surface (module : Module) : List String :=
  (module.declarations.values.filter Declaration.exported).map
    Declaration.name ++
    module.reExports.keys

/-- The names that an item exports. -/
def Subject.exportsOf (subject : Subject) (item : TopItem) : List String :=
  (if item.exports then (subject.nameOf? item.stmt).toList else []) ++
    item.listed ++ item.passedOn

theorem Module.mem_surface {module : Module} {name : String} :
    name ∈ module.surface ↔
      (∃ declaration ∈ module.declarations.values,
        declaration.exported = true ∧ declaration.name = name) ∨
        name ∈ module.reExports.keys := by
  rw [surface, List.mem_append, List.mem_map]
  simp only [List.mem_filter, and_assoc]

theorem Subject.mem_exportsOf {subject : Subject} {item : TopItem}
    {name : String} :
    name ∈ subject.exportsOf item ↔
      item.exports = true ∧ subject.nameOf? item.stmt = some name ∨
        name ∈ item.listed ∨
        name ∈ item.passedOn := by
  rw [exportsOf, List.append_assoc, List.mem_append, List.mem_append]
  refine or_congr_left ?_
  split
  · next hexports => rw [Option.mem_toList, and_iff_right hexports]
  · next hexports =>
      exact ⟨fun h => absurd h List.not_mem_nil, fun h => absurd h.1 hexports⟩

theorem Script.TopItem.textFrom_of_exports {item : TopItem}
    (h : item.exports = false) :
    item.textFrom = item.span.lo := by
  rw [exports] at h
  rw [textFrom]
  split at h
  · cases h
  · rfl

theorem Script.TopItem.declares_of_exports {item : TopItem}
    (h : item.exports = true) :
    item.declares = true := by
  rw [exports] at h
  rw [declares]
  split at h
  · next hrole => rw [hrole]
  · cases h

section

variable {subject : Subject} {module : Module}
    (h : Module.ofSource subject true = .ok module)

include h

/-- A declaration of an entry is exported by its own item or by a list. -/
theorem Module.exists_cuts {declaration : Declaration}
    (hdeclaration : declaration ∈ module.declarations.values) :
    ∃ item ∈ subject.file.items, subject.Cuts item declaration ∧
      (declaration.exported = true ↔
        item.exports = true ∨ declaration.name ∈ subject.file.listed) := by
  obtain ⟨item, hitem, hcuts, hflag⟩ :=
    exists_of_mem_right (cut_ofSource h).1 hdeclaration
  refine ⟨item, (List.mem_filter.mp hitem).1, hcuts, ?_⟩
  rw [hflag, Bool.true_and, Bool.or_eq_true, List.contains_iff_mem]

theorem Module.exists_exported {item : TopItem}
    (hitem : item ∈ subject.file.items) (hexports : item.exports = true) :
    ∃ declaration ∈ module.declarations.values,
      declaration.exported = true ∧
      subject.nameOf? item.stmt = some declaration.name := by
  obtain ⟨declaration, hdeclaration, hcuts, hflag⟩ :=
    exists_of_mem_left (cut_ofSource h).1
      (List.mem_filter.mpr ⟨hitem, TopItem.declares_of_exports hexports⟩)
  rw [hexports, Bool.true_or, Bool.and_true] at hflag
  exact ⟨declaration, hdeclaration, hflag, hcuts.name⟩

/-- A listed name is exported where it is declared, and passed on where it is
not. -/
theorem Module.mem_surface_of_listed {name : String}
    (hlisted : name ∈ subject.file.listed) :
    name ∈ module.surface := by
  rw [mem_surface]
  by_cases hdeclared : name ∈ module.declarations.keys
  · obtain ⟨⟨key, declaration⟩, hentry, rfl⟩ := List.mem_map.mp hdeclared
    have hkey := (dissected_ofSource h).keyed.declarations hentry
    have hdeclaration : declaration ∈ module.declarations.values :=
      List.mem_map_of_mem hentry
    obtain ⟨_, -, -, hexported⟩ := exists_cuts h hdeclaration
    exact Or.inl
      ⟨declaration, hdeclaration, hexported.mpr (Or.inr (hkey ▸ hlisted)), hkey⟩
  · exact Or.inr ((mem_reExports_ofSource h).mpr (Or.inr ⟨hlisted, hdeclared⟩))

theorem Module.mem_surface_iff {name : String} :
    name ∈ module.surface ↔ ∃ item ∈ subject.file.items,
      name ∈ subject.exportsOf item := by
  have hlists : name ∈ subject.file.listed →
      ∃ item ∈ subject.file.items,
        name ∈ subject.exportsOf item := fun hlisted => by
    obtain ⟨item, hitem, hlists⟩ := List.mem_flatMap.mp hlisted
    exact ⟨item, hitem, Subject.mem_exportsOf.mpr (Or.inr (Or.inl hlists))⟩
  constructor
  · intro hname
    rcases mem_surface.mp hname with
      ⟨declaration, hdeclaration, hexported, rfl⟩ | hpassed
    · obtain ⟨item, hitem, hcuts, hwhy⟩ := exists_cuts h hdeclaration
      rcases hwhy.mp hexported with hexports | hlisted
      · exact ⟨item, hitem,
          Subject.mem_exportsOf.mpr (Or.inl ⟨hexports, hcuts.name⟩)⟩
      · exact hlists hlisted
    · rcases (mem_reExports_ofSource h).mp hpassed with
        ⟨item, hitem, hpasses⟩ | ⟨hlisted, -⟩
      · exact ⟨item, hitem, Subject.mem_exportsOf.mpr (Or.inr (Or.inr hpasses))⟩
      · exact hlists hlisted
  · rintro ⟨item, hitem, hname⟩
    rcases Subject.mem_exportsOf.mp hname with
      ⟨hexports, hnamed⟩ | hlisted | hpasses
    · obtain ⟨declaration, hdeclaration, hexported, hsame⟩ :=
        exists_exported h hitem hexports
      rw [hnamed, Option.some_inj] at hsame
      exact mem_surface.mpr
        (Or.inl ⟨declaration, hdeclaration, hexported, hsame.symm⟩)
    · exact mem_surface_of_listed h
        (List.mem_flatMap.mpr ⟨item, hitem, hlisted⟩)
    · exact mem_surface.mpr
        (Or.inr
          ((mem_reExports_ofSource h).mpr (Or.inl ⟨item, hitem, hpasses⟩)))

/-- An entry exports what the items of its file export, name by name. The text
that stands for an exported declaration is that of its item, from the decorators
on, if the item exports it. Otherwise a list of exports names it, and the text
is that of the bare declaration. -/
theorem Module.surface_ofSource :
    (∀ name, name ∈ module.surface ↔
      ∃ item ∈ subject.file.items, name ∈ subject.exportsOf item) ∧
    ∀ declaration ∈ module.declarations.values, declaration.exported = true →
      ∃ item ∈ subject.file.items,
        subject.nameOf? item.stmt = some declaration.name ∧
        (∀ asRoot, declaration.text asRoot =
          subject.text item.textFrom item.span.hi) ∧
        (item.exports = true ∨ item.exports = false ∧
          item.textFrom = item.span.lo ∧
          declaration.name ∈ subject.file.listed) := by
  refine ⟨fun name => mem_surface_iff h,
    fun declaration hdeclaration hexported => ?_⟩
  obtain ⟨item, hitem, hcuts, hwhy⟩ := exists_cuts h hdeclaration
  refine ⟨item, hitem, hcuts.name, fun asRoot => ?_, ?_⟩
  · rw [Declaration.text, hexported, Bool.true_or, if_pos rfl, hcuts.itemText]
  · cases hexports : item.exports with
    | true => exact Or.inl rfl
    | false =>
        rw [hexports] at hwhy
        exact Or.inr ⟨rfl, TopItem.textFrom_of_exports hexports,
          (hwhy.mp hexported).resolve_left Bool.false_ne_true⟩

end

/-- A file that exports one declaration by a list, and one by its own item. -/
def listsLast : Except Script.Unreadable Script.SourceFile :=
  Script.SourceFile.read ⟨false, true⟩
    "let f=eval;export let g=eval;export{f}".toList

theorem declarations_listsLast :
    (listsLast.toOption.bind fun file =>
      (Module.ofSource ⟨.default, "/a.ts", file⟩ true).toOption.map
        fun module => module.declarations.values) =
          some [⟨"f", "let f=eval;", "let f=eval;", true, [.named "eval"]⟩,
            ⟨"g", "export let g=eval;", "let g=eval;", true,
              [.named "eval"]⟩] := by
  decide +kernel

theorem exists_module_listsLast : ∃ file module, listsLast = .ok file ∧
    Module.ofSource ⟨.default, "/a.ts", file⟩ true = .ok module ∧
    module.declarations.values =
      [⟨"f", "let f=eval;", "let f=eval;", true, [.named "eval"]⟩,
        ⟨"g", "export let g=eval;", "let g=eval;", true, [.named "eval"]⟩] := by
  obtain ⟨file, hfile, hrest⟩ :=
    Option.bind_eq_some_iff.mp declarations_listsLast
  obtain ⟨module, hmodule, hvalues⟩ := Option.map_eq_some_iff.mp hrest
  exact ⟨file, module, ok_of_toOption hfile, ok_of_toOption hmodule, hvalues⟩

theorem Module.surface_ofSource_listsLast :
    ∃ file module, listsLast = .ok file ∧
    Module.ofSource ⟨.default, "/a.ts", file⟩ true = .ok module ∧
      ∀ name ∈ ["f", "g"], ∃ item ∈ file.items,
        name ∈ (Subject.mk .default "/a.ts" file).exportsOf item := by
  obtain ⟨file, module, hfile, hmodule, hvalues⟩ := exists_module_listsLast
  refine ⟨file, module, hfile, hmodule, fun name hname => ?_⟩
  refine ((Module.surface_ofSource hmodule).1 name).mp
    (Module.mem_surface.mpr (Or.inl ?_))
  rw [hvalues]
  revert name
  decide +kernel

/-- The text of a declaration that only a list exports does not export it. -/
theorem Module.listed_without_export : ∃ file module, listsLast = .ok file ∧
    Module.ofSource ⟨.default, "/a.ts", file⟩ true = .ok module ∧
      ∃ declaration ∈ module.declarations.values, declaration.exported = true ∧
        ∀ asRoot, ¬ "export".toList <:+: (declaration.text asRoot).toList := by
  obtain ⟨file, module, hfile, hmodule, hvalues⟩ := exists_module_listsLast
  refine ⟨file, module, hfile, hmodule, ?_⟩
  rw [hvalues]
  exact ⟨_, List.mem_cons_self, rfl, by decide +kernel⟩

end Prune
