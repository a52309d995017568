import Prune.Proofs.SelfContained

/-!
# Names of the runtime among the declarations of a program

A reference to a name that the runtime provides is put out as it stands, into
one scope with the declarations of all modules. Its own module neither declares
nor imports the name; that is why it means the runtime. Another module may
declare it.

What is noted of names speaks of declarations alone: a name is a collision
exactly if declarations of it are put out from two modules
(`mem_collisions_iff`). So a name of the runtime that nothing is noted of has
one declaration in the output at most, and that one is of another module
(`compile_borrows`). It may have that one: nothing compares the names that are
left to the runtime with those that other modules declare, as `lender` shows.

`Emission.Founded` is the invariant for the half of `mem_collisions_iff` that
`Noted` does not give: whatever is noted has been put out.
-/

namespace Prune

/-! ## What a collision tells -/

/-- The name of the declaration that a node is. -/
def Graph.declaredName? (graph : Graph) : Node → Option String
  | .declaration slot => (graph.declaration? slot).map Declaration.name
  | .statement _ => none

namespace Emission

variable {graph : Graph} {emission : Emission}

/-- A declaration of a name has been put out. -/
def PutsOut (graph : Graph) (emission : Emission) (slot : Slot)
    (name : String) : Prop :=
  emission.isVisited (.declaration slot) = true ∧
    ∃ declaration,
      graph.declaration? slot = some declaration ∧ declaration.name = name

/-- A node that has been put out leaves a name to the runtime. -/
def Borrows (graph : Graph) (emission : Emission) (node : Node)
    (name : String) : Prop :=
  emission.isVisited node = true ∧
    ∃ reference ∈ graph.referencesOf node,
      reference.name = name ∧ reference.target = some .ambient

/-- Every name that is noted has been put out from where it is at home, and
every collision from two modules. -/
structure Founded (graph : Graph) (emission : Emission) : Prop where
  home : ∀ name module, emission.home? name = some module →
    ∃ slot, emission.PutsOut graph slot name ∧ slot.module = module
  collisions : ∀ name ∈ emission.collisions, ∃ one other,
    emission.PutsOut graph one name ∧
    emission.PutsOut graph other name ∧ one.module ≠ other.module

theorem home?_noteName {name other : String} {module place : Nat}
    (h : (emission.noteName name module).home? other = some place) :
    emission.home? other = some place ∨ other = name ∧ place = module := by
  rw [noteName] at h
  split at h
  · by_cases hname : name = other
    · rw [home?, List.find?_cons_of_pos (by simpa using hname)] at h
      exact Or.inr ⟨hname.symm, (Option.some.inj h).symm⟩
    · rw [home?, List.find?_cons_of_neg (by simpa using hname)] at h
      exact Or.inl h
  · split at h
    · exact Or.inl h
    · exact Or.inl h

theorem mem_collisions_noteName {name other : String} {module : Nat}
    (h : other ∈ (emission.noteName name module).collisions) :
    other ∈ emission.collisions ∨
      other = name ∧ ∃ first,
        emission.home? name = some first ∧ first ≠ module := by
  rw [noteName] at h
  split at h
  · exact Or.inl h
  · next first hfind =>
      split at h
      · exact Or.inl h
      · next hfirst =>
          refine (List.mem_append.mp h).imp_right fun hnew =>
            ⟨List.mem_singleton.mp hnew, first, ?_⟩
          exact ⟨by rw [home?, hfind, Option.map_some], hfirst⟩

theorem PutsOut.visit {slot : Slot} {name : String}
    (h : emission.PutsOut graph slot name) (node : Node) :
    (emission.visit graph node).PutsOut graph slot name := by
  refine ⟨isVisited_iff.mpr ?_, h.2⟩
  rw [visited_visit]
  exact List.mem_cons_of_mem _ (isVisited_iff.mp h.1)

theorem putsOut_visit (emission : Emission) {slot : Slot}
    {declaration : Declaration}
    (h : graph.declaration? slot = some declaration) :
    (emission.visit graph (.declaration slot)).PutsOut graph slot
      declaration.name := by
  refine ⟨isVisited_iff.mpr ?_, declaration, h, rfl⟩
  rw [visited_visit]
  exact List.mem_cons_self

/-- What a visit notes of a name is what was noted of it, unless the visit puts
out a declaration of that name. -/
theorem noted_visit (graph : Graph) (emission : Emission) (node : Node) :
    graph.declaredName? node = none ∧
    (emission.visit graph node).names = emission.names ∧
        (emission.visit graph node).collisions = emission.collisions ∨
      ∃ slot declaration,
        node = .declaration slot ∧ graph.declaration? slot = some declaration ∧
        (emission.visit graph node).names =
          (emission.noteName declaration.name slot.module).names ∧
        (emission.visit graph node).collisions =
          (emission.noteName declaration.name slot.module).collisions := by
  rw [Emission.visit]
  cases node with
  | statement slot =>
      rw [emit]
      cases graph.statement? slot with
      | none => exact Or.inl ⟨rfl, rfl, rfl⟩
      | some statement => exact Or.inl ⟨rfl, rfl, rfl⟩
  | declaration slot =>
      rw [emit]
      cases hdeclaration : graph.declaration? slot with
      | none =>
          refine Or.inl ⟨?_, rfl, rfl⟩
          rw [Graph.declaredName?, hdeclaration, Option.map_none]
      | some declaration =>
          refine Or.inr ⟨slot, declaration, rfl, hdeclaration, ?_⟩
          dsimp only [noteName]
          split
          · exact ⟨rfl, rfl⟩
          · split <;> exact ⟨rfl, rfl⟩

theorem Founded.visit (h : emission.Founded graph) (node : Node) :
    (emission.visit graph node).Founded graph := by
  have hhome : ∀ {name module}, emission.home? name = some module →
      ∃ slot, (emission.visit graph node).PutsOut graph slot name ∧
        slot.module = module := by
    intro name module hold
    obtain ⟨slot, hput, hmodule⟩ := h.home name module hold
    exact ⟨slot, hput.visit node, hmodule⟩
  have hcollisions : ∀ {name}, name ∈ emission.collisions → ∃ one other,
      (emission.visit graph node).PutsOut graph one name ∧
        (emission.visit graph node).PutsOut graph other name ∧
        one.module ≠ other.module := by
    intro name hold
    obtain ⟨one, other, hone, hother, hne⟩ := h.collisions name hold
    exact ⟨one, other, hone.visit node, hother.visit node, hne⟩
  rcases noted_visit graph emission node with
    ⟨-, hnames, hcollided⟩ |
      ⟨slot, declaration, rfl, hdeclaration, hnames, hcollided⟩
  · refine ⟨fun name module hnew => hhome ?_,
      fun name hnew => hcollisions (hcollided ▸ hnew)⟩
    rwa [home?, hnames] at hnew
  · have hput := putsOut_visit emission hdeclaration
    refine ⟨fun name module hnew => ?_, fun name hnew => ?_⟩
    · rw [home?, hnames] at hnew
      rcases home?_noteName hnew with hold | ⟨rfl, rfl⟩
      · exact hhome hold
      · exact ⟨slot, hput, rfl⟩
    · rw [hcollided] at hnew
      rcases mem_collisions_noteName hnew with hold | ⟨rfl, first, hold, hfirst⟩
      · exact hcollisions hold
      · -- The declaration that was put out first keeps the name, from another
        -- module.
        obtain ⟨other, hother, rfl⟩ := hhome hold
        exact ⟨other, slot, hother, hput, hfirst⟩

theorem founded_start (graph : Graph) (roots : List Node) :
    (start roots).Founded graph :=
  ⟨fun _ _ h => absurd h (Option.some_ne_none _).symm,
    fun _ h => absurd h List.not_mem_nil⟩

theorem founded_emission (graph : Graph) (roots : List Node) :
    (graph.emission roots).Founded graph :=
  emission_induction (P := fun _ _ emission => emission.Founded graph)
    (fun _ _ _ _ _ h => h) (fun _ node _ _ _ h => h.visit node)
    (fun _ _ _ h => h)
    (founded_start graph roots)

/-- A name is a collision exactly if declarations of it have been put out from
two modules. -/
theorem mem_collisions_iff {roots : List Node} {name : String} :
    name ∈ (graph.emission roots).collisions ↔ ∃ one other,
      (graph.emission roots).PutsOut graph one name ∧
        (graph.emission roots).PutsOut graph other name ∧
        one.module ≠ other.module := by
  refine ⟨(founded_emission graph roots).collisions name, ?_⟩
  rintro ⟨one, other, ⟨hvisited, declaration, hdeclaration, rfl⟩,
    ⟨hotherVisited, found, hfound, hname⟩, hne⟩
  have hnotes :=
    noted_emission graph roots one declaration (isVisited_iff.mp hvisited)
      hdeclaration
  have hotherNotes :=
    noted_emission graph roots other found
      (isVisited_iff.mp hotherVisited) hfound
  rw [hname] at hotherNotes
  by_contra hcollision
  have hhome := hnotes.resolve_left hcollision
  rw [hotherNotes.resolve_left hcollision, Option.some_inj] at hhome
  exact hne hhome.symm

end Emission

/-! ## What is left to the runtime -/

/-- A name is left to the runtime if the runtime provides it, and its own module
neither declares nor imports it. -/
theorem Graph.resolveName_ambient {graph : Graph} {isGlobal : String → Bool}
    {index : Nat} {name : String}
    (h : graph.resolveName isGlobal index name = .ok .ambient) :
    isGlobal name = true ∧ ∃ module, graph.modules[index]? = some module ∧
      name ∉ module.declarations.keys ∧ name ∉ module.importTable.keys := by
  rw [resolveName] at h
  split at h
  · cases h
  · next module hmodule =>
      split at h
      · cases h
      · next hplace =>
          split at h
          · split at h
            · cases h
            · obtain ⟨_, -, hslot⟩ := map_ok h
              cases hslot
          · next hfind =>
              split at h
              · next hglobal =>
                  exact ⟨hglobal, module, hmodule,
                    Table.place?_eq_none_iff.mp hplace,
                    Table.find?_eq_none_iff.mp hfind⟩
              · cases h

/-- What is put out under a name that a node leaves to the runtime is of another
module. -/
theorem Graph.LinksTo.module_ne_of_borrows {graph linked : Graph}
    {isGlobal : String → Bool} (h : graph.LinksTo isGlobal linked)
    (hkeyed : graph.Keyed) {emission : Emission} {node : Node} {name : String}
    (hborrows : emission.Borrows linked node name) :
    isGlobal name = true ∧
      ∀ slot, emission.PutsOut linked slot name →
        slot.module ≠ node.slot.module := by
  obtain ⟨-, reference, hreference, rfl, hambient⟩ := hborrows
  obtain ⟨module, hmodule, hmem⟩ := Graph.mem_referencesOf hreference
  obtain ⟨target, htarget, hresolved⟩ := h.target hmodule hmem
  rw [hambient, Option.some_inj] at htarget
  subst htarget
  obtain ⟨hglobal, before, hbefore, hundeclared, -⟩ :=
    Graph.resolveName_ambient hresolved
  refine ⟨hglobal, fun slot hput heq => hundeclared ?_⟩
  obtain ⟨-, declaration, hdeclaration, hname⟩ := hput
  have hdeclares :=
    h.declares.mp
      (Graph.declares_of_declaration? (h.keyed.mpr hkeyed) hdeclaration)
  obtain ⟨declaring, hdeclaring, hplace⟩ := hdeclares
  rw [heq, hbefore, Option.some_inj] at hdeclaring
  subst hdeclaring
  rw [← hname]
  by_contra hnone
  rw [Table.place?_eq_none_iff.mpr hnone] at hplace
  cases hplace

/-- If a unit of an output leaves a name to the runtime, then the runtime
provides that name, the unit's own module puts out no declaration of it, and the
modules together put out one declaration of it at most, unless it is noted as a
collision. It is noted exactly if two modules put it out. -/
theorem Session.compile_borrows {session after : Session}
    {entry output : String} (h : session.compile entry = (.ok output, after)) :
    ∃ roots, after.graph.roots = .ok roots ∧
      output = (after.graph.emission roots).output ∧
      ∀ node name, (after.graph.emission roots).Borrows after.graph node name →
        session.config.isGlobal name = true ∧
        (∀ slot, (after.graph.emission roots).PutsOut after.graph slot name →
          slot.module ≠ node.slot.module) ∧
        (name ∉ (after.graph.emission roots).collisions → ∀ one other,
          (after.graph.emission roots).PutsOut after.graph one name →
            (after.graph.emission roots).PutsOut after.graph other name →
            one = other) ∧
        (name ∈ (after.graph.emission roots).collisions ↔ ∃ one other,
          (after.graph.emission roots).PutsOut after.graph one name ∧
            (after.graph.emission roots).PutsOut after.graph other name ∧
            one.module ≠ other.module) := by
  obtain ⟨graph, roots, -, hlinks, hkeyed, hroots, houtput⟩ :=
    exists_linked_of_compile h
  refine ⟨roots, hroots, houtput, fun node name hborrows => ?_⟩
  obtain ⟨hglobal, hforeign⟩ := hlinks.module_ne_of_borrows hkeyed hborrows
  refine ⟨hglobal, hforeign, fun hcollision one other hone hother => ?_,
    Emission.mem_collisions_iff⟩
  have hdeclares : ∀ slot,
      (after.graph.emission roots).PutsOut after.graph slot name →
      after.graph.Declares slot name := by
    rintro slot ⟨-, declaration, hdeclaration, rfl⟩
    exact Graph.declares_of_declaration? (hlinks.keyed.mpr hkeyed) hdeclaration
  refine (hdeclares one hone).unique (hdeclares other hother) ?_
  by_contra hne
  exact hcollision
    (Emission.mem_collisions_iff.mpr ⟨one, other, hone, hother, hne⟩)

namespace Session

/-- Two files of a session. The second declares a name that the first leaves to
the runtime. -/
def eclipsed : Session :=
  ((start .default .empty).insert "/a.ts" "import{f}from'./b';f(Map)").insert
    "/b.ts"
    "let Map=eval;export let f=Map"

/-- The modules of these files. -/
def eclipsedModules : List Module :=
  [{ Module.empty "/a.ts" true with
      imports := [⟨"./b", "/b.ts"⟩]
      importTable := .ofList [("f", ⟨"f", "f", "/b.ts"⟩)]
      statements := [⟨"f(Map)", false, [.named "f", .named "Map"]⟩]
      items := [.statement 0] },
    { Module.empty "/b.ts" false with
      declarations := .ofList
        [("Map",
          ⟨"Map", "let Map=eval;", "let Map=eval;", false, [.named "eval"]⟩),
          ("f", ⟨"f", "export let f=Map", "let f=Map", false, [.named "Map"]⟩)]
      items := [.declaration 0, .declaration 1] }]

theorem build_eclipsed :
    let build :=
  Build.ofSources eclipsed.config eclipsed.sources "/a.ts" eclipsed.bytesRead
    build.errors.isEmpty = true ∧ build.modules.reverse = eclipsedModules := by
  decide +kernel

theorem program_eclipsed :
    ((Build.graphOf eclipsedModules).toOption.bind fun graph =>
      (Program.ofGraph eclipsed.config graph).toOption.bind fun program =>
        program.graph.roots.toOption.map fun roots =>
          (program.emission.output,
            program.graph.referencesOf (.statement ⟨0, 0⟩),
            (program.graph.declaration? ⟨1, 0⟩).map Declaration.name,
            (program.graph.emission roots).visited,
            (program.graph.emission roots).collisions)) =
      some ("f(Map)\nlet f=Map\nlet Map=eval;",
        [⟨"f", some (.declaration ⟨1, 1⟩)⟩, ⟨"Map", some .ambient⟩], some "Map",
        [.declaration ⟨1, 0⟩, .declaration ⟨1, 1⟩, .statement ⟨0, 0⟩], []) := by
  cbv

/-- The name that the first file leaves to the runtime is put out from the
second, and nothing is noted of it. -/
theorem compile_eclipsed :
    ∃ after roots,
      eclipsed.compile
        "/a.ts" = (.ok "f(Map)\nlet f=Map\nlet Map=eval;", after) ∧
      after.graph.roots = .ok roots ∧
      (after.graph.emission roots).Borrows after.graph
        (.statement ⟨0, 0⟩) "Map" ∧
      (after.graph.emission roots).PutsOut after.graph ⟨1, 0⟩ "Map" ∧
      (after.graph.emission roots).collisions = [] := by
  obtain ⟨graph, hgraph, hrest⟩ := Option.bind_eq_some_iff.mp program_eclipsed
  obtain ⟨program, hprogram, hrest⟩ := Option.bind_eq_some_iff.mp hrest
  obtain ⟨roots, hroots, hfacts⟩ := Option.map_eq_some_iff.mp hrest
  simp only [Prod.mk.injEq] at hfacts
  obtain ⟨houtput, hreferences, hdeclared, hvisited, hcollisions⟩ := hfacts
  have hclean : Path.normalize "/a.ts" = "/a.ts" := by decide +kernel
  obtain ⟨after, hcompile, hkept⟩ :=
    compile_of_modules hclean (by decide +kernel) build_eclipsed hgraph hprogram
  rw [houtput] at hcompile
  rw [← hkept] at hroots hreferences hdeclared hvisited hcollisions
  refine ⟨after, roots, hcompile, ok_of_toOption hroots,
    ⟨?_, ⟨"Map", some .ambient⟩, ?_, rfl, rfl⟩,
    ⟨?_, Option.map_eq_some_iff.mp hdeclared⟩, hcollisions⟩
  · rw [Emission.isVisited_iff, hvisited]
    decide
  · rw [hreferences]
    decide
  · rw [Emission.isVisited_iff, hvisited]
    decide

theorem compile_borrows_eclipsed :
    ∃ after roots,
      eclipsed.compile
        "/a.ts" = (.ok "f(Map)\nlet f=Map\nlet Map=eval;", after) ∧
      after.graph.roots = .ok roots ∧
      (after.graph.emission roots).Borrows after.graph
        (.statement ⟨0, 0⟩) "Map" ∧
      (∀ slot, (after.graph.emission roots).PutsOut after.graph slot "Map" →
        slot = ⟨1, 0⟩) ∧
      eclipsed.config.isGlobal "Map" = true := by
  obtain ⟨after, roots, hcompile, hroots, hborrows, hput, hcollisions⟩ :=
    compile_eclipsed
  obtain ⟨others, hothers, -, hknown⟩ := compile_borrows hcompile
  rw [hroots, Except.ok.injEq] at hothers
  subst hothers
  obtain ⟨hglobal, -, honce, -⟩ := hknown _ _ hborrows
  refine ⟨after, roots, hcompile, hroots, hborrows,
    fun slot hslot => ?_, hglobal⟩
  exact honce (by rw [hcollisions]; exact List.not_mem_nil) slot ⟨1, 0⟩
    hslot hput

/-- A name may be left to the runtime and put out from another module without
being a collision. -/
theorem borrowed_name_unnoted :
    ¬ ∀ (session after : Session) (entry output : String) (roots : List Node),
      session.compile entry = (.ok output, after) →
      after.graph.roots = .ok roots →
        ∀ node name, (after.graph.emission roots).Borrows after.graph
          node name →
          ∀ slot, (after.graph.emission roots).PutsOut after.graph slot name →
            name ∈ (after.graph.emission roots).collisions := by
  intro hnoted
  obtain ⟨after, roots, hcompile, hroots, hborrows, hput, hcollisions⟩ :=
    compile_eclipsed
  have hmem := hnoted _ _ _ _ _ hcompile hroots _ _ hborrows _ hput
  rw [hcollisions] at hmem
  exact List.not_mem_nil hmem

end Session

end Prune
