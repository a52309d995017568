import Prune.Proofs.Assembly
import Prune.Proofs.Dissected
import Prune.Proofs.Rooted
import Prune.Proofs.Stages

/-!
# A compiled program names nothing that it does not hold

The output of a compilation is put together without renaming, so two things have
to hold of every reference in it: that the declaration it means is put out too,
and that its name does not mean another one there. The first is closure under
references, which `Reached.lean` gives for any linked graph. The second needs
the names: a reference leads to a declaration of its own name
(`resolveName_declares`, for tables that are keyed by names, as those of modules
taken from files are), and two declarations of one name that are both put out
come from different modules, which is noted as a collision when the later of
them is put out (`Emission.Noted`).
-/

namespace Prune

/-! ## Names that have been put out -/

namespace Emission

/-- The module that a name was first put out from. -/
def home? (emission : Emission) (name : String) : Option Nat :=
  (emission.names.find? fun entry => entry.1 = name).map Prod.snd

/-- A name that has been put out from a module: it is at home there, or it is a
collision. -/
def Notes (emission : Emission) (name : String) (module : Nat) : Prop :=
  name ∈ emission.collisions ∨ emission.home? name = some module

theorem notes_noteName (emission : Emission) (name : String) (module : Nat) :
    (emission.noteName name module).Notes name module := by
  rw [noteName]
  split
  · refine Or.inr ?_
    rw [home?, List.find?_cons_of_pos (by simp)]
    rfl
  · next first hfind =>
      split
      · next hfirst =>
          refine Or.inr ?_
          rw [home?, hfind, Option.map_some, hfirst]
      · exact Or.inl (List.mem_append_right _ (List.mem_singleton.mpr rfl))

theorem Notes.noteName {emission : Emission} {name : String} {module : Nat}
    (h : emission.Notes name module) (other : String) (place : Nat) :
    (emission.noteName other place).Notes name module := by
  rw [Emission.noteName]
  split
  · next hfind =>
      refine h.imp_right fun hhome => ?_
      have hne : ¬ other = name := by
        rintro rfl
        rw [home?, hfind] at hhome
        cases hhome
      rw [home?, List.find?_cons_of_neg (by simpa using hne)]
      exact hhome
  · split
    · exact h
    · exact h.imp_left (List.mem_append_left _)

/-- Every declaration that has been visited is noted. -/
def Noted (graph : Graph) (emission : Emission) : Prop :=
  ∀ slot declaration, .declaration slot ∈ emission.visited →
    graph.declaration? slot = some declaration →
    emission.Notes declaration.name slot.module

theorem Noted.visit {graph : Graph} {emission : Emission}
    (h : emission.Noted graph) (node : Node) :
    (emission.visit graph node).Noted graph := by
  intro slot declaration hvisited hdeclaration
  rw [visited_visit, List.mem_cons] at hvisited
  have hrest : .declaration slot ∈ emission.visited →
      Notes { emission with visited := node :: emission.visited }
        declaration.name slot.module :=
    fun hmem => h slot declaration hmem hdeclaration
  rw [Emission.visit]
  cases node with
  | declaration other =>
      rw [emit]
      rcases hvisited with heq | hmem
      · cases heq
        rw [hdeclaration]
        exact notes_noteName _ _ _
      · cases graph.declaration? other with
        | none => exact hrest hmem
        | some found => exact (hrest hmem).noteName _ _
  | statement other =>
      rw [emit]
      rcases hvisited with heq | hmem
      · cases heq
      · cases graph.statement? other with
        | none => exact hrest hmem
        | some found => exact hrest hmem

theorem noted_emission (graph : Graph) (roots : List Node) :
    (graph.emission roots).Noted graph := by
  refine emission_induction (P := fun _ _ emission => emission.Noted graph)
    (fun _ _ _ _ _ h => h) (fun _ node _ _ _ h => h.visit node)
    (fun _ _ _ h => h) ?_
  exact fun _ _ h => absurd h List.not_mem_nil

/-- What is put out of a graph can be read on its own: every reference in it has
a target, a declaration that is meant is put out and has the name it is meant
by, and unless that name is noted as a collision it is the only one of its
name. -/
structure SelfContained (graph : Graph) (emission : Emission) : Prop where
  linked : ∀ node,
    emission.isVisited node = true → ∀ reference ∈ graph.referencesOf node,
    ∃ target, reference.target = some target
  closed : ∀ node,
    emission.isVisited node = true → ∀ reference ∈ graph.referencesOf node,
    ∀ slot, reference.target = some (.declaration slot) →
      emission.isVisited (.declaration slot) = true ∧
        ∃ declaration, graph.declaration? slot = some declaration ∧
          declaration.name = reference.name
  unique : ∀ node,
    emission.isVisited node = true → ∀ reference ∈ graph.referencesOf node,
    ∀ slot, reference.target = some (.declaration slot) →
      reference.name ∉ emission.collisions →
      ∀ other declaration, emission.isVisited (.declaration other) = true →
        graph.declaration? other = some declaration →
        declaration.name = reference.name →
          other = slot

theorem selfContained_emission {graph linked : Graph} {isGlobal : String → Bool}
    (h : graph.LinksTo isGlobal linked) (hkeyed : graph.Keyed)
    (roots : List Node) :
    (linked.emission roots).SelfContained linked := by
  have hnames : ∀ {node reference slot}, reference ∈ linked.referencesOf node →
      reference.target = some (.declaration slot) →
      linked.Declares slot reference.name := by
    intro node reference slot hreference htarget
    obtain ⟨module, hmodule, hmem⟩ := Graph.mem_referencesOf hreference
    obtain ⟨target, htarget', hresolved⟩ := h.target hmodule hmem
    rw [htarget, Option.some_inj] at htarget'
    subst htarget'
    obtain ⟨found, hdeclares, hname⟩ := Graph.resolveName_declares hresolved
    rw [hname hkeyed] at hdeclares
    exact h.declares.mpr hdeclares
  have hlinkedKeyed : linked.Keyed := h.keyed.mpr hkeyed
  have hclosed : ∀ {node reference slot},
      (linked.emission roots).isVisited node = true →
      reference ∈ linked.referencesOf node →
      reference.target = some (.declaration slot) →
      (linked.emission roots).isVisited (.declaration slot) = true := by
    intro node reference slot hnode hreference htarget
    rw [isVisited_iff] at hnode ⊢
    exact ((settled_emission linked roots).closed node hnode _
      ⟨reference, hreference, slot, htarget, rfl⟩).resolve_right
      List.not_mem_nil
  refine ⟨fun node _ reference hreference => ?_,
    fun node hnode reference hreference slot htarget =>
      ⟨hclosed hnode hreference htarget,
        (hnames hreference htarget).declaration hlinkedKeyed⟩,
    fun node hnode reference hreference slot htarget hcollision other
      declaration hother
      hdeclaration hname => ?_⟩
  · obtain ⟨module, hmodule, hmem⟩ := Graph.mem_referencesOf hreference
    obtain ⟨target, htarget, -⟩ := h.target hmodule hmem
    exact ⟨target, htarget⟩
  · obtain ⟨meant, hmeant, hmeantName⟩ :=
      (hnames hreference htarget).declaration hlinkedKeyed
    have hslotNotes := noted_emission linked roots slot meant
      (isVisited_iff.mp (hclosed hnode hreference htarget)) hmeant
    have hotherNotes :=
      noted_emission linked roots other declaration (isVisited_iff.mp hother)
        hdeclaration
    rw [hmeantName] at hslotNotes
    rw [hname] at hotherNotes
    -- A name that is no collision is at home in one module, which both
    -- declarations are in.
    have hmodule : other.module = slot.module := by
      have hhome := hotherNotes.resolve_left hcollision
      rw [hslotNotes.resolve_left hcollision, Option.some_inj] at hhome
      exact hhome.symm
    have hotherDeclares :=
      Graph.declares_of_declaration? hlinkedKeyed hdeclaration
    rw [hname] at hotherDeclares
    exact hotherDeclares.unique (hnames hreference htarget) hmodule

end Emission

/-! ## Builds -/

namespace Build

/-- The modules of a build come from files. -/
def Sourced (config : Config) (build : Build) : Prop :=
  ∀ module ∈ build.modules, ∃ path isEntry,
    module.Dissected config path isEntry []

theorem modules_foldl_schedule (importer : Module) (clauses : List Import)
    (build : Build) :
    (clauses.foldl (schedule importer) build).modules = build.modules := by
  induction clauses generalizing build with
  | nil => rfl
  | cons clause clauses ih =>
      rw [List.foldl_cons, ih, schedule]
      split <;> rfl

theorem modules_receive_ok (build : Build) (place : Nat) (module : Module) :
    (build.receive place (.ok module)).modules = module :: build.modules := by
  simp only [receive, accept, modules_foldl_schedule]

theorem Sourced.settle {config : Config} {build : Build}
    (h : build.Sourced config) (place : Nat) (task : Task)
    (loaded : Except LoadError String) :
    (build.settle config place task loaded).Sourced config := by
  intro module hmodule
  rw [Build.settle] at hmodule
  cases hresult : task.compile config build.bytesRead loaded with
  | error error =>
      rw [hresult] at hmodule
      exact h module hmodule
  | ok made =>
      rw [hresult] at hmodule
      dsimp only at hmodule
      rw [modules_receive_ok] at hmodule
      rcases List.mem_cons.mp hmodule with rfl | hold
      · cases loaded with
        | error error => cases hresult
        | ok content => exact ⟨_, _, Module.dissected_ofText hresult⟩
      · exact h module hold

theorem Sourced.run {config : Config} {load : Loader} {fuel : Nat}
    {build : Build} (h : build.Sourced config) :
    (build.run config load fuel).Sourced config := by
  induction fuel generalizing build with
  | zero => exact h
  | succ fuel ih =>
      rw [Build.run]
      split
      · exact h
      · refine ih ?_
        rw [Build.step]
        split
        · exact h
        · exact h.settle _ _ _

theorem Sourced.keyed {config : Config} {build : Build} {graph : Graph}
    (h : build.Sourced config) (hgraph : build.finish = .ok graph) :
    graph.Keyed := by
  rw [finish] at hgraph
  split at hgraph
  · intro module hmodule
    rw [modules_graphOf (mapError_ok hgraph), List.mem_mergeSort,
      List.mem_reverse] at hmodule
    obtain ⟨_, _, hdissected⟩ := h module hmodule
    exact hdissected.keyed
  · cases hgraph

theorem keyed_ofSources {config : Config} {sources : Sources} {entry : String}
    {bytesRead : Nat} {graph : Graph}
    (h : (ofSources config sources entry bytesRead).finish = .ok graph) :
    graph.Keyed := by
  have hstart : (start entry bytesRead).Sourced config :=
    fun _ h => absurd h List.not_mem_nil
  exact hstart.run.keyed h

end Build

/-! ## Compilations -/

/-- An output is what the roots of a linked graph put out, and the compiler
keeps that graph. -/
theorem Session.exists_linked_of_compile {session after : Session}
    {entry output : String} (h : session.compile entry = (.ok output, after)) :
    ∃ graph roots,
      (session.build (Path.normalize entry) session.bytesRead).1 = .ok graph ∧
      graph.LinksTo session.config.isGlobal after.graph ∧ graph.Keyed ∧
      after.graph.roots = .ok roots ∧
      output = (after.graph.emission roots).output := by
  obtain ⟨program, hprogram, rfl, rfl⟩ := compile_eq_ok.mp h
  obtain ⟨-, hbuild⟩ := outcome_eq_ok.mp hprogram
  obtain ⟨graph, hgraph, hprogram⟩ := Program.ofBuild_eq_ok.mp hbuild
  obtain ⟨hlinks, roots, hroots, hemission⟩ := Program.ofGraph_eq_ok.mp hprogram
  exact ⟨graph, roots, hgraph, hlinks, Build.keyed_ofSources hgraph,
    hroots, by rw [hemission]⟩

/-- Whatever a compiler has compiled before, an output that it gives can be read
on its own: it is what the roots of the graph that the compiler keeps put out,
and no reference in that leads out of it or, but for noted collisions, to two
declarations. -/
theorem Session.compile_selfContained {session after : Session}
    {entry output : String} (h : session.compile entry = (.ok output, after)) :
    ∃ roots, after.graph.roots = .ok roots ∧
      output = (after.graph.emission roots).output ∧
      (after.graph.emission roots).units.map some =
        (after.graph.emission roots).visited.reverse.map
          (after.graph.unit? roots) ∧
      (after.graph.emission roots).SelfContained after.graph := by
  obtain ⟨graph, roots, -, hlinks, hkeyed, hroots, houtput⟩ :=
    exists_linked_of_compile h
  have hstand := Graph.holds_of_mem_roots (hlinks.keyed.mpr hkeyed) hroots
  exact ⟨roots, hroots, houtput, hlinks.units_emission hstand,
    Emission.selfContained_emission hlinks hkeyed roots⟩

/-! ## A compilation that succeeds -/

namespace Session

/-- A compilation succeeds if its graph can be built and compiled, and keeps the
graph. -/
theorem compile_of_program {session : Session} {entry clean : String}
    {graph : Graph} {program : Program} (hclean : Path.normalize entry = clean)
    (hentry : session.config.checkEntry clean = .ok ())
    (hgraph : (session.build clean session.bytesRead).1 = .ok graph)
    (hprogram : Program.ofGraph session.config graph = .ok program) :
    ∃ after, session.compile entry = (.ok program.emission.output, after) ∧
      after.graph = program.graph := by
  subst hclean
  refine ⟨_,
    compile_eq_ok.mpr ⟨program, outcome_eq_ok.mpr ⟨hentry, ?_⟩, rfl, rfl⟩, rfl⟩
  exact Program.ofBuild_eq_ok.mpr ⟨graph, hgraph, hprogram⟩

theorem compile_of_modules {session : Session} {entry clean : String}
    {modules : List Module} {graph : Graph} {program : Program}
    (hclean : Path.normalize entry = clean)
    (hentry : session.config.checkEntry clean = .ok ())
    (hbuild : let build :=
      Build.ofSources session.config session.sources clean session.bytesRead
        build.errors.isEmpty = true ∧ build.modules.reverse = modules)
    (hgraph : (Build.graphOf modules).toOption = some graph)
    (hprogram : (Program.ofGraph session.config graph).toOption =
      some program) :
    ∃ after, session.compile entry = (.ok program.emission.output, after) ∧
      after.graph = program.graph := by
  obtain ⟨herrors, hmodules⟩ := hbuild
  refine compile_of_program hclean hentry ?_ (ok_of_toOption hprogram)
  rw [fst_build, Build.finish, if_pos herrors, hmodules, ok_of_toOption hgraph]
  rfl

/-- A session of one file, whose statement needs its declaration. -/
def needy : Session := (start .default .empty).insert "/a.ts" "let f=eval;f()"

/-- The module of that file. -/
def needyModule : Module :=
  { Module.empty "/a.ts" true with
    declarations :=
      ⟨[("f", ⟨"f", "let f=eval;", "let f=eval;", false, [.named "eval"]⟩)], by
        decide⟩
    statements := [⟨"f()", false, [.named "f"]⟩]
    items := [.declaration 0, .statement 0] }

theorem build_needy :
    let build :=
  Build.ofSources needy.config needy.sources "/a.ts" needy.bytesRead
    build.errors.isEmpty = true ∧ build.modules.reverse = [needyModule] := by
  decide +kernel

theorem output_needy :
    ((Build.graphOf [needyModule]).toOption.bind fun graph =>
        (Program.ofGraph needy.config graph).toOption.map fun program =>
          program.emission.output) = some "f()\nlet f=eval;" := by
  cbv

theorem compile_needy :
    ∃ after, needy.compile "/a.ts" = (.ok "f()\nlet f=eval;", after) := by
  obtain ⟨graph, hgraph, hrest⟩ := Option.bind_eq_some_iff.mp output_needy
  obtain ⟨program, hprogram, houtput⟩ := Option.map_eq_some_iff.mp hrest
  have hclean : Path.normalize "/a.ts" = "/a.ts" := by decide +kernel
  obtain ⟨after, hcompile, -⟩ :=
    compile_of_modules hclean (by decide +kernel) build_needy hgraph hprogram
  rw [houtput] at hcompile
  exact ⟨after, hcompile⟩

theorem compile_selfContained_needy :
    ∃ after, needy.compile "/a.ts" = (.ok "f()\nlet f=eval;", after) ∧
      ∃ roots, after.graph.roots = .ok roots ∧
        "f()\nlet f=eval;" = (after.graph.emission roots).output ∧
        (after.graph.emission roots).units.map some =
          (after.graph.emission roots).visited.reverse.map
            (after.graph.unit? roots) ∧
        (after.graph.emission roots).SelfContained after.graph := by
  obtain ⟨after, hcompile⟩ := compile_needy
  exact ⟨after, hcompile, compile_selfContained hcompile⟩

end Session

end Prune
