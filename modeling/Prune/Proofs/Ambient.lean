import Prune.Proofs.RootList
import Prune.Proofs.SelfContained

/-!
# Ambient names are only a fallback

Which names the runtime provides is a matter of configuration, and a program
should not change its meaning when more of them are configured. A name is looked
up among the declarations of its module first, then among what the module
imports, and only then among the ambient names; an import that fails fails at
once. So a larger set of ambient names gives a target to names that had none and
changes no other (`resolveName_of_ambient`), and none of it ever decides between
declarations (`resolveName_declaration_iff`).

The rest of a compilation does not ask for ambient names at all. Files are read
by the decorators and the extension that are configured, `Config.ReadsAlike`,
and two builds that read alike are the same build (`Build.ofSources_congr`).
Roots, output and collisions are made of the linked graph alone.
-/

namespace Prune

/-! ## Configurations -/

/-- Two configurations that differ at most in their ambient names. -/
structure Config.ReadsAlike (one other : Config) : Prop where
  extension : one.extension = other.extension
  decorators : one.decorators = other.decorators

theorem Config.isGlobal_iff {config : Config} {name : String} :
    config.isGlobal name = true ↔ name ∈ config.globalNames := by
  rw [isGlobal, globalNames, List.mem_eraseDups, List.mem_append,
    Bool.or_eq_true, Bool.and_eq_true, List.contains_iff_mem,
    List.contains_iff_mem]
  cases config.builtinGlobals <;> simp

section

variable {one other : Config} (h : one.ReadsAlike other)

include h

theorem Config.checkEntry_congr : one.checkEntry = other.checkEntry := by
  obtain ⟨extension, globals, builtinGlobals, decorators⟩ := one
  obtain ⟨rfl, rfl⟩ := h
  rfl

/-- A file is read by its dialect, and its specifiers by the extension. -/
theorem Module.ofText_congr : Module.ofText one = Module.ofText other := by
  obtain ⟨extension, globals, builtinGlobals, decorators⟩ := one
  obtain ⟨rfl, rfl⟩ := h
  rfl

theorem Task.compile_congr : Task.compile one = Task.compile other := by
  funext task bytesBefore loaded
  cases loaded with
  | error error => rfl
  | ok content => rw [compile, compile, Module.ofText_congr h]

theorem Build.step_congr (load : Loader) (build : Build) :
    build.step one load = build.step other load := by
  rw [step, step]
  cases build.inFlight with
  | nil => rfl
  | cons task tasks => simp only [settle, Task.compile_congr h]

theorem Build.run_congr (load : Loader) (fuel : Nat) (build : Build) :
    build.run one load fuel = build.run other load fuel := by
  induction fuel generalizing build with
  | zero => rfl
  | succ fuel ih => rw [run, run, step_congr h, ih]

theorem Build.ofSources_congr :
    Build.ofSources one = Build.ofSources other := by
  funext sources entry bytesRead
  exact run_congr h sources.load (sources.size + 2) (start entry bytesRead)

theorem Graph.build_congr : Graph.build one = Graph.build other := by
  funext sources entry
  rw [build, build, Build.ofSources_congr h]

/-- Of two compilers that read alike, the build of one is that of the other. -/
theorem Session.build_congr (session : Session) :
    { session with config := one }.build =
      { session with config := other }.build := by
  funext entry bytesRead
  rw [build, build, Build.ofSources_congr h]

theorem Session.bytesAfter_congr (session : Session) (entry : String) :
    { session with config := one }.bytesAfter entry =
      { session with config := other }.bytesAfter entry := by
  unfold bytesAfter
  rw [build_congr h, Config.checkEntry_congr h]

end

/-! ## Targets -/

namespace Graph

variable {graph linked : Graph} {isGlobal other : String → Bool} {index : Nat}
    {name : String}

/-- What a module itself makes of a name: of one that it declares or imports,
whether or not that leads anywhere. -/
def binding? (graph : Graph) (index : Nat) (name : String) :
    Option (Except Error Target) :=
  match graph.modules[index]? with
  | none => some (.error (.unresolved name ""))
  | some module =>
      match module.declarations.place? name with
      | some place => some (.ok (.declaration ⟨index, place⟩))
      | none => (module.importTable.find? name).map fun binding =>
          if binding.isAliased then
            .error (.aliased binding.localName binding.imported module.id)
          else (graph.resolveExport binding.target binding.imported).map
            .declaration

/-- The ambient names are asked last. -/
theorem resolveName_eq (graph : Graph) (isGlobal : String → Bool) (index : Nat)
    (name : String) :
    graph.resolveName isGlobal index name =
      (graph.binding? index name).getD
        (if isGlobal name then .ok .ambient
        else .error
          (.unresolved name ((graph.modules[index]?).elim "" Module.id))) := by
  rw [resolveName, binding?]
  cases graph.modules[index]? with
  | none => rfl
  | some module =>
      dsimp only
      cases module.declarations.place? name with
      | some place => rfl
      | none =>
          dsimp only
          cases module.importTable.find? name <;> rfl

/-- More ambient names change no target that there was. -/
theorem resolveName_of_ambient
    (hnames : ∀ name, isGlobal name = true → other name = true)
    {target : Target} (h : graph.resolveName isGlobal index name = .ok target) :
    graph.resolveName other index name = .ok target := by
  rw [resolveName_eq] at h ⊢
  cases hbinding : graph.binding? index name with
  | some result =>
      rw [hbinding] at h
      exact h
  | none =>
      rw [hbinding, Option.getD_none] at h
      rw [Option.getD_none]
      split at h
      · next hglobal => rwa [if_pos (hnames name hglobal)]
      · cases h

/-- Which ambient names there are makes no difference to what leads to a
declaration. -/
theorem resolveName_declaration_iff (isGlobal other : String → Bool)
    {slot : Slot} :
    graph.resolveName isGlobal index name = .ok (.declaration slot) ↔
      graph.resolveName other index name = .ok (.declaration slot) := by
  have hbound : ∀ test : String → Bool,
      graph.resolveName test index name = .ok (.declaration slot) ↔
      graph.binding? index name = some (.ok (.declaration slot)) := by
    intro test
    rw [resolveName_eq]
    cases graph.binding? index name with
    | some result => rw [Option.getD_some, Option.some_inj]
    | none =>
        rw [Option.getD_none]
        split <;> simp
  rw [hbound isGlobal, hbound other]

theorem LinksTo.of_ambient (h : graph.LinksTo isGlobal linked)
    (hnames : ∀ name, isGlobal name = true → other name = true) :
    graph.LinksTo other linked := by
  refine ⟨fun index module hmodule reference hreference => ?_, ?_⟩
  · obtain ⟨target, htarget⟩ :=
      h.resolves index module hmodule reference hreference
    exact ⟨target, resolveName_of_ambient hnames htarget⟩
  · rw [h.eq]
    refine eq_of_parts (List.ext_getElem? fun index => ?_) rfl rfl
    rw [modules_mapReferences, modules_mapReferences]
    cases hmodule : graph.modules[index]? with
    | none => rfl
    | some module =>
        rw [Option.map_some, Option.map_some]
        refine congrArg some
          (Module.mapReferences_congr fun reference hreference => ?_)
        obtain ⟨target, htarget⟩ :=
          h.resolves index module hmodule reference hreference
        rw [aim, aim, htarget, resolveName_of_ambient hnames htarget]

end Graph

/-! ## Programs -/

theorem Program.ofGraph_of_ambient {one other : Config}
    (hnames : ∀ name ∈ one.globalNames, name ∈ other.globalNames)
    {graph : Graph} {program : Program} (h : ofGraph one graph = .ok program) :
    ofGraph other graph = .ok program := by
  obtain ⟨hlinks, hroots⟩ := ofGraph_eq_ok.mp h
  refine ofGraph_eq_ok.mpr ⟨hlinks.of_ambient fun name hname => ?_, hroots⟩
  exact Config.isGlobal_iff.mpr (hnames name (Config.isGlobal_iff.mp hname))

theorem Program.ofBuild_of_ambient {one other : Config}
    (hnames : ∀ name ∈ one.globalNames, name ∈ other.globalNames)
    {built : Except BuildFailure Graph} {program : Program}
    (h : ofBuild one built = .ok program) :
    ofBuild other built = .ok program := by
  obtain ⟨graph, hgraph, hprogram⟩ := ofBuild_eq_ok.mp h
  exact ofBuild_eq_ok.mpr ⟨graph, hgraph, ofGraph_of_ambient hnames hprogram⟩

/-- A compiler that has more ambient names makes the same program of an
entry. -/
theorem Session.outcome_of_ambient {one other : Config} (session : Session)
    (hreads : one.ReadsAlike other)
    (hnames : ∀ name ∈ one.globalNames, name ∈ other.globalNames)
    {entry : String} {program : Program}
    (h : { session with config := one }.outcome entry = .ok program) :
    { session with config := other }.outcome entry = .ok program := by
  obtain ⟨hentry, hprogram⟩ := outcome_eq_ok.mp h
  rw [Config.checkEntry_congr hreads] at hentry
  rw [build_congr hreads] at hprogram
  exact outcome_eq_ok.mpr ⟨hentry, Program.ofBuild_of_ambient hnames hprogram⟩

/-- Of two configurations that differ in their ambient names only, the one with
more of them compiles whatever the other does, to the same program: the same
linked graph, and out of it the same roots, the same output and the same
collisions. A compiler that has come to any state answers and keeps the same.
And of any two such configurations neither builds another graph than the other,
nor takes a name for another declaration. -/
theorem Config.ambient_fallback {one other : Config}
    (hreads : one.ReadsAlike other) :
    ((∀ name ∈ one.globalNames, name ∈ other.globalNames) →
      (∀ sources entry program,
        Program.compile one sources entry = .ok program →
        Program.compile other sources entry = .ok program) ∧
      ∀ (session after : Session) (entry output : String),
        { session with config := one }.compile entry =
          (.ok output, { after with config := one }) →
        { session with config := other }.compile entry =
          (.ok output, { after with config := other })) ∧
    ∀ sources entry,
      Graph.build one sources entry = Graph.build other sources entry ∧
      ∀ graph, Graph.build one sources entry = .ok graph → ∀ index name slot,
        graph.resolveName one.isGlobal index name = .ok (.declaration slot) ↔
          graph.resolveName other.isGlobal index name =
            .ok (.declaration slot) := by
  refine ⟨fun hnames => ⟨fun sources entry program hprogram => ?program,
    fun session after entry output h => ?session⟩,
    fun sources entry => ⟨?built, fun graph _ index name slot => ?declared⟩⟩
  case program =>
    rw [Program.compile_eq] at hprogram ⊢
    exact Session.outcome_of_ambient (.start one sources) hreads hnames hprogram
  case session =>
    obtain ⟨program, hprogram, rfl, hafter⟩ := Session.compile_eq_ok.mp h
    refine Session.compile_eq_ok.mpr
      ⟨program,
        Session.outcome_of_ambient session hreads hnames hprogram, rfl, ?_⟩
    rw [Session.bytesAfter_congr hreads] at hafter
    exact congrArg (fun kept => { kept with config := other }) hafter
  case built => rw [Graph.build_congr hreads]
  case declared =>
    exact Graph.resolveName_declaration_iff one.isGlobal other.isGlobal

/-- A configuration by which the names of two files are ambient names too. -/
def Config.crowded : Config := { Config.default with globals := ["f", "g"] }

theorem Config.mem_globalNames_crowded {name : String}
    (h : name ∈ Config.default.globalNames) :
    name ∈ crowded.globalNames := by
  rw [← isGlobal_iff] at h ⊢
  rw [isGlobal, Bool.or_eq_true] at h ⊢
  exact h.imp_left fun hnone => absurd hnone Bool.false_ne_true

theorem Program.compile_pair :
    ∃ program, compile .default Graph.pairSources "/a.ts" = .ok program ∧
      program.emission.roots =
        [.statement ⟨1, 0⟩, .declaration ⟨1, 0⟩, .declaration ⟨0, 0⟩,
          .statement ⟨0, 0⟩] := by
  obtain ⟨herrors, hmodules⟩ := Graph.build_pair
  obtain ⟨graph, hgraph, hlisted⟩ := Option.bind_eq_some_iff.mp Graph.roots_pair
  obtain ⟨linked, hlink, hroots⟩ := Option.bind_eq_some_iff.mp hlisted
  have hbuild :
      ((Session.start .default Graph.pairSources).build
        (Path.normalize "/a.ts") 0).1 =
      .ok graph := by
    rw [Session.fst_build]
    dsimp only [Session.start]
    rw [Build.finish, if_pos herrors, hmodules, ok_of_toOption hgraph]
    rfl
  have hentry : Config.default.checkEntry (Path.normalize "/a.ts") =
      .ok () := by decide +kernel
  have hprogram : ∀ {roots}, linked.roots.toOption = some roots →
      ofGraph .default graph = .ok ⟨linked, linked.emission roots⟩ :=
        fun hsome =>
    ofGraph_eq_ok.mpr
      ⟨Graph.linksTo_of_linkWith (ok_of_toOption hlink), _,
        ok_of_toOption hsome, rfl⟩
  refine ⟨⟨linked, linked.emission _⟩, ?_,
    (Emission.settled_emission linked _).asked⟩
  rw [compile_eq, Session.outcome_eq_ok]
  exact ⟨hentry, ofBuild_eq_ok.mpr ⟨graph, hbuild, hprogram hroots⟩⟩

theorem Config.ambient_fallback_pair :
    Config.default.ReadsAlike crowded ∧
      (∀ name ∈ Config.default.globalNames, name ∈ crowded.globalNames) ∧
      ∃ program, Program.compile .default Graph.pairSources
        "/a.ts" = .ok program ∧
        Program.compile crowded Graph.pairSources "/a.ts" = .ok program ∧
        program.emission.roots =
          [.statement ⟨1, 0⟩, .declaration ⟨1, 0⟩, .declaration ⟨0, 0⟩,
            .statement ⟨0, 0⟩] := by
  have hreads : Config.default.ReadsAlike crowded := ⟨rfl, rfl⟩
  have hnames : ∀ name ∈ Config.default.globalNames,
      name ∈ crowded.globalNames :=
    fun _ => mem_globalNames_crowded
  obtain ⟨program, hprogram, hroots⟩ := Program.compile_pair
  refine ⟨hreads, hnames, program, hprogram, ?_, hroots⟩
  exact ((ambient_fallback hreads).1 hnames).1 _ _ _ hprogram

end Prune
