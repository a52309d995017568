import Prune.Proofs.RootList
import Prune.Proofs.SelfContained

/-!
# Which declarations keep the words that export them

A declaration is put out with the words that export it, or without them. Its own
flag decides together with the roots: a declaration keeps its words if it is
exported or is a root. But only the entry has declarations with that flag
(`Exchange.Reached.onlyExports`), since a module that is not the entry loses it
when it is taken apart; and a declaration is a root exactly if the entry exports
it or passes it on. So a file decides nothing about its own declarations unless
it is the entry (`Graph.Whole.gives_of_unit?`).

The roots are known before the first of them is put out. That is why it does not
matter whether a walk comes to a declaration as a root or on the way from
another.
-/

namespace Prune

namespace Graph

/-- A declaration that the module at a place of the graph shows to the outside:
one of its own that it exports, or one that an item of it passes on. -/
def Shows (graph : Graph) (index : Nat) (module : Module) (slot : Slot) :
    Prop :=
  (slot.module = index ∧
    ∃ declaration, graph.declaration? slot = some declaration ∧
    declaration.exported = true) ∨
  ∃ name reExport, .reExport name ∈ module.items ∧
    module.reExports.find? name = some reExport ∧
    graph.resolveExport reExport.target reExport.targetName = .ok slot

/-- What a node puts out in a program whose entry is a module at a place of the
graph: a declaration that the entry shows with the words that export it, any
other without them. -/
inductive Gives (graph : Graph) (index : Nat) (module : Module) :
    Node → String → Prop where
  | statement {slot : Slot} {statement : Statement}
      (stands : graph.statement? slot = some statement) :
      Gives graph index module (.statement slot) statement.text
  | whole {slot : Slot} {declaration : Declaration}
      (stands : graph.declaration? slot = some declaration)
      (shown : graph.Shows index module slot) :
      Gives graph index module (.declaration slot) declaration.itemText
  | plain {slot : Slot} {declaration : Declaration}
      (stands : graph.declaration? slot = some declaration)
      (hidden : ¬ graph.Shows index module slot) :
      Gives graph index module (.declaration slot) declaration.plainText

/-- Whatever a module passes on is an item of it. -/
theorem Whole.shows_iff {graph : Graph} {first : Nat} {module : Module}
    (h : graph.Whole first module) {slot : Slot} :
    graph.Shows first module slot ↔ graph.Offers first module slot := by
  refine or_congr_right
    (exists_congr fun name => exists_congr fun reExport => ?_)
  refine ⟨fun ⟨_, hfind, hresolved⟩ => ⟨hfind, hresolved⟩,
    fun ⟨hfind, hresolved⟩ => ?_⟩
  exact ⟨h.arranged.reExport_mem_items (Table.mem_keys_of_find? hfind), hfind,
    hresolved⟩

/-- Only the entry has declarations that are flagged as exported. -/
def OnlyExports (graph : Graph) (first : Nat) : Prop :=
  ∀ slot declaration,
    graph.declaration? slot = some declaration → declaration.exported = true →
    slot.module = first

theorem OnlyExports.mapReferences {graph : Graph} {first : Nat}
    (h : graph.OnlyExports first) (f : Nat → Reference → Reference) :
    (graph.mapReferences f).OnlyExports first := by
  intro slot declaration hdeclaration hexported
  rw [declaration?_mapReferences, Option.map_eq_some_iff] at hdeclaration
  obtain ⟨before, hbefore, rfl⟩ := hdeclaration
  exact h slot before hbefore hexported

/-- The text of a node is what the entry makes of it. -/
theorem Whole.gives_of_unit? {graph : Graph} {first : Nat} {module : Module}
    {roots : List Node} (h : graph.Whole first module)
    (honly : graph.OnlyExports first) (hroots : graph.roots = .ok roots)
    {node : Node} {unit : String} (hunit : graph.unit? roots node = some unit) :
    graph.Gives first module node unit := by
  cases node with
  | statement slot =>
      obtain ⟨statement, hstatement, rfl⟩ := Option.map_eq_some_iff.mp hunit
      exact .statement hstatement
  | declaration slot =>
      obtain ⟨declaration, hdeclaration, rfl⟩ := Option.map_eq_some_iff.mp hunit
      have hshown : declaration.exported = true ∨ .declaration slot ∈ roots ↔
          graph.Shows first module slot := by
        rw [h.declaration_mem_roots hroots, ← h.shows_iff]
        refine ⟨fun hkeeps => hkeeps.elim (fun hexported => ?_) id, Or.inr⟩
        exact Or.inl ⟨honly slot declaration hdeclaration hexported,
          declaration, hdeclaration, hexported⟩
      split
      · next hkeeps => exact .whole hdeclaration (hshown.mp hkeeps)
      · next hkeeps =>
          exact .plain hdeclaration fun hshows => hkeeps (hshown.mpr hshows)

end Graph

/-- A module that is not the entry has lost its flags. -/
theorem Exchange.Reached.onlyExports {config : Config} {load : Loader}
    {entry : String} {x : Exchange} {graph : Graph}
    (h : Reached config load entry x) (hentry : Path.normalize entry = entry)
    (hbuild : x.build.finish = .ok graph) {first : Nat} {module : Module}
    (hmodule : graph.modules[first]? = some module) (hid : module.id = entry) :
    graph.OnlyExports first := by
  obtain ⟨-, hgraph⟩ := Build.graphOf_of_finish hbuild
  have hids := h.nodup_ids hgraph hentry
  intro slot declaration hdeclaration hexported
  obtain ⟨other, hother, hat⟩ := Option.bind_eq_some_iff.mp hdeclaration
  obtain ⟨message, hmessage, hcompiled⟩ :=
    h.sound.compiled_of_mem_modules hgraph (List.mem_of_getElem? hother)
  obtain ⟨content, -, htext⟩ := Build.ofText_of_compiledAt hcompiled
  obtain ⟨file, -, hsource⟩ := Module.exists_file_of_ofText htext
  have hisEntry : other.isEntry = true := by
    by_contra hnot
    rw [Table.at?, Option.map_eq_some_iff] at hat
    obtain ⟨⟨name, found⟩, hentry, rfl⟩ := hat
    have hhidden :=
      (Module.arranged_ofSource hsource).2 (Bool.eq_false_iff.mpr hnot)
        (List.mem_of_getElem? hentry)
    exact Bool.false_ne_true (hhidden.symm.trans hexported)
  -- The module of the entry is the only one of its id.
  have hsame : other.id = module.id := by
    rw [(Build.dissected_of_compiledAt hcompiled).isEntry,
      decide_eq_true_eq] at hisEntry
    rw [h.id_of_compiled hgraph hentry hmessage hcompiled, hisEntry, hid]
  have hplace := Graph.current_of_nodup hids hother
  rw [hsame, Graph.current_of_nodup hids hmodule, Option.some_inj] at hplace
  exact hplace.symm

namespace Session

/-- The output of a program is what its nodes give, node by node in the order of
their visits. A declaration has the words that export it exactly if the entry
shows it, that is, exports it or passes it on; no flag of another module gives
it these words, and no way on which it is reached first. -/
theorem compile_exportWords {session after : Session} {entry output : String}
    (h : session.compile entry = (.ok output, after)) :
    ∃ roots first module, after.graph.roots = .ok roots ∧
      after.graph.entry.bind after.graph.indexOf? = some first ∧
      after.graph.modules[first]? = some module ∧
      module.id = Path.normalize entry ∧
      output = String.intercalate "\n" (after.graph.emission roots).units ∧
      List.Forall₂ (after.graph.Gives first module)
        (after.graph.emission roots).visited.reverse
        (after.graph.emission roots).units := by
  obtain ⟨graph, roots, hbuild, hlinks, hkeyed, hroots, houtput⟩ :=
    exists_linked_of_compile h
  have hclean := Path.normalize_normalize entry
  obtain ⟨x, hx, hover, hfinish⟩ := Exchange.exists_over_of_finish hclean hbuild
  obtain ⟨first, before, hbefore, hid⟩ := hx.whole hclean hover hfinish
  have hwhole := hbefore.mapReferences (graph.aim session.config.isGlobal)
  have honly := (hx.onlyExports hclean hfinish hbefore.stands hid).mapReferences
    (graph.aim session.config.isGlobal)
  rw [← hlinks.eq] at hwhole honly
  refine ⟨roots, first, _, hroots, hwhole.entry, hwhole.stands, hid,
    houtput, ?_⟩
  have hunits :=
    hlinks.units_emission
      (Graph.holds_of_mem_roots (hlinks.keyed.mpr hkeyed) hroots)
  rw [← List.forall₂_eq_eq_eq, List.forall₂_map_left_iff,
    List.forall₂_map_right_iff] at hunits
  exact hunits.flip.imp fun node unit hunit =>
    hwhole.gives_of_unit? honly hroots hunit.symm

/-- A session of two files. The second exports both of its declarations, and the
entry passes one of them on. -/
def halfShown : Session :=
  ((start .default .empty).insert "/a.ts"
    "import{h}from'./b';export{f}from'./b';let g=h;g()").insert
    "/b.ts" "export let h=eval;export let f=h"

/-- The modules of these files. -/
def halfShownModules : List Module :=
  [{ Module.empty "/a.ts" true with
      declarations :=
        .ofList [("g", ⟨"g", "let g=h;", "let g=h;", false, [.named "h"]⟩)]
      imports := [⟨"./b", "/b.ts"⟩, ⟨"./b", "/b.ts"⟩]
      importTable := .ofList [("h", ⟨"h", "h", "/b.ts"⟩)]
      reExports := .ofList [("f", ⟨"f", "f", "/b.ts"⟩)]
      statements := [⟨"g()", false, [.named "g"]⟩]
      items := [.reExport "f", .declaration 0, .statement 0] },
    { Module.empty "/b.ts" false with
      declarations := .ofList
        [("h",
          ⟨"h", "export let h=eval;", "let h=eval;", false, [.named "eval"]⟩),
          ("f", ⟨"f", "export let f=h", "let f=h", false, [.named "h"]⟩)]
      items := [.declaration 0, .declaration 1] }]

theorem build_halfShown :
    let build :=
  Build.ofSources halfShown.config halfShown.sources "/a.ts" halfShown.bytesRead
    build.errors.isEmpty = true ∧ build.modules.reverse = halfShownModules := by
  decide +kernel

theorem program_halfShown :
    ((Build.graphOf halfShownModules).toOption.bind fun graph =>
      (Program.ofGraph halfShown.config graph).toOption.map fun program =>
        program.emission.output) =
          some "export let f=h\nlet h=eval;\ng()\nlet g=h;" := by
  cbv

theorem compile_exportWords_halfShown :
    ∃ after, halfShown.compile "/a.ts" =
        (.ok "export let f=h\nlet h=eval;\ng()\nlet g=h;", after) ∧
      ∃ first module nodes,
        after.graph.modules[first]? = some module ∧ module.id = "/a.ts" ∧
        ∃ units, "export let f=h\nlet h=eval;\ng()\nlet g=h;" =
          String.intercalate "\n" units ∧
          List.Forall₂ (after.graph.Gives first module) nodes units := by
  obtain ⟨graph, hgraph, hrest⟩ := Option.bind_eq_some_iff.mp program_halfShown
  obtain ⟨program, hprogram, houtput⟩ := Option.map_eq_some_iff.mp hrest
  have hclean : Path.normalize "/a.ts" = "/a.ts" := by decide +kernel
  obtain ⟨after, hcompile, -⟩ :=
    compile_of_modules hclean (by decide +kernel) build_halfShown
      hgraph hprogram
  rw [houtput] at hcompile
  obtain ⟨roots, first, module, -, -, hmodule, hid, hunits, hgiven⟩ :=
    compile_exportWords hcompile
  exact ⟨after, hcompile, first, module, _, hmodule, hid.trans hclean, _,
    hunits, hgiven⟩

end Session

end Prune
