import Prune.Proofs.Pieces
import Prune.Proofs.Program
import Prune.Proofs.SelfContained

/-!
# The units of an output

An output is texts with a line break between any two of them. Each of the texts
is a piece of a file that the sources hold: the text of one of its items, whole
or without the words that export it. Modules are compiled from such files
(`Session.exists_subject`), linking changes no text, and what `Pieces.lean` says
of one module then holds of all that is put out.

Nothing else is put between the texts, and nothing asks where a text ends. An
item may have ended only because of what came next in its own file, where a
statement that begins on a new line and cannot go on with the item ends it. In
the output another item comes next, and it may go on with it. So an output need
not be read as its units, as `merged` shows.
-/

namespace Prune

open Script

/-! ## Texts of a linked graph -/

theorem Graph.unit?_mapReferences (f : Nat → Reference → Reference)
    (graph : Graph) (roots : List Node) (node : Node) :
    (graph.mapReferences f).unit? roots node = graph.unit? roots node := by
  cases node with
  | declaration slot =>
      rw [unit?, unit?, declaration?_mapReferences, Option.map_map]
      rfl
  | statement slot =>
      rw [unit?, unit?, statement?_mapReferences, Option.map_map]
      rfl

/-! ## Where a text comes from -/

/-- A file that the sources of a session hold, as it is read. -/
structure Session.Reads (session : Session) (subject : Subject) : Prop where
  config : subject.config = session.config
  file : ∃ path content, session.sources.load path = .ok content ∧
    subject.path = Path.normalize path ∧
    SourceFile.read
      ⟨Path.extension subject.path = some "tsx", session.config.decorators⟩
      content.toList = .ok subject.file

/-- What a node that is an item of a file puts out: the text of the item,
without the words that export it if it is a declaration that nothing exports. -/
inductive Subject.Gives (subject : Subject) (item : TopItem) :
    Node → String → Prop where
  | statement (slot : Slot) (runs : item.runs = true) :
      Gives subject item (.statement slot)
        (subject.text item.span.lo item.span.hi)
  | whole (slot : Slot) (declares : item.declares = true) :
      Gives subject item (.declaration slot)
        (subject.text item.textFrom item.span.hi)
  | plain (slot : Slot) (declares : item.declares = true) :
      Gives subject item (.declaration slot)
        (Dissection.plainText subject item.textFrom item.span.lo item.span.hi)

/-- The module of a node gives its texts by items of its file. -/
theorem Module.exists_gives {subject : Subject} {isEntry : Bool} {graph : Graph}
    {module : Module} (hmodule : Module.ofSource subject isEntry = .ok module)
    {roots : List Node} {node : Node}
    (hstands : graph.modules[node.slot.module]? = some module) {unit : String}
    (hunit : graph.unit? roots node = some unit) :
    ∃ item ∈ subject.file.items, subject.Gives item node unit := by
  obtain ⟨hcut, hrun⟩ := cut_ofSource hmodule
  cases node with
  | declaration slot =>
      obtain ⟨declaration, hdeclaration, rfl⟩ := Option.map_eq_some_iff.mp hunit
      rw [Graph.declaration?,
        show graph.modules[slot.module]? = some module from hstands,
        Option.bind_some, Table.at?_eq_values] at hdeclaration
      obtain ⟨item, hitem, hcuts, -⟩ :=
        exists_of_mem_right hcut (List.mem_of_getElem? hdeclaration)
      obtain ⟨hitem, hdeclares⟩ := List.mem_filter.mp hitem
      refine ⟨item, hitem, ?_⟩
      split
      · rw [hcuts.itemText]
        exact .whole slot hdeclares
      · rw [hcuts.plainText]
        exact .plain slot hdeclares
  | statement slot =>
      obtain ⟨statement, hstatement, rfl⟩ := Option.map_eq_some_iff.mp hunit
      rw [Graph.statement?,
        show graph.modules[slot.module]? = some module from hstands,
        Option.bind_some] at hstatement
      obtain ⟨item, hitem, htext⟩ :=
        exists_of_mem_right hrun (List.mem_of_getElem? hstatement)
      obtain ⟨hitem, hruns⟩ := List.mem_filter.mp hitem
      refine ⟨item, hitem, ?_⟩
      rw [htext]
      exact .statement slot hruns

namespace Session

/-- Every module of a graph that a session builds is taken from a file that its
sources hold. -/
theorem exists_subject {session : Session} {entry : String} {bytesRead : Nat}
    {graph : Graph}
    (hbuild : (session.build (Path.normalize entry) bytesRead).1 = .ok graph)
    {module : Module} (hmodule : module ∈ graph.modules) :
    ∃ subject isEntry, session.Reads subject ∧
      subject.path = module.id ∧
      Module.ofSource subject isEntry = .ok module := by
  obtain ⟨x, hx, -, hfinish⟩ :=
    Exchange.exists_over_of_finish (Path.normalize_normalize entry) hbuild
  obtain ⟨-, hgraph⟩ := Build.graphOf_of_finish hfinish
  obtain ⟨message, -, hcompiled⟩ :=
    hx.sound.compiled_of_mem_modules hgraph hmodule
  obtain ⟨content, hload, htext⟩ := Build.ofText_of_compiledAt hcompiled
  obtain ⟨file, hread, hsource⟩ := Module.exists_file_of_ofText htext
  exact ⟨⟨session.config, Path.normalize message.1.path, file⟩, _,
    ⟨rfl, message.1.path, content, hload, rfl, hread⟩,
    (Module.dissected_ofSource hsource).id.symm, hsource⟩

/-- An output is the texts of its nodes, in the order in which these are put
out, with a line break between any two of them. Each text is given by an item of
the file that the module of its node is taken from. -/
theorem compile_units {session after : Session} {entry output : String}
    (h : session.compile entry = (.ok output, after)) :
    ∃ roots, after.graph.roots = .ok roots ∧
      output = String.intercalate "\n" (after.graph.emission roots).units ∧
      List.Forall₂ (fun node unit => ∃ subject, session.Reads subject ∧
          (after.graph.modules[node.slot.module]?).map Module.id = some
            subject.path ∧
          ∃ item ∈ subject.file.items, subject.Gives item node unit)
        (after.graph.emission roots).visited.reverse
        (after.graph.emission roots).units := by
  obtain ⟨graph, roots, hbuild, hlinks, hkeyed, hroots, houtput⟩ :=
    exists_linked_of_compile h
  have hstand := Graph.holds_of_mem_roots (hlinks.keyed.mpr hkeyed) hroots
  have hunits := hlinks.units_emission hstand
  refine ⟨roots, hroots, houtput, ?_⟩
  rw [← List.forall₂_eq_eq_eq, List.forall₂_map_left_iff,
    List.forall₂_map_right_iff] at hunits
  refine hunits.flip.imp fun node unit hunit => ?_
  rw [hlinks.eq, Graph.unit?_mapReferences] at hunit
  have hholds : graph.Holds node := Graph.isSome_unit?.mp (by rw [← hunit]; rfl)
  obtain ⟨module, hmodule, -⟩ := hholds.exists_module
  obtain ⟨subject, isEntry, hreads, hpath, hsource⟩ :=
    exists_subject hbuild (List.mem_of_getElem? hmodule)
  refine ⟨subject, hreads, ?_, Module.exists_gives hsource hmodule hunit.symm⟩
  rw [hlinks.eq, Graph.modules_mapReferences, hmodule, hpath]
  rfl

/-- A session of one file, with a declaration that ends where a line that is put
out too cannot go on with it. -/
def merged : Session :=
  (start .default .empty).insert "/a.ts" "export let a=eval\nlet b=0;(eval)()"

/-- The module of that file. -/
def mergedModule : Module :=
  { Module.empty "/a.ts" true with
    declarations := .ofList
      [("a", ⟨"a", "export let a=eval", "let a=eval", true, [.named "eval"]⟩),
        ("b", ⟨"b", "let b=0;", "let b=0;", false, []⟩)]
    statements := [⟨"(eval)()", false, [.named "eval"]⟩]
    items := [.declaration 0, .declaration 1, .statement 0] }

theorem build_merged :
    let build :=
  Build.ofSources merged.config merged.sources "/a.ts" merged.bytesRead
    build.errors.isEmpty = true ∧ build.modules.reverse = [mergedModule] := by
  decide +kernel

theorem program_merged :
    ((Build.graphOf [mergedModule]).toOption.bind fun graph =>
      (Program.ofGraph merged.config graph).toOption.bind fun program =>
        program.graph.roots.toOption.map fun roots =>
          (program.emission.output, (program.graph.emission roots).units)) =
      some
        ("export let a=eval\n(eval)()", ["export let a=eval", "(eval)()"]) := by
  cbv

theorem compile_merged :
    ∃ after roots,
      merged.compile "/a.ts" = (.ok "export let a=eval\n(eval)()", after) ∧
      after.graph.roots = .ok roots ∧
      (after.graph.emission roots).units =
        ["export let a=eval", "(eval)()"] := by
  obtain ⟨graph, hgraph, hrest⟩ := Option.bind_eq_some_iff.mp program_merged
  obtain ⟨program, hprogram, hrest⟩ := Option.bind_eq_some_iff.mp hrest
  obtain ⟨roots, hroots, hfacts⟩ := Option.map_eq_some_iff.mp hrest
  simp only [Prod.mk.injEq] at hfacts
  obtain ⟨houtput, hunits⟩ := hfacts
  have hclean : Path.normalize "/a.ts" = "/a.ts" := by decide +kernel
  obtain ⟨after, hcompile, hkept⟩ :=
    compile_of_modules hclean (by decide +kernel) build_merged hgraph hprogram
  rw [houtput] at hcompile
  rw [← hkept] at hroots hunits
  exact ⟨after, roots, hcompile, ok_of_toOption hroots, hunits⟩

theorem compile_units_merged :
    ∃ after,
      merged.compile "/a.ts" = (.ok "export let a=eval\n(eval)()", after) ∧
      ∀ unit ∈ ["export let a=eval", "(eval)()"], ∃ subject,
        merged.Reads subject ∧
        ∃ node, ∃ item ∈ subject.file.items, subject.Gives item node unit := by
  obtain ⟨after, roots, hcompile, hroots, hunits⟩ := compile_merged
  obtain ⟨others, hothers, -, hgiven⟩ := compile_units hcompile
  rw [hroots, Except.ok.injEq] at hothers
  subst hothers
  refine ⟨after, hcompile, fun unit hunit => ?_⟩
  rw [hunits] at hgiven
  obtain ⟨node, -, subject, hreads, -, hgives⟩ :=
    exists_of_mem_right hgiven hunit
  exact ⟨subject, hreads, node, hgives⟩

/-- An output of two units that is read as one item. -/
theorem units_read_as_one :
    ∃ after roots,
      merged.compile "/a.ts" = (.ok "export let a=eval\n(eval)()", after) ∧
      after.graph.roots = .ok roots ∧
      (after.graph.emission roots).units = ["export let a=eval", "(eval)()"] ∧
      ∃ file, SourceFile.read ⟨false, true⟩
        "export let a=eval\n(eval)()".toList = .ok file ∧
        file.items.length = 1 := by
  obtain ⟨after, roots, hcompile, hroots, hunits⟩ := compile_merged
  have hread : (SourceFile.read ⟨false, true⟩
      "export let a=eval\n(eval)()".toList).toOption.map (fun file =>
        file.items.length) = some 1 := by
    decide +kernel
  obtain ⟨file, hfile, hlength⟩ := Option.map_eq_some_iff.mp hread
  exact ⟨after, roots, hcompile, hroots, hunits, file,
    ok_of_toOption hfile, hlength⟩

end Session

end Prune
