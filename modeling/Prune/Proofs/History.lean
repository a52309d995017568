import Prune.Proofs.Linked
import Prune.Proofs.Recount
import Prune.Proofs.SelfContained

/-!
# What a compiler remembers

A compiler serves requests, one after another: files are put in or read, entries
are checked or compiled. It keeps its sources, the graph of the last program
that it compiled, and the number of bytes that it has read.

The graph depends on the compilations that succeeded, and on nothing else. It is
enough to look at one request (`Session.graph_serve`): a compilation that
succeeds replaces the graph by that of its program, and every other request
leaves it alone. So after any number of requests it is the last one of the
graphs that fresh compilers make of these requests, or the empty one
(`Session.graph_serveAll`).

The bytes show in one place only. A token that cannot be read is told by its
place among all bytes, and so the error of a file that holds one need not be the
error that a fresh compiler tells, as `unread` shows. Otherwise a compiler
answers what a fresh one answers (`Session.agree_outcome_start`).
-/

namespace Prune

/-- What a compiler can be asked to do. -/
inductive Request where
  | insert (path content : String)
  | load (path : String)
  | check (entry : String)
  | compile (entry : String)

/-- What it answers. -/
inductive Answer where
  | inserted
  | loaded (result : Except LoadError String)
  | checked (result : Except Error Unit)
  | compiled (result : Except Failure String)

/-- The sources after a request. -/
def Sources.taking (sources : Sources) : Request → Sources
  | .insert path content => sources.insert path content
  | _ => sources

/-- The program that a fresh compiler makes of a request, if it makes one. -/
def Request.program? (config : Config) (sources : Sources) :
    Request → Option Program
  | .compile entry => (Program.compile config sources entry).toOption
  | _ => none

/-- The programs that fresh compilers make of requests, each of the sources that
there are at its time. -/
def programs (config : Config) (sources : Sources) : List Request → List Program
  | [] => []
  | request :: requests =>
      (request.program? config sources).toList ++
        programs config (sources.taking request) requests

/-- A graph that can be put out: every reference has its target, and its roots
can be told. -/
structure Graph.Ready (graph : Graph) : Prop where
  linked : ∀ module ∈ graph.modules, module.isLinked = true
  rooted : ∃ roots, graph.roots = .ok roots

theorem Graph.ready_empty : Graph.empty.Ready where
  linked _ h := absurd h List.not_mem_nil
  rooted := ⟨[], rfl⟩

theorem Program.ready_of_compile {config : Config} {sources : Sources}
    {entry : String} {program : Program}
    (h : Program.compile config sources entry = .ok program) :
    program.graph.Ready := by
  rw [Program.compile_eq, Session.outcome_eq_ok] at h
  obtain ⟨graph, -, hprogram⟩ := ofBuild_eq_ok.mp h.2
  obtain ⟨hlinks, roots, hroots, -⟩ := ofGraph_eq_ok.mp hprogram
  exact ⟨fun _ hmodule => hlinks.isLinked hmodule, roots, hroots⟩

theorem ready_of_mem_programs {config : Config} {sources : Sources}
    {requests : List Request} {program : Program}
    (h : program ∈ programs config sources requests) : program.graph.Ready := by
  induction requests generalizing sources with
  | nil => cases h
  | cons request requests ih =>
      rcases List.mem_append.mp h with hfirst | hrest
      · cases request with
        | compile entry =>
            have hprogram := Option.mem_toList.mp hfirst
            exact Program.ready_of_compile (ok_of_toOption hprogram)
        | _ => cases hfirst
      · exact ih hrest

namespace Session

/-- Answers a request. -/
def serve (session : Session) : Request → Answer × Session
  | .insert path content => (.inserted, session.insert path content)
  | .load path => (.loaded (session.sources.load path), session)
  | .check entry => (.checked (session.config.checkEntry entry), session)
  | .compile entry => (session.compile entry).map .compiled id

theorem serve_compile (session : Session) (entry : String) :
    session.serve (.compile entry) =
      (.compiled (session.compile entry).1, (session.compile entry).2) := by
  rw [serve, Prod.map, id]

/-- What has become of a compiler when it has answered some requests. -/
def serveAll (session : Session) (requests : List Request) : Session :=
  requests.foldl (fun session request => (session.serve request).2) session

/-! ## One compilation -/

theorem fst_compile (session : Session) (entry : String) :
    (session.compile entry).1 =
      (session.outcome entry).map (·.emission.output) := by
  rw [compile_eq]
  cases session.outcome entry <;> rfl

theorem config_compile (session : Session) (entry : String) :
    (session.compile entry).2.config = session.config := by
  rw [compile_eq]
  cases session.outcome entry <;> rfl

theorem sources_compile (session : Session) (entry : String) :
    (session.compile entry).2.sources = session.sources := by
  rw [compile_eq]
  cases session.outcome entry <;> rfl

theorem graph_compile (session : Session) (entry : String) :
    (session.compile entry).2.graph =
      (session.outcome entry).toOption.elim session.graph Program.graph := by
  rw [compile_eq]
  cases session.outcome entry <;> rfl

theorem bytesRead_compile (session : Session) (entry : String) :
    (session.compile entry).2.bytesRead = session.bytesAfter entry := by
  rw [compile_eq]
  cases session.outcome entry <;> rfl

/-- A compiler makes of an entry what a fresh one makes of it. If it fails, what
it tells of the files may be counted on. -/
theorem agree_outcome_start (session : Session) (entry : String) :
    Agree (Failure.Like (Error.CountedOn session.bytesRead))
      ((start session.config session.sources).outcome entry)
      (session.outcome entry) := by
  refine session.agree_outcome (fun task bytes => ?_) entry
  exact (task.agree_compile session.config bytes _ _).mono fun h => ⟨bytes, h⟩

theorem agree_outcome_of_plain {session : Session}
    (h : session.sources.ToldPlainly session.config) (entry : String) :
    (start session.config session.sources).outcome entry =
      session.outcome entry := by
  have hagree := session.agree_outcome (R := Eq) (fun task bytes => ?same) entry
  case same =>
    rw [h.compile task bytes (bytes + session.bytesRead)]
    exact .refl (fun _ => rfl) _
  exact hagree.eq Failure.Like.eq

theorem toOption_outcome (session : Session) (entry : String) :
    (session.outcome entry).toOption =
      (Program.compile session.config session.sources entry).toOption := by
  rw [Program.compile_eq]
  exact (session.agree_outcome_start entry).toOption_eq.symm

/-! ## One request -/

variable (session : Session) (request : Request)

theorem config_serve : (session.serve request).2.config = session.config := by
  cases request with
  | compile entry => rw [serve_compile, config_compile]
  | _ => rfl

theorem sources_serve :
    (session.serve request).2.sources = session.sources.taking request := by
  cases request with
  | compile entry =>
      rw [serve_compile, sources_compile]
      rfl
  | _ => rfl

theorem graph_serve :
    (session.serve request).2.graph =
      (request.program? session.config session.sources).elim session.graph
        Program.graph := by
  cases request with
  | compile entry =>
      rw [serve_compile, graph_compile, toOption_outcome]
      rfl
  | _ => rfl

/-- A request that ends in no output leaves the graph alone. -/
theorem graph_serve_of_no_output {session : Session} {request : Request}
    (h : ∀ output, (session.serve request).1 ≠ .compiled (.ok output)) :
    (session.serve request).2.graph = session.graph := by
  rw [graph_serve]
  cases request with
  | compile entry =>
      have hfails : (session.outcome entry).toOption = none := by
        cases houtcome : session.outcome entry with
        | error => rfl
        | ok program =>
            refine absurd ?_ (h program.emission.output)
            rw [serve_compile, fst_compile, houtcome]
            rfl
      rw [Request.program?, ← session.toOption_outcome entry, hfails]
      rfl
  | _ => rfl

/-! ## Many requests -/

variable (requests : List Request)

theorem config_serveAll :
    (session.serveAll requests).config = session.config := by
  induction requests generalizing session with
  | nil => rfl
  | cons request requests ih =>
      exact (ih _).trans (session.config_serve request)

theorem sources_serveAll :
    (session.serveAll requests).sources =
      requests.foldl Sources.taking session.sources := by
  induction requests generalizing session with
  | nil => rfl
  | cons request requests ih =>
      rw [List.foldl_cons, ← session.sources_serve request]
      exact ih _

theorem graph_serveAll :
    (session.serveAll requests).graph =
      (programs session.config session.sources requests).getLast?.elim
        session.graph
        Program.graph := by
  induction requests generalizing session with
  | nil => rfl
  | cons request requests ih =>
      have hrest := ih (session.serve request).2
      rw [config_serve, sources_serve, graph_serve] at hrest
      rw [programs, List.getLast?_append]
      refine hrest.trans ?_
      cases request.program? session.config session.sources with
      | none => cases (programs _ _ requests).getLast? <;> rfl
      | some program => cases (programs _ _ requests).getLast? <;> rfl

/-- A compiler that has answered any requests keeps the graph of the last
program that it compiled, and the empty graph before that. The graph is linked
and its roots can be told. A request that ends in no output leaves it alone. An
entry is compiled as by a fresh compiler with the same sources, and the same
graph is kept, but an error about a token that cannot be read is told after all
bytes that were read; if there is no such token, the answer is the same. -/
theorem history (config : Config) (sources : Sources)
    (requests : List Request) :
    let session := (start config sources).serveAll requests
    (session.config = config ∧
      session.sources = requests.foldl Sources.taking sources) ∧
      session.graph = (programs config sources requests).getLast?.elim .empty
        Program.graph ∧
      session.graph.Ready ∧
      (∀ request,
        (∀ output, (session.serve request).1 ≠ .compiled (.ok output)) →
        (session.serve request).2.graph = session.graph) ∧
      ∀ entry,
        let fresh := (start config session.sources).compile entry
        let here := session.compile entry
        Agree (Failure.Like (Error.CountedOn session.bytesRead))
          fresh.1 here.1 ∧
          (session.sources.ToldPlainly config → fresh.1 = here.1) ∧
          ∀ output, here.1 = .ok output → fresh.2.graph = here.2.graph := by
  intro session
  have hconfig : session.config = config := config_serveAll _ requests
  have hgraph : session.graph =
      (programs config sources requests).getLast?.elim .empty
      Program.graph := graph_serveAll _ requests
  refine ⟨⟨hconfig, sources_serveAll _ requests⟩, hgraph, ?ready,
    fun request hnone => ?kept, fun entry => ?fresh⟩
  case ready =>
    rw [hgraph]
    cases hlast : (programs config sources requests).getLast? with
    | none => exact Graph.ready_empty
    | some program => exact ready_of_mem_programs (List.mem_of_getLast? hlast)
  case kept => exact graph_serve_of_no_output hnone
  case fresh =>
    rw [← hconfig]
    dsimp only
    rw [fst_compile, fst_compile, graph_compile, graph_compile]
    have hagree := session.agree_outcome_start entry
    refine ⟨hagree.map _, fun hplain => by rw [agree_outcome_of_plain hplain],
      fun output houtput => ?_⟩
    rw [hagree.toOption_eq]
    cases houtcome : session.outcome entry with
    | error failure =>
        rw [houtcome] at houtput
        cases houtput
    | ok program => rfl

/-- Nothing is wrong with the one file of a session. -/
theorem toldPlainly_needy : needy.sources.ToldPlainly .default := by
  intro path content hload faults hread
  rw [Sources.load] at hload
  cases hfind : needy.sources.files.find? (Path.normalize path) with
  | none =>
      rw [hfind] at hload
      cases hload
  | some found =>
      have hkey := Table.mem_keys_of_find? hfind
      rw [show needy.sources.files.keys = ["/a.ts"] by decide +kernel,
        List.mem_singleton] at hkey
      rw [hkey, show needy.sources.files.find? "/a.ts" =
          some "let f=eval;f()" by decide +kernel] at hload
      rw [hkey] at hread
      cases hload
      have hreads : (Script.SourceFile.read
          { elements := Path.extension "/a.ts" = some "tsx",
            decorators := Config.default.decorators }
          "let f=eval;f()".toList).toOption.isSome = true := by
        decide +kernel
      rw [hread] at hreads
      cases hreads

/-- Requests that fail or look around leave the graph of an earlier program. -/
theorem history_needy :
    let session := (start .default needy.sources).serveAll
      [.check "/a.js", .compile "/a.ts", .load "/b.ts", .compile "/a.js"]
    ∃ program, Program.compile .default needy.sources "/a.ts" = .ok program ∧
      session.graph = program.graph ∧ session.graph.Ready ∧
      (session.serve (.check "/a.ts")).2.graph = program.graph ∧
      (session.compile "/a.ts").1 = .ok "f()\nlet f=eval;" ∧
      (session.compile "/a.ts").2.graph = program.graph := by
  obtain ⟨after, hcompile⟩ := compile_needy
  obtain ⟨program, houtcome, -, hafter⟩ := compile_eq_ok.mp hcompile
  have hprogram :
      Program.compile .default needy.sources "/a.ts" = .ok program :=
    (Program.compile_eq _ _ _).trans houtcome
  have hother : Program.compile .default needy.sources "/a.js" =
      .error (.stopped (.invalidEntry "/a.js" (.wrongExtension "ts"))) := by
    rw [Program.compile_eq]
    exact outcome_of_entry (by decide +kernel)
  have hprograms : programs .default needy.sources
      [.check "/a.js", .compile "/a.ts", .load "/b.ts", .compile "/a.js"] =
        [program] := by
    simp [programs, Request.program?, Sources.taking, hprogram, hother,
      Except.toOption]
  have hhistory := history .default needy.sources
    [.check "/a.js", .compile "/a.ts", .load "/b.ts", .compile "/a.js"]
  dsimp only at hhistory ⊢
  generalize (start .default needy.sources).serveAll
    [.check "/a.js", .compile "/a.ts", .load "/b.ts", .compile "/a.js"] =
      session at hhistory ⊢
  obtain ⟨⟨-, hsources⟩, hgraph, hready, hkept, hfresh⟩ := hhistory
  obtain ⟨-, hanswer, hstored⟩ := hfresh "/a.ts"
  have hsame : session.sources = needy.sources := hsources
  rw [hprograms] at hgraph
  rw [hsame] at hanswer hstored
  have hfirst : (start .default needy.sources).compile "/a.ts" =
      (.ok "f()\nlet f=eval;", after) := hcompile
  rw [hfirst] at hanswer hstored
  have hagain := (hanswer toldPlainly_needy).symm
  have hlooks : (session.serve (.check "/a.ts")).2.graph = session.graph :=
    hkept _ fun output h => by cases h
  refine ⟨program, hprogram, hgraph, hready, hlooks.trans hgraph, hagain, ?_⟩
  rw [← hstored _ hagain, ← hafter]

/-- What becomes of an entry whose build meets one error. -/
theorem outcome_of_error {session : Session} {entry clean : String}
    {error : Error} (hclean : Path.normalize entry = clean)
    (hentry : session.config.checkEntry clean = .ok ())
    (hbuild :
      (Build.ofSources session.config session.sources clean
        session.bytesRead).errors = [error]) :
    session.outcome entry = .error (.notBuilt (.failed [error])) := by
  subst hclean
  rw [outcome_of_checked hentry, fst_build, Build.finish, hbuild,
    List.reverse_singleton, Build.sortedErrors, List.mergeSort_singleton]
  rfl

/-- One file, with a character that begins no token. -/
def unread : Sources := .ofList [("/a.ts", "f(a \x01)")]

theorem errors_unread :
    let build (bytesRead : Nat) :=
  Build.ofSources .default unread "/a.ts" bytesRead
    (build 0).errors.length = 1 ∧ (build 0).bytesRead = 7 ∧
      (build 7).errors.length = 1 ∧
      (build 0).errors ≠ (build 7).errors := by
  decide +kernel

/-- A compiler that compiles a file for a second time does not answer what a
fresh one answers. -/
theorem compile_again_unread :
    let session := (start .default unread).serveAll [.compile "/a.ts"]
    session.config = .default ∧ session.sources = unread ∧
      (session.compile "/a.ts").1 ≠
        ((start .default unread).compile "/a.ts").1 := by
  have hclean : Path.normalize "/a.ts" = "/a.ts" := by decide +kernel
  have hentry : Config.default.checkEntry "/a.ts" = .ok () := by decide +kernel
  obtain ⟨hone, hbytes, hagain, hdiffers⟩ := errors_unread
  obtain ⟨error, herror⟩ := List.length_eq_one_iff.mp hone
  obtain ⟨other, hother⟩ := List.length_eq_one_iff.mp hagain
  have hfirst : (start .default unread).outcome "/a.ts" =
      .error (.notBuilt (.failed [error])) :=
    outcome_of_error hclean hentry herror
  have hserved : (start .default unread).serveAll [.compile "/a.ts"] =
      ((start .default unread).compile "/a.ts").2 := by
    rw [serveAll, List.foldl_cons, List.foldl_nil, serve_compile]
  have hconfig := (start .default unread).config_compile "/a.ts"
  have hsources := (start .default unread).sources_compile "/a.ts"
  have hbytesRead := (start .default unread).bytesRead_compile "/a.ts"
  rw [bytesAfter_of_checked (hclean ▸ hentry), hclean, snd_build] at hbytesRead
  dsimp only
  rw [hserved]
  generalize ((start .default unread).compile "/a.ts").2 =
    session at hconfig hsources hbytesRead ⊢
  have hsecond :
      session.outcome "/a.ts" = .error (.notBuilt (.failed [other])) := by
    refine outcome_of_error hclean (hconfig ▸ hentry) ?_
    rw [hconfig, hsources, hbytesRead.trans hbytes]
    exact hother
  rw [fst_compile, fst_compile, hfirst, hsecond]
  refine ⟨hconfig, hsources, fun hsame => hdiffers ?_⟩
  cases hsame
  exact herror.trans hother.symm

end Session

end Prune
