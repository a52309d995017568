import Prune.Proofs.Targets
import Prune.Session

/-!
# The stages of a compilation

A compilation checks its entry, builds a graph, links it, collects its roots and
puts out what they reach. It stops at the first stage that fails.
`Session.outcome` is what these stages come to, and `Session.compile_eq` says
what a compiler answers and keeps for either end. A compilation on its own comes
to what one with a fresh compiler comes to (`Program.compile_eq`). Everything
else that is said of compilations starts from these equations.
-/

namespace Prune

namespace Program

/-- What becomes of a build: its failure, or what its graph is compiled to. -/
def ofBuild (config : Config) :
    Except BuildFailure Graph → Except Failure Program
  | .error failure => .error (.notBuilt failure)
  | .ok graph => (ofGraph config graph).mapError .stopped

variable {config : Config} {program : Program}

theorem ofGraph_eq_ok {graph : Graph} :
    ofGraph config graph = .ok program ↔
      graph.LinksTo config.isGlobal program.graph ∧ ∃ roots,
        program.graph.roots = .ok roots ∧
        program.emission = program.graph.emission roots := by
  rw [ofGraph]
  constructor
  · intro h
    obtain ⟨linked, hlink, h⟩ := bind_ok h
    obtain ⟨roots, hroots, h⟩ := bind_ok h
    cases h
    exact ⟨Graph.linksTo_of_linkWith hlink, roots, hroots, rfl⟩
  · rintro ⟨hlinks, roots, hroots, hemission⟩
    have hlink : graph.link config = .ok program.graph := hlinks.linkWith_eq
    rw [hlink]
    change (do let roots ← program.graph.roots; _) = _
    rw [hroots]
    change Except.ok
      (⟨program.graph, program.graph.emission roots⟩ : Program) = _
    rw [← hemission]

theorem ofBuild_eq_ok {built : Except BuildFailure Graph} :
    ofBuild config built = .ok program ↔
      ∃ graph, built = .ok graph ∧ ofGraph config graph = .ok program := by
  constructor
  · intro h
    cases built with
    | error failure => cases h
    | ok graph => exact ⟨graph, rfl, mapError_ok h⟩
  · rintro ⟨graph, rfl, h⟩
    rw [ofBuild, h]
    rfl

theorem run_compileWith (config : Config)
    (build : String → StateM Nat (Except BuildFailure Graph)) (entry : String)
    (bytesBefore : Nat) :
    (compileWith config build entry).run bytesBefore =
      match config.checkEntry (Path.normalize entry) with
      | .error error => (.error (.stopped error), bytesBefore)
      | .ok () =>
          let built := build (Path.normalize entry) bytesBefore
          (ofBuild config built.1, built.2) := by
  unfold compileWith
  dsimp only
  cases config.checkEntry (Path.normalize entry) with
  | error error => rfl
  | ok _ =>
      dsimp only
      rw [StateT.run_bind]
      change (do
        let (built, bytesRead) ← build (Path.normalize entry)
            bytesBefore; _) = _
      rcases build (Path.normalize entry) bytesBefore with ⟨built, bytesRead⟩
      cases built <;> rfl

end Program

namespace Session

/-- What a compiler makes of an entry. -/
def outcome (session : Session) (entry : String) : Except Failure Program :=
  match session.config.checkEntry (Path.normalize entry) with
  | .error error => .error (.stopped error)
  | .ok () =>
      Program.ofBuild session.config
        (session.build (Path.normalize entry) session.bytesRead).1

/-- The bytes that have been read when a compiler is done with an entry. -/
def bytesAfter (session : Session) (entry : String) : Nat :=
  match session.config.checkEntry (Path.normalize entry) with
  | .error _ => session.bytesRead
  | .ok () => (session.build (Path.normalize entry) session.bytesRead).2

variable {session after : Session} {entry output : String} {program : Program}

theorem fst_build (session : Session) (entry : String) (bytesRead : Nat) :
    (session.build entry bytesRead).1 =
      (Build.ofSources session.config session.sources entry bytesRead).finish :=
  rfl

theorem snd_build (session : Session) (entry : String) (bytesRead : Nat) :
    (session.build entry bytesRead).2 =
      (Build.ofSources session.config session.sources entry
        bytesRead).bytesRead :=
  rfl

theorem outcome_of_entry {error : Error}
    (h : session.config.checkEntry (Path.normalize entry) = .error error) :
    session.outcome entry = .error (.stopped error) := by
  unfold outcome
  rw [h]

theorem outcome_of_checked
    (h : session.config.checkEntry (Path.normalize entry) = .ok ()) :
    session.outcome entry = Program.ofBuild session.config
      (session.build (Path.normalize entry) session.bytesRead).1 := by
  unfold outcome
  simp only [h]

theorem bytesAfter_of_checked
    (h : session.config.checkEntry (Path.normalize entry) = .ok ()) :
    session.bytesAfter entry =
      (session.build (Path.normalize entry) session.bytesRead).2 := by
  unfold bytesAfter
  simp only [h]

/-- What a compiler answers, and what it keeps. -/
theorem compile_eq (session : Session) (entry : String) :
    session.compile entry =
      match session.outcome entry with
      | .error failure =>
          (.error failure,
            { session with bytesRead := session.bytesAfter entry })
      | .ok program =>
          (.ok program.emission.output,
            { session with
              graph := program.graph,
              bytesRead := session.bytesAfter entry }) := by
  have hrun :=
    Program.run_compileWith session.config session.build entry session.bytesRead
  unfold compile
  generalize (Program.compileWith session.config session.build entry).run
    session.bytesRead = ran
    at hrun
  subst hrun
  unfold outcome bytesAfter
  cases session.config.checkEntry (Path.normalize entry) with
  | error error => rfl
  | ok _ =>
      dsimp only
      generalize session.build (Path.normalize entry) session.bytesRead = built
      cases Program.ofBuild session.config built.1 <;> rfl

theorem compile_eq_ok :
    session.compile entry = (.ok output, after) ↔
      ∃ program, session.outcome entry = .ok program ∧
        program.emission.output = output ∧
        { session with
          graph := program.graph,
          bytesRead := session.bytesAfter entry } = after := by
  rw [compile_eq]
  cases session.outcome entry with
  | error failure => simp
  | ok program => simp

theorem outcome_eq_ok :
    session.outcome entry = .ok program ↔
      session.config.checkEntry (Path.normalize entry) = .ok () ∧
        Program.ofBuild session.config
          (session.build (Path.normalize entry) session.bytesRead).1 =
            .ok program := by
  unfold outcome
  cases session.config.checkEntry (Path.normalize entry) with
  | error error => simp
  | ok _ => simp

end Session

theorem Program.compile_eq (config : Config) (sources : Sources)
    (entry : String) :
    compile config sources entry =
      (Session.start config sources).outcome entry := by
  unfold compile compileWith Session.outcome
  dsimp only [Session.start]
  cases config.checkEntry (Path.normalize entry) with
  | error error => rfl
  | ok _ =>
      change Id.run
        (do
          let built ← pure
              (Graph.build config sources (Path.normalize entry)); _) =
        Program.ofBuild config
          (Graph.build config sources (Path.normalize entry))
      rw [pure_bind]
      cases Graph.build config sources (Path.normalize entry) <;> rfl

end Prune
