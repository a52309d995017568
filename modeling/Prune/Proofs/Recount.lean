import Mathlib.Data.List.Forall2
import Prune.Proofs.Stages

/-!
# Bytes that were read before

A compiler counts the bytes of all files that it reads, from one compilation to
the next, and a token that cannot be read is told by its place in that count.
Nothing else is. So a build that starts after some bytes goes through the same
states as one that starts after none, task by task (`Build.InStep`): it
schedules the same files, compiles the same modules and meets errors that are
the same but for the count. What comes of the two agrees in the same sense,
`Agree`, through all stages of a compilation (`Session.agree_outcome`).

The relation between the errors is left open throughout. `Error.CountedOn`
always serves. If no fault of any file shows a token that cannot be read
(`Sources.ToldPlainly`), equality does.
-/

namespace Prune

/-! ## Computations that agree -/

/-- Two computations that come to the same, or fail in ways that are related. -/
inductive Agree {ε α : Type} (R : ε → ε → Prop) :
    Except ε α → Except ε α → Prop where
  | ok (value : α) : Agree R (.ok value) (.ok value)
  | error {one other : ε} (related : R one other) :
      Agree R (.error one) (.error other)

namespace Agree

variable {ε α β : Type} {R : ε → ε → Prop} {one other : Except ε α}

theorem refl (h : ∀ error, R error error) (result : Except ε α) :
    Agree R result result := by
  cases result with
  | error error => exact .error (h error)
  | ok value => exact .ok value

theorem map (h : Agree R one other) (f : α → β) :
    Agree R (one.map f) (other.map f) := by
  cases h with
  | ok value => exact .ok (f value)
  | error related => exact .error related

theorem mono {S : ε → ε → Prop} (h : Agree R one other)
    (hRS : ∀ {error other}, R error other → S error other) :
    Agree S one other := by
  cases h with
  | ok value => exact .ok value
  | error related => exact .error (hRS related)

theorem eq (h : Agree R one other)
    (hR : ∀ {error other}, R error other → error = other) :
    one = other := by
  cases h with
  | ok => rfl
  | error related => rw [hR related]

theorem toOption_eq (h : Agree R one other) :
    one.toOption = other.toOption := by
  cases h <;> rfl

end Agree

/-! ## Files -/

/-- One error, told after two numbers of bytes. -/
inductive Error.Recounted (bytes otherBytes : Nat) : Error → Error → Prop where
  | same (error : Error) : Recounted bytes otherBytes error error
  | notParsed (path : String) (text : List Char) (faults : List Script.Fault) :
      Recounted bytes otherBytes
        (.notParsed path (faultFrames path bytes text faults))
        (.notParsed path (faultFrames path otherBytes text faults))
  | entryNotParsed (path : String) (text : List Char)
      (faults : List Script.Fault) :
      Recounted bytes otherBytes
        (.invalidEntry path (.notParsed (faultFrames path bytes text faults)))
        (.invalidEntry path
          (.notParsed (faultFrames path otherBytes text faults)))

/-- One error, told after some bytes and after more. -/
def Error.CountedOn (extra : Nat) (error other : Error) : Prop :=
  ∃ bytes, error.Recounted bytes (bytes + extra) other

theorem Module.agree_ofText (config : Config) (path content : String)
    (isEntry : Bool) (bytes otherBytes : Nat) :
    Agree (Error.Recounted bytes otherBytes)
      (Module.ofText config path content isEntry bytes)
      (Module.ofText config path content isEntry otherBytes) := by
  unfold ofText
  dsimp only
  split
  · next file _ => exact .refl .same _
  · exact .error (.same _)
  · cases isEntry with
    | true => exact .error (.entryNotParsed _ _ _)
    | false => exact .error (.notParsed _ _ _)

/-- Whether a token is shown without counting bytes. -/
def Script.Shown.Plain : Script.Shown → Prop
  | .text _ => True
  | .unreadable _ _ _ => False
  | .present token => token.Plain

theorem Script.Shown.Plain.words {shown : Script.Shown} (h : shown.Plain)
    (bytes otherBytes : Nat) :
    shown.words bytes = shown.words otherBytes := by
  induction shown with
  | text => rfl
  | unreadable => exact h.elim
  | present token ih =>
      unfold Shown.words
      rw [ih h]

/-- Whether a complaint is worded without counting bytes. -/
def Script.Complaint.Plain : Script.Complaint → Prop
  | .expected _ got => got.Plain
  | .unexpected got _ => got.Plain
  | _ => True

theorem Script.Complaint.Plain.message {complaint : Script.Complaint}
    (h : complaint.Plain) (bytes otherBytes : Nat) :
    complaint.message bytes = complaint.message otherBytes := by
  cases complaint with
  | expected wanted got =>
      have hgot : got.Plain := h
      unfold Complaint.message
      dsimp only
      rw [hgot.words bytes otherBytes]
  | unexpected got wanted =>
      have hgot : got.Plain := h
      unfold Complaint.message
      dsimp only
      rw [hgot.words bytes otherBytes]
  | _ => rfl

theorem faultFrames_of_plain {faults : List Script.Fault}
    (h : ∀ fault ∈ faults, fault.complaint.Plain) (path : String)
    (text : List Char) (bytes otherBytes : Nat) :
    faultFrames path bytes text faults =
      faultFrames path otherBytes text faults := by
  rw [faultFrames, faultFrames]
  refine congrArg _ (List.map_congr_left fun fault hfault => ?_)
  rw [(h fault hfault).message bytes otherBytes]

/-- What is wrong with the files of some sources, if anything, is told without
counting bytes. -/
def Sources.ToldPlainly (config : Config) (sources : Sources) : Prop :=
  ∀ path content, sources.load path = .ok content → ∀ faults,
    Script.SourceFile.read
      { elements := Path.extension (Path.normalize path) = some "tsx"
        decorators := config.decorators }
      content.toList = .error (.faulty faults) → ∀ fault ∈ faults,
        fault.complaint.Plain

theorem Sources.ToldPlainly.compile {config : Config} {sources : Sources}
    (h : sources.ToldPlainly config) (task : Task) (bytes otherBytes : Nat) :
    task.compile config bytes (sources.load task.path) =
      task.compile config otherBytes (sources.load task.path) := by
  cases hload : sources.load task.path with
  | error error => rfl
  | ok content =>
      have hplain := h task.path content hload
      rw [Task.compile, Task.compile, Module.ofText, Module.ofText]
      dsimp only
      split
      · rfl
      · rfl
      · next faults hread =>
          rw [faultFrames_of_plain (hplain faults hread) _ _ bytes otherBytes]

theorem Task.agree_compile (config : Config) (task : Task)
    (bytes otherBytes : Nat) (loaded : Except LoadError String) :
    Agree (Error.Recounted bytes otherBytes) (task.compile config bytes loaded)
      (task.compile config otherBytes loaded) := by
  cases loaded with
  | error error => exact .error (.same _)
  | ok content =>
      exact Module.agree_ofText config _ content task.isEntry bytes otherBytes

/-! ## Builds -/

/-- Two ways in which a build fails: the errors that it meets are related one by
one, before they are sorted. -/
inductive BuildFailure.Like (R : Error → Error → Prop) :
    BuildFailure → BuildFailure → Prop where
  | failed {errors others : List Error}
      (related : List.Forall₂ R errors others) :
      Like R (.failed (Build.sortedErrors errors))
        (.failed (Build.sortedErrors others))
  | missingEnd (missing : MissingEnd) :
      Like R (.missingEnd missing) (.missingEnd missing)

namespace Build

/-- Two builds that have come to the same state, the second after more bytes
than the first. -/
structure InStep (R : Error → Error → Prop) (extra : Nat) (one other : Build) :
    Prop where
  scheduled : one.scheduled = other.scheduled
  inFlight : one.inFlight = other.inFlight
  modules : one.modules = other.modules
  errors : List.Forall₂ R one.errors other.errors
  bytesRead : other.bytesRead = one.bytesRead + extra

variable {R : Error → Error → Prop} {extra : Nat} {one other : Build}

theorem InStep.schedule (h : InStep R extra one other) (importer : Module)
    (clause : Import) :
    InStep R extra (schedule importer one clause)
      (schedule importer other clause) := by
  rw [Build.schedule, Build.schedule, h.scheduled]
  split
  · exact h
  · exact ⟨rfl, congrArg (· ++ _) h.inFlight, h.modules, h.errors, h.bytesRead⟩

theorem InStep.foldl_schedule (h : InStep R extra one other) (importer : Module)
    (clauses : List Import) :
    InStep R extra (clauses.foldl (Build.schedule importer) one)
      (clauses.foldl (Build.schedule importer) other) := by
  induction clauses generalizing one other with
  | nil => exact h
  | cons clause clauses ih => exact ih (h.schedule importer clause)

theorem InStep.accept (h : InStep R extra one other)
    {result otherResult : Except Error Module}
    (hresult : Agree R result otherResult) :
    InStep R extra (one.accept result) (other.accept otherResult) := by
  cases hresult with
  | ok module =>
      have hnext := h.foldl_schedule module module.imports
      exact { hnext with modules := congrArg (module :: ·) hnext.modules }
  | error related => exact { h with errors := .cons related h.errors }

variable {config : Config} {load : Loader}

section

variable (hmeet : ∀ (task : Task) (bytes : Nat),
    Agree R (task.compile config bytes (load task.path))
  (task.compile config (bytes + extra) (load task.path)))

include hmeet

theorem InStep.step (h : InStep R extra one other) :
    InStep R extra (one.step config load) (other.step config load) := by
  rw [Build.step, Build.step, ← h.inFlight]
  cases one.inFlight with
  | nil => exact h
  | cons task tasks =>
      have hdone : InStep R extra
          { one with inFlight := one.inFlight.eraseIdx 0 }
          { other with inFlight := other.inFlight.eraseIdx 0 } :=
        { h with inFlight := congrArg (List.eraseIdx · 0) h.inFlight }
      have hresult := hmeet task one.bytesRead
      rw [← h.bytesRead] at hresult
      have hnext := hdone.accept hresult
      have hbytes :
          (other.receive 0
            (task.compile config other.bytesRead (load task.path))).bytesRead +
          bytesOf (load task.path) =
            (one.receive 0
              (task.compile config one.bytesRead (load task.path))).bytesRead +
              bytesOf (load task.path) + extra := by
        have hmore := hnext.bytesRead
        rw [receive, receive]
        omega
      exact { hnext with bytesRead := hbytes }

theorem InStep.run (h : InStep R extra one other) (fuel : Nat) :
    InStep R extra (one.run config load fuel) (other.run config load fuel) := by
  induction fuel generalizing one other with
  | zero => exact h
  | succ fuel ih =>
      rw [Build.run, Build.run, h.inFlight]
      split
      · exact h
      · exact ih (h.step hmeet)

end

/-- What comes of two builds that have come to the same state. -/
theorem InStep.finish (h : InStep R extra one other) :
    Agree (BuildFailure.Like R) one.finish other.finish := by
  rw [Build.finish, Build.finish, h.modules]
  cases hone : one.errors with
  | nil =>
      have hother : other.errors = [] := by
        have herrors := h.errors
        rw [hone] at herrors
        exact List.forall₂_nil_left_iff.mp herrors
      rw [hother]
      cases graphOf other.modules.reverse with
      | error missing => exact .error (.missingEnd missing)
      | ok graph => exact .ok graph
  | cons error errors =>
      have herrors := h.errors
      rw [hone] at herrors
      cases hother : other.errors with
      | nil =>
          rw [hother] at herrors
          cases herrors
      | cons otherError otherErrors =>
          rw [hother] at herrors
          exact .error (.failed (List.rel_reverse herrors))

end Build

/-! ## Compilations -/

theorem BuildFailure.Like.eq {failure other : BuildFailure}
    (h : failure.Like Eq other) :
    failure = other := by
  cases h with
  | @failed errors others related =>
      have hsame : errors = others := by
        rwa [List.forall₂_eq_eq_eq] at related
      rw [hsame]
  | missingEnd => rfl

/-- Two ways in which a compilation fails, which are the same but for the errors
of a build. -/
inductive Failure.Like (R : Error → Error → Prop) :
    Failure → Failure → Prop where
  | stopped (error : Error) : Like R (.stopped error) (.stopped error)
  | notBuilt {failure other : BuildFailure} (related : failure.Like R other) :
      Like R (.notBuilt failure) (.notBuilt other)

theorem Failure.Like.eq {failure other : Failure} (h : failure.Like Eq other) :
    failure = other := by
  cases h with
  | stopped => rfl
  | notBuilt related => rw [related.eq]

theorem Program.agree_ofBuild {R : Error → Error → Prop} (config : Config)
    {built other : Except BuildFailure Graph}
    (h : Agree (BuildFailure.Like R) built other) :
    Agree (Failure.Like R) (ofBuild config built) (ofBuild config other) := by
  cases h with
  | error related => exact .error (.notBuilt related)
  | ok graph =>
      rw [ofBuild]
      cases ofGraph config graph with
      | error error => exact .error (.stopped error)
      | ok program => exact .ok program

/-- A compiler makes of an entry what a fresh one makes of it, up to what the
bytes that were read before do to the files that are compiled. -/
theorem Session.agree_outcome {R : Error → Error → Prop} (session : Session)
    (hmeet : ∀ (task : Task) (bytes : Nat),
      Agree R
        (task.compile session.config bytes (session.sources.load task.path))
        (task.compile session.config (bytes + session.bytesRead)
          (session.sources.load task.path)))
    (entry : String) :
    Agree (Failure.Like R)
      ((start session.config session.sources).outcome entry)
      (session.outcome entry) := by
  unfold outcome
  dsimp only [start]
  cases session.config.checkEntry (Path.normalize entry) with
  | error error => exact .error (.stopped error)
  | ok _ =>
      refine Program.agree_ofBuild session.config ?_
      have hstart : Build.InStep R session.bytesRead
          (.start (Path.normalize entry) 0)
          (.start (Path.normalize entry) session.bytesRead) :=
        ⟨rfl, rfl, rfl, .nil, (Nat.zero_add _).symm⟩
      exact (hstart.run hmeet (session.sources.size + 2)).finish

end Prune
