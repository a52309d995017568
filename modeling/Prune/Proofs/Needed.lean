import Prune.Proofs.CleanPath
import Prune.Proofs.Dissected
import Prune.Build

/-!
# The modules that an entry needs

`Needed` is the least set of ids that holds the entry and, with a module, all
that its text speaks of. A module speaks of the targets of its clauses only
(`mem_targets`), so a build that schedules what the clauses of a result name
schedules what is needed, and nothing else. `Adds` says once what one result
schedules.

What the file of an id makes is `compiledAt`. Which task asked for the file and
how much was read before tells errors apart and no modules (`toOption_compile`).
A module gets the cleaned path of its task for its id; the paths of tasks are
clean already (`Needed.clean`), and this is where the extension matters.
-/

namespace Prune

/-! ## What is needed -/

/-- The ids that the text of a module speaks of. -/
def Module.targets (module : Module) : List String :=
  module.imports.map Import.target ++
    (module.importTable.values.map ImportBinding.target ++
      module.reExports.values.map ReExport.target)

theorem Module.Dissected.mem_targets {config : Config} {path : String}
    {isEntry : Bool} {module : Module}
    (h : module.Dissected config path isEntry []) {id : String} :
    id ∈ module.targets ↔ ∃ clause ∈ module.imports, clause.target = id := by
  rw [targets, List.mem_append, List.mem_append, List.mem_map]
  constructor
  · rintro (hclause | hbinding | hreExport)
    · exact hclause
    · obtain ⟨binding, hmem, rfl⟩ := List.mem_map.mp hbinding
      obtain ⟨⟨name, other⟩, hentry, rfl⟩ := List.mem_map.mp hmem
      exact List.mem_map.mp ((h.taken hentry).resolve_right List.not_mem_nil)
    · obtain ⟨reExport, hmem, rfl⟩ := List.mem_map.mp hreExport
      obtain ⟨⟨name, other⟩, hentry, rfl⟩ := List.mem_map.mp hmem
      exact List.mem_map.mp ((h.passedOn hentry).resolve_right List.not_mem_nil)
  · exact Or.inl

namespace Build

/-- The module that the file at a path makes, in the build of an entry. -/
def compiledAt (config : Config) (load : Loader) (entry path : String) :
    Option Module :=
  (Task.compile config ⟨path, decide (path = entry), none⟩ 0
    (load path)).toOption

/-- The ids of the modules that an entry needs. -/
inductive Needed (config : Config) (load : Loader) (entry : String) :
    String → Prop where
  | entry : Needed config load entry entry
  | target {id target : String} {module : Module}
      (needed : Needed config load entry id)
      (compiled : compiledAt config load entry id = some module)
      (targets : target ∈ module.targets) :
      Needed config load entry target

/-- Neither who imported a file nor what was read before it changes the
module. -/
theorem toOption_compile (config : Config) (load : Loader) {entry : String}
    {task : Task} (h : task.isEntry = decide (task.path = entry))
    (bytesBefore : Nat) :
    (task.compile config bytesBefore (load task.path)).toOption =
      compiledAt config load entry task.path := by
  rw [compiledAt, ← h]
  cases load task.path with
  | error error => rfl
  | ok content => exact Module.toOption_ofText config _ content _ bytesBefore

theorem ofText_of_compiledAt {config : Config} {load : Loader}
    {entry path : String} {module : Module}
    (h : compiledAt config load entry path = some module) :
    ∃ content, load path = .ok content ∧
      Module.ofText config (Path.normalize path) content (decide (path = entry))
        0 = .ok module := by
  rw [compiledAt] at h
  cases hload : load path with
  | error error =>
      rw [hload] at h
      cases h
  | ok content =>
      rw [hload, Task.compile] at h
      dsimp only at h
      cases hmodule : Module.ofText config (Path.normalize path) content
        (decide (path = entry)) 0 with
      | error error =>
          rw [hmodule] at h
          cases h
      | ok made =>
          rw [hmodule] at h
          cases h
          exact ⟨content, rfl, hmodule⟩

theorem dissected_of_compiledAt {config : Config} {load : Loader}
    {entry path : String} {module : Module}
    (h : compiledAt config load entry path = some module) :
    module.Dissected config (Path.normalize path)
      (decide (path = entry)) [] := by
  obtain ⟨content, -, hmodule⟩ := ofText_of_compiledAt h
  exact Module.dissected_ofText hmodule

variable {config : Config} {load : Loader} {entry : String}

/-- What is needed is asked for under the id that it gets. -/
theorem Needed.clean (hextension : Path.IsExtension config.extension.toList)
    (hentry : Path.normalize entry = entry) {id : String}
    (h : Needed config load entry id) :
    Path.normalize id = id := by
  cases h with
  | entry => exact hentry
  | target _ compiled targets =>
      have hdissected := dissected_of_compiledAt compiled
      obtain ⟨clause, hclause, rfl⟩ := hdissected.mem_targets.mp targets
      exact Specifier.normalize_of_resolve hextension
        (hdissected.resolved clause hclause)

theorem Needed.id (hextension : Path.IsExtension config.extension.toList)
    (hentry : Path.normalize entry = entry) {id : String}
    (h : Needed config load entry id) {module : Module}
    (hmodule : compiledAt config load entry id = some module) :
    module.id = id := by
  rw [(dissected_of_compiledAt hmodule).id, h.clean hextension hentry]

/-! ## What a result schedules -/

/-- The tasks that clauses of a module add to a build. -/
structure Adds (importer : Module) (clauses : List Import) (build next : Build)
    (added : List Task) : Prop where
  inFlight : next.inFlight = build.inFlight ++ added
  scheduled : next.scheduled = (added.map Task.path).reverse ++ build.scheduled
  modules : next.modules = build.modules
  errors : next.errors = build.errors
  named : ∀ task ∈ added, ∃ clause ∈ clauses, task = .imported importer clause
  fresh : build.scheduled.Nodup → next.scheduled.Nodup
  covered : ∀ clause ∈ clauses, clause.target ∈ next.scheduled

theorem Adds.subset {importer : Module} {clauses : List Import}
    {build next : Build} {added : List Task}
    (h : Adds importer clauses build next added) :
    build.scheduled ⊆ next.scheduled := by
  rw [h.scheduled]
  exact List.subset_append_right _ _

theorem Adds.path_notMem {importer : Module} {clauses : List Import}
    {build next : Build} {added : List Task}
    (h : Adds importer clauses build next added)
    (hnodup : build.scheduled.Nodup) {task : Task} (htask : task ∈ added) :
    task.path ∉ build.scheduled := by
  have hnext := h.fresh hnodup
  rw [h.scheduled] at hnext
  intro hold
  refine (List.nodup_append.mp hnext).2.2 task.path ?_ task.path hold rfl
  exact List.mem_reverse.mpr (List.mem_map_of_mem htask)

theorem exists_adds (importer : Module) (clauses : List Import)
    (build : Build) :
    ∃ added, Adds importer clauses build
      (clauses.foldl (schedule importer) build) added := by
  induction clauses generalizing build with
  | nil =>
      refine ⟨[], (List.append_nil _).symm, rfl, rfl, rfl, ?_, id, ?_⟩
      · exact fun _ h => absurd h List.not_mem_nil
      · exact fun _ h => absurd h List.not_mem_nil
  | cons clause clauses ih =>
      rw [List.foldl_cons]
      -- A target that is known adds nothing; a new one is scheduled before the
      -- clauses that follow.
      by_cases hknown : build.scheduled.contains clause.target = true
      · have hschedule : schedule importer build clause = build := by
          rw [schedule, if_pos hknown]
        obtain ⟨added, h⟩ := ih build
        rw [hschedule]
        refine ⟨added, h.inFlight, h.scheduled, h.modules, h.errors,
          fun task htask => ?_, h.fresh, fun other hother => ?_⟩
        · obtain ⟨other, hother, htask⟩ := h.named task htask
          exact ⟨other, List.mem_cons_of_mem _ hother, htask⟩
        · rcases List.mem_cons.mp hother with rfl | hmem
          · exact h.subset (List.contains_iff_mem.mp hknown)
          · exact h.covered other hmem
      · have hschedule : schedule importer build clause =
            { build with
              scheduled := clause.target :: build.scheduled
              inFlight := build.inFlight ++ [.imported importer clause] } := by
          rw [schedule, if_neg hknown]
        rw [List.contains_iff_mem] at hknown
        obtain ⟨added, h⟩ := ih (schedule importer build clause)
        rw [hschedule] at h ⊢
        refine ⟨.imported importer clause :: added, ?_, ?_, h.modules, h.errors,
          fun task htask => ?_, fun hnodup =>
            h.fresh (List.nodup_cons.mpr ⟨hknown, hnodup⟩),
          fun other hother => ?_⟩
        · rw [h.inFlight, List.append_assoc]
          rfl
        · rw [h.scheduled, List.map_cons, List.reverse_cons, List.append_assoc]
          rfl
        · rcases List.mem_cons.mp htask with rfl | hmem
          · exact ⟨clause, List.mem_cons_self, rfl⟩
          · obtain ⟨other, hother, htask⟩ := h.named task hmem
            exact ⟨other, List.mem_cons_of_mem _ hother, htask⟩
        · rcases List.mem_cons.mp hother with rfl | hmem
          · exact h.subset List.mem_cons_self
          · exact h.covered other hmem

theorem accept_ok (build : Build) (module : Module) :
    ∃ next added, Adds module module.imports build next added ∧
      build.accept (.ok module) =
        { next with modules := module :: build.modules } := by
  obtain ⟨added, h⟩ := exists_adds module module.imports build
  refine ⟨_, added, h, ?_⟩
  rw [accept, h.modules]

/-- A build without its count of bytes. -/
def uncounted (build : Build) : Build := { build with bytesRead := 0 }

theorem schedule_uncounted (importer : Module) (build : Build)
    (clause : Import) :
    schedule importer build.uncounted clause =
      (schedule importer build clause).uncounted := by
  have hscheduled : build.uncounted.scheduled = build.scheduled := rfl
  rw [schedule, schedule, hscheduled]
  split
  · rfl
  · rfl

theorem foldl_schedule_uncounted (importer : Module) (clauses : List Import)
    (build : Build) :
    clauses.foldl (schedule importer) build.uncounted =
      (clauses.foldl (schedule importer) build).uncounted := by
  induction clauses generalizing build with
  | nil => rfl
  | cons clause clauses ih =>
      rw [List.foldl_cons, List.foldl_cons, schedule_uncounted, ih]

theorem accept_uncounted (build : Build) (result : Except Error Module) :
    build.uncounted.accept result = (build.accept result).uncounted := by
  cases result with
  | error error => rfl
  | ok module =>
      rw [accept, accept, foldl_schedule_uncounted]
      rfl

end Build

end Prune
