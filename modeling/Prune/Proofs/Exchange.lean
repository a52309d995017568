import Mathlib.Data.List.Perm.Basic
import Mathlib.Logic.Relation
import Prune.Proofs.Assembly
import Prune.Proofs.Needed

/-!
# Results in any order

The files of a build are compiled at the same time, and the loop that schedules
them takes their results as they come. `Exchange` is the build as seen from
outside of the loop: tasks run, a task that is done sends its result, and the
loop receives what was sent first, for as long as it waits for anything. Which
task is done next is left open, so a run of `Step` is an order in which results
come in.

`Sound` is what every step keeps. Each id that has been scheduled has one task,
which runs, has sent its result, or was received; the result of a task depends
on its path alone, up to the words of an error. A loop that waits for nothing
has therefore received what `compiledAt` says of each scheduled id, and these
are the ids that are `Needed`: they are closed because the clauses of a received
module have been scheduled. Nothing of that depends on the order.

`Build.run` is one of these orders: each task sends its result and is received
at once (`exists_mirrors_run`).
-/

namespace Prune

/-! ## The exchange of results -/

/-- A build whose tasks run at the same time. The tasks in flight are those that
still run. -/
structure Exchange where
  build : Build
  /-- The results that have been sent and not received, in the order they were
  sent. -/
  channel : List (Task × Except Error Module)
  /-- The results that were received, the latest first. -/
  received : List (Task × Except Error Module)
  /-- How many results the loop waits for. -/
  awaited : Int

namespace Exchange

def start (entry : String) : Exchange := ⟨.start entry 0, [], [], 1⟩

/-- All tasks that were ever started. -/
def tasks (x : Exchange) : List Task :=
  x.build.inFlight ++ (x.channel ++ x.received).map Prod.fst

/-- How many results are to come: those of running tasks, and those on the
channel. -/
def toCome (x : Exchange) : Nat := x.build.inFlight.length + x.channel.length

/-- A running task is done, and sends its result. -/
def send (x : Exchange) (place : Nat) (task : Task)
    (result : Except Error Module) : Exchange :=
  { x with
    build := { x.build with inFlight := x.build.inFlight.eraseIdx place }
    channel := x.channel ++ [(task, result)] }

/-- The loop takes a result. It waits for one less, and for one more for every
id it schedules. -/
def receive (x : Exchange) (message : Task × Except Error Module)
    (rest : List (Task × Except Error Module)) : Exchange :=
  let build := x.build.accept message.2
  { build
    channel := rest
    received := message :: x.received
    awaited :=
      x.awaited - 1 + (build.scheduled.length - x.build.scheduled.length) }

/-- What may happen next: any task that runs may be done, having been compiled
after any number of bytes, and the loop may receive a result if it waits for
one. -/
inductive Step (config : Config) (load : Loader) :
    Exchange → Exchange → Prop where
  | send {x : Exchange} {place : Nat} {task : Task} (bytesBefore : Nat)
      (runs : x.build.inFlight[place]? = some task) :
      Step config load x
        (x.send place task (task.compile config bytesBefore (load task.path)))
  | receive {x : Exchange} {message : Task × Except Error Module}
      {rest : List (Task × Except Error Module)} (waits : x.awaited ≠ 0)
      (next : x.channel = message :: rest) :
      Step config load x (x.receive message rest)

/-- The states that a build of an entry may come to. -/
def Reached (config : Config) (load : Loader) (entry : String) (x : Exchange) :
    Prop :=
  Relation.ReflTransGen (Step config load) (start entry) x

/-! ## What every step keeps -/

structure Sound (config : Config) (load : Loader) (entry : String)
    (x : Exchange) : Prop where
  awaited : x.awaited = x.toCome
  once : x.build.scheduled.Nodup
  spawned : (x.tasks.map Task.path).Perm x.build.scheduled
  isEntry : ∀ task ∈ x.tasks, task.isEntry = decide (task.path = entry)
  begun : entry ∈ x.build.scheduled
  needed : ∀ id ∈ x.build.scheduled, Build.Needed config load entry id
  results : ∀ message ∈ x.channel ++ x.received,
    message.2.toOption = Build.compiledAt config load entry message.1.path
  modules : x.build.modules = x.received.filterMap fun message =>
    message.2.toOption
  errors : x.build.errors = [] ↔ ∀ message ∈ x.received,
    message.2.toOption ≠ none
  covered : ∀ module ∈ x.build.modules, ∀ clause ∈ module.imports,
    clause.target ∈ x.build.scheduled

variable {config : Config} {load : Loader} {entry : String} {x y : Exchange}

theorem sound_start : (start entry).Sound config load entry where
  awaited := rfl
  once := List.nodup_singleton entry
  spawned := List.Perm.refl _
  isEntry task htask := by
    rw [List.mem_singleton.mp htask]
    exact (decide_eq_true rfl).symm
  begun := List.mem_singleton.mpr rfl
  needed id hid := by
    rw [List.mem_singleton.mp hid]
    exact .entry
  results _ h := absurd h List.not_mem_nil
  modules := rfl
  errors := ⟨fun _ _ h => absurd h List.not_mem_nil, fun _ => rfl⟩
  covered _ h := absurd h List.not_mem_nil

theorem tasks_send {place : Nat} {task : Task}
    (hruns : x.build.inFlight[place]? = some task)
    (result : Except Error Module) :
    (x.send place task result).tasks.Perm x.tasks := by
  obtain ⟨hplace, htask⟩ := List.getElem?_eq_some_iff.mp hruns
  have hsplit : (task :: x.build.inFlight.eraseIdx place).Perm
      x.build.inFlight := by
    rw [← htask]
    exact List.getElem_cons_eraseIdx_perm hplace
  have hmessages :
      ((x.channel ++ [(task, result)] ++ x.received).map Prod.fst).Perm
      (task :: (x.channel ++ x.received).map Prod.fst) := by
    rw [List.append_assoc]
    exact List.perm_middle.map Prod.fst
  exact (hmessages.append_left _).trans
    (List.perm_middle.trans (hsplit.append_right _))

theorem Sound.scheduled_of_mem (h : x.Sound config load entry)
    {message : Task × Except Error Module}
    (hmessage : message ∈ x.channel ++ x.received) :
    message.1.path ∈ x.build.scheduled := by
  have htask : message.1 ∈ x.tasks :=
    List.mem_append_right _ (List.mem_map_of_mem hmessage)
  exact h.spawned.mem_iff.mp (List.mem_map_of_mem htask)

/-- What was sent or received belongs to a task whose module is needed. -/
theorem Sound.needed_of_mem (h : x.Sound config load entry)
    {message : Task × Except Error Module}
    (hmessage : message ∈ x.channel ++ x.received) :
    Build.Needed config load entry message.1.path :=
  h.needed _ (h.scheduled_of_mem hmessage)

theorem Sound.send (h : x.Sound config load entry) {place : Nat} {task : Task}
    (hruns : x.build.inFlight[place]? = some task) (bytesBefore : Nat) :
    (x.send place task (task.compile config bytesBefore (load task.path))).Sound
      config load entry := by
  have htasks :=
    tasks_send hruns (task.compile config bytesBefore (load task.path))
  obtain ⟨hplace, -⟩ := List.getElem?_eq_some_iff.mp hruns
  have hmem : task ∈ x.tasks :=
    List.mem_append_left _ (List.mem_of_getElem? hruns)
  refine { h with
    awaited := ?awaited
    spawned := (htasks.map Task.path).trans h.spawned
    isEntry := fun other hother => h.isEntry other (htasks.mem_iff.mp hother)
    results := ?results }
  case awaited =>
    have hawaited := h.awaited
    rw [toCome] at hawaited
    rw [toCome, Exchange.send]
    dsimp only
    rw [List.length_eraseIdx_of_lt hplace, List.length_append,
      List.length_singleton]
    omega
  case results =>
    intro message hmessage
    rw [Exchange.send, List.append_assoc] at hmessage
    rcases List.mem_append.mp hmessage with hold | hnew
    · exact h.results message (List.mem_append_left _ hold)
    · rcases List.mem_cons.mp hnew with rfl | hold
      · exact Build.toOption_compile config load (h.isEntry task hmem)
          bytesBefore
      · exact h.results message (List.mem_append_right _ hold)

section

variable {task : Task} {rest : List (Task × Except Error Module)}

theorem tasks_receive_error {error : Error}
    (hnext : x.channel = (task, .error error) :: rest) :
    (x.receive (task, .error error) rest).tasks.Perm x.tasks := by
  rw [tasks, tasks, hnext]
  exact (List.perm_middle.map Prod.fst).append_left _

theorem Sound.receive_error (h : x.Sound config load entry) {error : Error}
    (hnext : x.channel = (task, .error error) :: rest) :
    (x.receive (task, .error error) rest).Sound config load entry := by
  have htasks := tasks_receive_error hnext
  refine { h with
    awaited := ?awaited
    spawned := (htasks.map Task.path).trans h.spawned
    isEntry := fun other hother => h.isEntry other (htasks.mem_iff.mp hother)
    results := ?results
    errors := ?errors }
  case awaited =>
    have hawaited := h.awaited
    rw [toCome, hnext, List.length_cons] at hawaited
    rw [toCome, receive, Build.accept]
    dsimp only
    omega
  case results =>
    intro message hmessage
    refine h.results message ?_
    rw [hnext]
    exact List.perm_middle.mem_iff.mp hmessage
  case errors =>
    refine ⟨fun hnone => absurd hnone (List.cons_ne_nil _ _), fun hall => ?_⟩
    exact absurd rfl (hall _ List.mem_cons_self)

variable {module : Module} {next : Build} {added : List Task}

theorem tasks_receive_ok (hnext : x.channel = (task, .ok module) :: rest)
    (hadds : Build.Adds module module.imports x.build next added)
    (hbuild : x.build.accept (.ok module) =
      { next with modules := module :: x.build.modules }) :
    (x.receive (task, .ok module) rest).tasks.Perm (added ++ x.tasks) := by
  rw [tasks, tasks, receive, hbuild]
  dsimp only
  rw [hadds.inFlight, hnext, ← List.append_assoc]
  exact List.perm_append_comm.append (List.perm_middle.map Prod.fst)

/-- A result that is a module schedules the ids that its text speaks of and that
were not scheduled before. -/
theorem Sound.receive_ok (h : x.Sound config load entry)
    (hnext : x.channel = (task, .ok module) :: rest) :
    (x.receive (task, .ok module) rest).Sound config load entry := by
  obtain ⟨next, added, hadds, haccept⟩ := Build.accept_ok x.build module
  have hmem : (task, .ok module) ∈ x.channel ++ x.received := by
    rw [hnext]
    exact List.mem_cons_self
  have hcompiled : Build.compiledAt config load entry task.path = some module :=
    (h.results _ hmem).symm
  have htasks := tasks_receive_ok hnext hadds haccept
  have hbuild : (x.receive (task, .ok module) rest).build =
      { next with modules := module :: x.build.modules } := haccept
  have hscheduled :
      (x.receive (task, .ok module) rest).build.scheduled = next.scheduled := by
    rw [hbuild]
  refine
    { awaited := ?awaited
      once := hscheduled ▸ hadds.fresh h.once
      spawned := ?spawned
      isEntry := ?isEntry
      begun := hscheduled ▸ hadds.subset h.begun
      needed := ?needed
      results := ?results
      modules := ?modules
      errors := ?errors
      covered := ?covered }
  case awaited =>
    have hawaited := h.awaited
    rw [toCome, hnext, List.length_cons] at hawaited
    rw [toCome, hbuild, hadds.inFlight, receive, haccept]
    dsimp only
    rw [hadds.scheduled, List.length_append, List.length_append,
      List.length_reverse, List.length_map]
    omega
  case spawned =>
    rw [hscheduled, hadds.scheduled]
    refine (htasks.map Task.path).trans ?_
    rw [List.map_append]
    exact (List.reverse_perm _).symm.append h.spawned
  case isEntry =>
    intro other hother
    rcases List.mem_append.mp (htasks.mem_iff.mp hother) with hadded | hold
    · -- The entry has been scheduled from the start, so no task is added for
      -- it.
      have hne : other.path ≠ entry := by
        rintro hpath
        exact hadds.path_notMem h.once hadded (hpath ▸ h.begun)
      obtain ⟨clause, -, rfl⟩ := hadds.named other hadded
      exact (decide_eq_false hne).symm
    · exact h.isEntry other hold
  case needed =>
    intro id hid
    rw [hscheduled, hadds.scheduled] at hid
    rcases List.mem_append.mp hid with hnew | hold
    · obtain ⟨other, hother, rfl⟩ := List.mem_map.mp (List.mem_reverse.mp hnew)
      obtain ⟨clause, hclause, rfl⟩ := hadds.named other hother
      refine .target (h.needed_of_mem hmem) hcompiled ?_
      exact (Build.dissected_of_compiledAt hcompiled).mem_targets.mpr
        ⟨clause, hclause, rfl⟩
    · exact h.needed id hold
  case results =>
    intro message hmessage
    refine h.results message ?_
    rw [hnext]
    exact List.perm_middle.mem_iff.mp hmessage
  case modules =>
    rw [hbuild]
    dsimp only
    rw [h.modules]
    rfl
  case errors =>
    rw [hbuild]
    dsimp only
    rw [hadds.errors, h.errors]
    refine ⟨fun hall message hmessage => ?_, fun hall message hmessage =>
      hall message (List.mem_cons_of_mem _ hmessage)⟩
    rcases List.mem_cons.mp hmessage with rfl | hold
    · exact Option.some_ne_none module
    · exact hall message hold
  case covered =>
    intro other hother clause hclause
    rw [hscheduled]
    rw [hbuild] at hother
    rcases List.mem_cons.mp hother with rfl | hold
    · exact hadds.covered clause hclause
    · exact hadds.subset (h.covered other hold clause hclause)

end

theorem Sound.step (h : x.Sound config load entry)
    (hstep : Step config load x y) :
    y.Sound config load entry := by
  cases hstep with
  | send bytesBefore runs => exact h.send runs bytesBefore
  | @receive message rest waits next =>
      obtain ⟨task, result⟩ := message
      cases result with
      | error error => exact h.receive_error next
      | ok module => exact h.receive_ok next

theorem Reached.sound (h : Reached config load entry x) :
    x.Sound config load entry := by
  induction h with
  | refl => exact sound_start
  | tail _ hstep ih => exact ih.step hstep

/-! ## A loop that waits for nothing -/

/-- Something may happen next exactly as long as the loop waits for a result. -/
theorem Sound.exists_step (h : x.Sound config load entry) :
    (∃ y, Step config load x y) ↔ x.awaited ≠ 0 := by
  have hawaited := h.awaited
  rw [toCome] at hawaited
  constructor
  · rintro ⟨y, hstep⟩
    cases hstep with
    | send bytesBefore runs =>
        have hplace := (List.getElem?_eq_some_iff.mp runs).1
        omega
    | receive waits next => exact waits
  · intro hwaits
    cases hrunning : x.build.inFlight with
    | cons task others =>
        have hruns : x.build.inFlight[0]? = some task := by rw [hrunning]; rfl
        exact ⟨_, .send 0 hruns⟩
    | nil =>
        cases hchannel : x.channel with
        | cons message rest => exact ⟨_, .receive hwaits hchannel⟩
        | nil =>
            rw [hrunning, hchannel] at hawaited
            exact absurd hawaited hwaits

/-- How many steps led to a state: one for every result that was sent, one for
every one received. -/
def age (x : Exchange) : Nat := x.channel.length + 2 * x.received.length

theorem age_step (hstep : Step config load x y) : y.age = x.age + 1 := by
  cases hstep with
  | send bytesBefore runs =>
      rw [age, age, send]
      dsimp only
      rw [List.length_append, List.length_singleton]
      omega
  | receive waits next =>
      rw [age, age, receive, next]
      dsimp only
      rw [List.length_cons, List.length_cons]
      omega

theorem Sound.age_le (h : x.Sound config load entry) :
    x.age ≤ 2 * x.build.scheduled.length := by
  have hlength := h.spawned.length_eq
  rw [List.length_map, tasks, List.length_append, List.length_map,
    List.length_append] at hlength
  rw [age]
  omega

theorem Sound.length_scheduled_le {sources : Sources}
    (h : x.Sound config sources.load entry)
    (hextension : Path.IsExtension config.extension.toList)
    (hentry : Path.normalize entry = entry) :
    x.build.scheduled.length ≤
      (entry :: sources.files.keys.flatMap fun id =>
        (Build.compiledAt config sources.load entry id).elim []
          Module.targets).length := by
  refine h.once.length_le_of_subset fun id hid => ?_
  cases h.needed id hid with
  | entry => exact List.mem_cons_self
  | @target importer _ module needed compiled targets =>
      refine List.mem_cons_of_mem _ (List.mem_flatMap.mpr ⟨importer, ?_, ?_⟩)
      · cases hfind : sources.files.find? (Path.normalize importer) with
        | none =>
            rw [Build.compiledAt, Sources.load, hfind] at compiled
            cases compiled
        | some content =>
            rw [needed.clean hextension hentry] at hfind
            exact Table.mem_keys_of_find? hfind
      · rw [compiled]
        exact targets

/-- A loop that waits for nothing has received the result of every task. -/
theorem Sound.tasks_of_over (h : x.Sound config load entry)
    (hover : x.awaited = 0) :
    x.tasks = x.received.map Prod.fst := by
  have hawaited := h.awaited
  rw [hover, toCome] at hawaited
  have hrunning : x.build.inFlight = [] :=
    List.eq_nil_of_length_eq_zero (by omega)
  have hchannel : x.channel = [] := List.eq_nil_of_length_eq_zero (by omega)
  rw [tasks, hrunning, hchannel]
  rfl

theorem Sound.mem_scheduled_iff (h : x.Sound config load entry)
    (hover : x.awaited = 0) {id : String} :
    id ∈ x.build.scheduled ↔ ∃ message ∈ x.received, message.1.path = id := by
  rw [← h.spawned.mem_iff, h.tasks_of_over hover, List.map_map, List.mem_map]
  rfl

/-- A received result is a module exactly if the file of the task makes one. -/
theorem Sound.mem_modules_iff (h : x.Sound config load entry)
    {module : Module} :
    module ∈ x.build.modules ↔
      ∃ message ∈ x.received,
        Build.compiledAt config load entry message.1.path = some module := by
  rw [h.modules, List.mem_filterMap]
  constructor
  · rintro ⟨message, hmessage, hmodule⟩
    exact ⟨message, hmessage,
      (h.results message (List.mem_append_right _ hmessage)).symm.trans hmodule⟩
  · rintro ⟨message, hmessage, hmodule⟩
    exact ⟨message, hmessage,
      (h.results message (List.mem_append_right _ hmessage)).trans hmodule⟩

/-- A loop has met an error exactly if it has received a task whose file makes
no module. -/
theorem Sound.errors_iff (h : x.Sound config load entry) : x.build.errors = [] ↔
    ∀ message ∈ x.received,
      Build.compiledAt config load entry message.1.path ≠ none := by
  rw [h.errors]
  refine forall₂_congr fun message hmessage => ?_
  rw [h.results message (List.mem_append_right _ hmessage)]

/-- What has been scheduled in the end is what is needed. -/
theorem Sound.scheduled_iff (h : x.Sound config load entry)
    (hover : x.awaited = 0) {id : String} :
    id ∈ x.build.scheduled ↔ Build.Needed config load entry id := by
  refine ⟨h.needed id, fun hneeded => ?_⟩
  induction hneeded with
  | entry => exact h.begun
  | @target importer target module _ compiled targets ih =>
      obtain ⟨message, hmessage, rfl⟩ := (h.mem_scheduled_iff hover).mp ih
      have hmodule : module ∈ x.build.modules :=
        h.mem_modules_iff.mpr ⟨message, hmessage, compiled⟩
      obtain ⟨clause, hclause, rfl⟩ :=
        (Build.dissected_of_compiledAt compiled).mem_targets.mp targets
      exact h.covered module hmodule clause hclause

theorem map_filterMap_sublist {α β γ : Type} {f : α → Option β} {g : β → γ}
    {k : α → γ} {items : List α}
    (h : ∀ item ∈ items, ∀ value, f item = some value → g value = k item) :
    ((items.filterMap f).map g).Sublist (items.map k) := by
  induction items with
  | nil => exact .slnil
  | cons item items ih =>
      have hrest :=
        ih fun other hother => h other (List.mem_cons_of_mem _ hother)
      cases hitem : f item with
      | none =>
          rw [List.filterMap_cons_none hitem]
          exact hrest.cons _
      | some value =>
          rw [List.filterMap_cons_some hitem, List.map_cons,
            h item List.mem_cons_self value hitem]
          exact hrest.cons_cons _

/-- No two results that were received are about one path. -/
theorem Sound.nodup_paths (h : x.Sound config load entry) :
    (x.received.map fun message => message.1.path).Nodup := by
  have hnodup := h.spawned.nodup_iff.mpr h.once
  rw [tasks, List.map_append, List.map_append, List.map_append, List.map_map,
    List.map_map] at hnodup
  exact (List.nodup_append.mp (List.nodup_append.mp hnodup).2.1).2.1

/-- Modules whose paths are clean have them for their ids, and no path has two
tasks. -/
theorem Sound.nodup_ids_of_clean (h : x.Sound config load entry)
    (hclean : ∀ message ∈ x.received,
      Path.normalize message.1.path = message.1.path) :
    (x.build.modules.map Module.id).Nodup := by
  refine List.Nodup.sublist ?_ h.nodup_paths
  rw [h.modules]
  refine map_filterMap_sublist fun message hmessage module hmodule => ?_
  rw [h.results message (List.mem_append_right _ hmessage)] at hmodule
  rw [(Build.dissected_of_compiledAt hmodule).id, hclean message hmessage]

section

variable (hextension : Path.IsExtension config.extension.toList)
  (hentry : Path.normalize entry = entry)

include hextension hentry

theorem Sound.id_of_message (h : x.Sound config load entry)
    {message : Task × Except Error Module} (hmessage : message ∈ x.received)
    {module : Module}
    (hmodule : Build.compiledAt config load entry message.1.path =
      some module) :
    module.id = message.1.path := by
  exact (h.needed_of_mem (List.mem_append_right _ hmessage)).id hextension
    hentry hmodule

/-- No two modules that were received have one id. -/
theorem Sound.nodup_ids (h : x.Sound config load entry) :
    (x.build.modules.map Module.id).Nodup :=
  h.nodup_ids_of_clean fun _ hmessage =>
    (h.needed_of_mem (List.mem_append_right _ hmessage)).clean hextension hentry

/-- The modules in the end are those that the needed files make. -/
theorem Sound.modules_iff (h : x.Sound config load entry)
    (hover : x.awaited = 0) {module : Module} :
    module ∈ x.build.modules ↔ Build.Needed config load entry module.id ∧
      Build.compiledAt config load entry module.id = some module := by
  rw [h.mem_modules_iff]
  constructor
  · rintro ⟨message, hmessage, hmodule⟩
    rw [h.id_of_message hextension hentry hmessage hmodule]
    refine ⟨(h.scheduled_iff hover).mp ?_, hmodule⟩
    exact (h.mem_scheduled_iff hover).mpr ⟨message, hmessage, rfl⟩
  · rintro ⟨hneeded, hmodule⟩
    obtain ⟨message, hmessage, hpath⟩ :=
      (h.mem_scheduled_iff hover).mp ((h.scheduled_iff hover).mpr hneeded)
    rw [← hpath] at hmodule
    exact ⟨message, hmessage, hmodule⟩

theorem Sound.ids_iff (h : x.Sound config load entry) (hover : x.awaited = 0)
    (herrors : x.build.errors = []) {id : String} :
    id ∈ x.build.modules.map Module.id ↔ Build.Needed config load entry id := by
  rw [List.mem_map]
  constructor
  · rintro ⟨module, hmodule, rfl⟩
    exact ((h.modules_iff hextension hentry hover).mp hmodule).1
  · intro hneeded
    obtain ⟨message, hmessage, rfl⟩ :=
      (h.mem_scheduled_iff hover).mp ((h.scheduled_iff hover).mpr hneeded)
    obtain ⟨module, hmodule⟩ :=
      Option.ne_none_iff_exists'.mp (h.errors_iff.mp herrors message hmessage)
    exact ⟨module, h.mem_modules_iff.mpr ⟨message, hmessage, hmodule⟩,
      h.id_of_message hextension hentry hmessage hmodule⟩

/-- The modules without an error make a graph. -/
theorem Sound.exists_graph (h : x.Sound config load entry)
    (hover : x.awaited = 0) (herrors : x.build.errors = []) :
    ∃ graph, x.build.finish = .ok graph ∧
      graph.modules.Perm x.build.modules := by
  have hclosed : ∀ module ∈ x.build.modules.reverse, ∀ clause ∈ module.imports,
      clause.target ∈ x.build.modules.reverse.map Module.id := by
    intro module hmodule clause hclause
    rw [List.map_reverse, List.mem_reverse,
      h.ids_iff hextension hentry hover herrors, ← h.scheduled_iff hover]
    exact h.covered module (List.mem_reverse.mp hmodule) clause hclause
  obtain ⟨graph, hgraph⟩ := Build.exists_graphOf hclosed
  refine ⟨graph, ?_, ?_⟩
  · rw [Build.finish, herrors, hgraph]
    rfl
  · exact (Build.perm_modules_graphOf hgraph).trans (List.reverse_perm _)

/-- Loops that wait for nothing agree on what they have, in whatever order
results came. -/
theorem Sound.finish_eq (hx : x.Sound config load entry)
    (hxover : x.awaited = 0) (hxerrors : x.build.errors = [])
    (hy : y.Sound config load entry) (hyover : y.awaited = 0) :
    y.build.errors = [] ∧ y.build.finish = x.build.finish := by
  have hyerrors : y.build.errors = [] := by
    -- What `y` has received is needed, so `x` has received it too.
    refine hy.errors_iff.mpr fun message hmessage => ?_
    have hscheduled :=
      (hy.mem_scheduled_iff hyover).mpr ⟨message, hmessage, rfl⟩
    obtain ⟨other, hother, hpath⟩ := (hx.mem_scheduled_iff hxover).mp
      ((hx.scheduled_iff hxover).mpr (hy.needed _ hscheduled))
    rw [← hpath]
    exact hx.errors_iff.mp hxerrors other hother
  have hnodup := hx.nodup_ids hextension hentry
  have hperm : x.build.modules.Perm y.build.modules := by
    refine (List.perm_ext_iff_of_nodup (.of_map _ hnodup)
      (.of_map _ (hy.nodup_ids hextension hentry))).mpr fun module => ?_
    rw [hx.modules_iff hextension hentry hxover,
      hy.modules_iff hextension hentry hyover]
  refine ⟨hyerrors, ?_⟩
  have hgraphs : Build.graphOf x.build.modules.reverse =
      Build.graphOf y.build.modules.reverse := by
    refine Build.graphOf_perm ?_ ?_
    · exact (List.reverse_perm _).trans (hperm.trans (List.reverse_perm _).symm)
    · rw [List.map_reverse]
      exact List.nodup_reverse.mpr hnodup
  rw [Build.finish, Build.finish, hxerrors, hyerrors, hgraphs]

end

/-! ## The loop of the compiler -/

/-- A state of the loop that takes each result as soon as it is sent. -/
structure Mirrors (config : Config) (load : Loader) (entry : String)
    (build : Build) (x : Exchange) :
    Prop where
  reached : Reached config load entry x
  channel : x.channel = []
  build : x.build = build.uncounted

/-- Whichever task is done next, its result may be received at once. -/
theorem Mirrors.settle {build : Build} (h : Mirrors config load entry build x)
    {place : Nat} {task : Task} (hplace : build.inFlight[place]? = some task) :
    ∃ y, Mirrors config load entry
      (build.settle config place task (load task.path)) y ∧
      x.age < y.age := by
  have hruns : x.build.inFlight[place]? = some task := by
    rw [h.build]
    exact hplace
  let result := task.compile config build.bytesRead (load task.path)
  have hsent : Step config load x (x.send place task result) :=
    .send build.bytesRead hruns
  have hnext : (x.send place task result).channel = [(task, result)] := by
    rw [send, h.channel]
    rfl
  have hwaits : (x.send place task result).awaited ≠ 0 := by
    have hreached : Reached config load entry (x.send place task result) :=
      h.reached.tail hsent
    rw [hreached.sound.awaited, toCome, hnext, List.length_singleton]
    omega
  have hreceived : Step config load (x.send place task result) _ :=
    .receive hwaits hnext
  have hbuild :
      { x.build with inFlight := x.build.inFlight.eraseIdx place }.accept
        result =
      (build.settle config place task (load task.path)).uncounted := by
    calc
      { x.build with inFlight := x.build.inFlight.eraseIdx place }.accept result
      _ = { build with
            inFlight := build.inFlight.eraseIdx place }.uncounted.accept
          result := by
        rw [h.build]
        rfl
      _ = (build.receive place result).uncounted :=
        Build.accept_uncounted _ result
      _ = (build.settle config place task (load task.path)).uncounted := rfl
  refine ⟨_, ⟨(h.reached.tail hsent).tail hreceived, rfl, hbuild⟩, ?_⟩
  rw [age_step hreceived, age_step hsent]
  omega

theorem Mirrors.step {build : Build} (h : Mirrors config load entry build x)
    (hrunning : build.inFlight ≠ []) :
    ∃ y, Mirrors config load entry (build.step config load) y ∧
      x.age < y.age := by
  obtain ⟨task, others, hsplit⟩ := List.exists_cons_of_ne_nil hrunning
  have hstep : build.step config load =
      build.settle config 0 task (load task.path) := by
    rw [Build.step, hsplit]
  rw [hstep]
  exact h.settle (by rw [hsplit]; rfl)

theorem Mirrors.run {build : Build} (h : Mirrors config load entry build x)
    (fuel : Nat) :
    ∃ y, Mirrors config load entry (build.run config load fuel) y ∧
      x.age ≤ y.age := by
  induction fuel generalizing build x with
  | zero => exact ⟨x, h, Nat.le_refl _⟩
  | succ fuel ih =>
      rw [Build.run]
      split
      · exact ⟨x, h, Nat.le_refl _⟩
      · next hrunning =>
          rw [List.isEmpty_iff] at hrunning
          obtain ⟨y, hy, hyounger⟩ := h.step hrunning
          obtain ⟨z, hz, hnoOlder⟩ := ih hy
          exact ⟨z, hz, by omega⟩

theorem mirrors_start (config : Config) (load : Loader) (entry : String)
    (bytesRead : Nat) :
    Mirrors config load entry (Build.start entry bytesRead) (start entry) :=
  ⟨.refl, rfl, rfl⟩

/-- The build of the compiler is one of the orders in which results may come. -/
theorem exists_mirrors_run (config : Config) (load : Loader) (entry : String)
    (bytesRead fuel : Nat) :
    ∃ x, Mirrors config load entry
      ((Build.start entry bytesRead).run config load fuel) x := by
  obtain ⟨x, hx, -⟩ := (mirrors_start config load entry bytesRead).run fuel
  exact ⟨x, hx⟩

/-- A build that is over waits for nothing, and has met what the loop that it
mirrors has met. -/
theorem Mirrors.over {build : Build} (h : Mirrors config load entry build x)
    (hover : build.inFlight = []) :
    x.awaited = 0 ∧ x.build.errors = build.errors ∧
    x.build.finish = build.finish := by
  refine ⟨?_, ?_, ?_⟩
  · rw [h.reached.sound.awaited, toCome, h.channel, h.build]
    exact congrArg (fun running : List Task => (running.length : Int)) hover
  · rw [h.build]
    rfl
  · rw [h.build]
    rfl

/-- A build of the compiler that is over has come to where every order of
results ends. -/
theorem exists_over_ofSources {sources : Sources} {bytesRead : Nat}
    (hover : (Build.ofSources config sources entry bytesRead).inFlight = []) :
    ∃ x, Reached config sources.load entry x ∧ x.awaited = 0 ∧
      x.build.errors = (Build.ofSources config sources entry bytesRead).errors ∧
      x.build.finish =
        (Build.ofSources config sources entry bytesRead).finish := by
  obtain ⟨x, hx⟩ :=
    exists_mirrors_run config sources.load entry bytesRead (sources.size + 2)
  exact ⟨x, hx.reached, hx.over hover⟩

/-! ## Builds in any order -/

/-- However the tasks of a build are done and their results received: the loop
waits for exactly the results that are to come, and can go on as long as it
waits for one; no id has two tasks; no build goes on forever. If one order ends
without an error, then every order does, and all make the one graph that has a
module for each id that the entry needs. -/
theorem builds_in_any_order {config : Config} {sources : Sources}
    {entry : String} (hextension : Path.IsExtension config.extension.toList)
    (hentry : Path.normalize entry = entry) :
    (∀ x, Reached config sources.load entry x →
      x.awaited = x.toCome ∧ (x.tasks.map Task.path).Nodup ∧
        ((∃ y, Step config sources.load x y) ↔ x.awaited ≠ 0)) ∧
    (∀ run : Nat → Exchange, run 0 = start entry →
      ∃ n, ¬ Step config sources.load (run n) (run (n + 1))) ∧
    ∀ x, Reached config sources.load entry x → x.awaited = 0 →
      x.build.errors = [] →
      ∃ graph, (graph.modules.map Module.id).Nodup ∧
        (∀ id, id ∈ graph.modules.map Module.id ↔
          Build.Needed config sources.load entry id) ∧
        (∀ module ∈ graph.modules,
          Build.compiledAt config sources.load entry module.id = some module) ∧
        ∀ y, Reached config sources.load entry y → y.awaited = 0 →
          y.build.errors = [] ∧ y.build.finish = .ok graph := by
  refine ⟨fun x hx => ?_, fun run hrun => ?_, fun x hx hover herrors => ?_⟩
  · have hsound := hx.sound
    exact ⟨hsound.awaited, hsound.spawned.nodup_iff.mpr hsound.once,
      hsound.exists_step⟩
  · -- Every step makes a run older, and its age is bounded by the ids that
    -- could be scheduled.
    by_contra hforever
    have hsteps : ∀ n,
        Reached config sources.load entry (run n) ∧ (run n).age = n := by
      intro n
      induction n with
      | zero =>
          rw [hrun]
          exact ⟨.refl, rfl⟩
      | succ n ih =>
          have hstep := not_not.mp (not_exists.mp hforever n)
          exact ⟨ih.1.tail hstep, by rw [age_step hstep, ih.2]⟩
    obtain ⟨hreached, hage⟩ :=
      hsteps (2 * (entry :: sources.files.keys.flatMap fun id =>
        (Build.compiledAt config sources.load entry id).elim []
          Module.targets).length + 1)
    have hbound := hreached.sound.age_le
    have hscheduled := hreached.sound.length_scheduled_le hextension hentry
    omega
  · have hsound := hx.sound
    obtain ⟨graph, hgraph, hperm⟩ :=
      hsound.exists_graph hextension hentry hover herrors
    refine ⟨graph, ?_, fun id => ?_, fun module hmodule => ?_,
      fun y hy hyover => ?_⟩
    · exact (hperm.map Module.id).nodup_iff.mpr
        (hsound.nodup_ids hextension hentry)
    · rw [(hperm.map Module.id).mem_iff]
      exact hsound.ids_iff hextension hentry hover herrors
    · exact ((hsound.modules_iff hextension hentry hover).mp
        (hperm.mem_iff.mp hmodule)).2
    · rw [← hgraph]
      exact hsound.finish_eq hextension hentry hover herrors hy.sound hyover

/-- Two files that pass a name on to each other. -/
def circleSources : Sources :=
  .ofList [("/a.ts", "export{f}from'./b'"), ("/b.ts", "export{f}from'./a'")]

theorem over_circle :
    let build := Build.ofSources .default circleSources "/a.ts" 0
    build.inFlight.isEmpty && build.errors.isEmpty := by
  decide +kernel

theorem builds_in_any_order_circle :
    ∃ x, Reached .default circleSources.load "/a.ts" x ∧ x.awaited = 0 ∧
      ∃ graph, (graph.modules.map Module.id).Nodup ∧
        (∀ id, id ∈ graph.modules.map Module.id ↔
          Build.Needed .default circleSources.load "/a.ts" id) ∧
        (∀ module ∈ graph.modules,
          Build.compiledAt .default circleSources.load "/a.ts" module.id =
            some module) ∧
        ∀ y, Reached .default circleSources.load "/a.ts" y → y.awaited = 0 →
          y.build.errors = [] ∧ y.build.finish = .ok graph := by
  have hover := over_circle
  rw [Bool.and_eq_true, List.isEmpty_iff, List.isEmpty_iff] at hover
  obtain ⟨x, hreached, hawaited, herrors, -⟩ := exists_over_ofSources hover.1
  rw [hover.2] at herrors
  have hextension : Path.IsExtension Config.default.extension.toList :=
    ⟨by decide, by decide, by decide⟩
  have hentry : Path.normalize "/a.ts" = "/a.ts" := by decide +kernel
  exact ⟨x, hreached, hawaited,
    (builds_in_any_order hextension hentry).2.2 x hreached hawaited herrors⟩

end Exchange

end Prune
