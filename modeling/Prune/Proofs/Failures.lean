import Mathlib.Data.List.Perm.Basic
import Prune.Proofs.Exchange
import Prune.Proofs.Recount

/-!
# Failures in any order

A build that fails tells the errors of the tasks that failed, sorted by their
texts. Which files fail does not depend on the order in which results come: they
are the needed files that make no module. What is told about a file does. A task
carries the clause that scheduled it, the first one to be received of all
clauses that name its file, and a file that cannot be loaded is told by that
clause; and a token that cannot be read may be shown by the bytes that were
counted before its file. `Error.Akin` relates two errors that differ in these
two things and in nothing else.

`Build.MayStart` lists the tasks that some order starts, without speaking of
orders, and `Build.MayFail` the errors that these tasks may end in. Every error
that a loop meets is one of them (`Accounted`), and any two of them about one
file are akin (`MayFail.akin`). So the errors of two orders can be paired off,
file by file (`exists_paired`). They are the same errors if no file may fail in
two ways. Otherwise they need not be, as `lostSources` shows.
-/

namespace Prune

/-! ## Errors about one file -/

/-- Errors that differ in who asked for a file, or in the bytes that were
counted before it, and in nothing else. -/
inductive Error.Akin : Error → Error → Prop where
  | same (error : Error) : Akin error error
  | notFound (path specifier importer otherSpecifier otherImporter : String) :
      Akin (.moduleNotFound specifier importer path)
        (.moduleNotFound otherSpecifier otherImporter path)
  | notParsed (path : String) (text : List Char) (faults : List Script.Fault)
      (bytesBefore otherBytes : Nat) :
      Akin (.notParsed path (faultFrames path bytesBefore text faults))
        (.notParsed path (faultFrames path otherBytes text faults))
  | entryNotParsed (path : String) (text : List Char)
      (faults : List Script.Fault) (bytesBefore otherBytes : Nat) :
      Akin
        (.invalidEntry path
          (.notParsed (faultFrames path bytesBefore text faults)))
        (.invalidEntry path
          (.notParsed (faultFrames path otherBytes text faults)))

theorem Error.Recounted.akin {bytesBefore otherBytes : Nat}
    {error other : Error} (h : error.Recounted bytesBefore otherBytes other) :
    error.Akin other := by
  cases h with
  | same => exact .same error
  | notParsed => exact .notParsed _ _ _ _ _
  | entryNotParsed => exact .entryNotParsed _ _ _ _ _

theorem Module.akin_ofText {config : Config} {path content : String}
    {isEntry : Bool} {bytesBefore otherBytes : Nat} {error other : Error}
    (herror : Module.ofText config path content isEntry bytesBefore =
      .error error)
    (hother : Module.ofText config path content isEntry otherBytes =
      .error other) :
    error.Akin other := by
  have hagree :=
    Module.agree_ofText config path content isEntry bytesBefore otherBytes
  rw [herror, hother] at hagree
  cases hagree with
  | error related => exact related.akin

namespace Build

variable {config : Config} {load : Loader} {entry : String}

/-- The tasks that a build of an entry may start: that of the entry, and one for
every clause of a needed module that names another. -/
inductive MayStart (config : Config) (load : Loader) (entry : String) :
    Task → Prop where
  | entry : MayStart config load entry (.entry entry)
  | imported {id : String} {module : Module} {clause : Import}
      (needed : Needed config load entry id)
      (compiled : compiledAt config load entry id = some module)
      (names : clause ∈ module.imports)
      (elsewhere : clause.target ≠ entry) :
      MayStart config load entry (.imported module clause)

/-- An error that the file of an id may end in, in some build of the entry. -/
def MayFail (config : Config) (load : Loader) (entry id : String)
    (error : Error) : Prop :=
  ∃ task bytesBefore, MayStart config load entry task ∧ task.path = id ∧
    task.compile config bytesBefore (load id) = .error error

/-- The errors that a file may end in are akin. -/
theorem MayFail.akin {id : String} {error other : Error}
    (herror : MayFail config load entry id error)
    (hother : MayFail config load entry id other) : error.Akin other := by
  obtain ⟨task, bytesBefore, hstart, hpath, herror⟩ := herror
  obtain ⟨otherTask, otherBytes, hotherStart, hotherPath, hother⟩ := hother
  cases hstart with
  | entry =>
      -- No clause starts a task for the entry, so both tasks are that of the
      -- entry.
      cases hotherStart with
      | imported _ _ _ elsewhere =>
          exact absurd (hotherPath.trans hpath.symm) elsewhere
      | entry =>
          cases hload : load id with
          | error loadError =>
              rw [hload] at herror hother
              cases herror
              cases hother
              exact .same _
          | ok content =>
              rw [hload] at herror hother
              exact Module.akin_ofText herror hother
  | @imported _ module clause _ _ _ elsewhere =>
      cases hotherStart with
      | entry => exact absurd (hpath.trans hotherPath.symm) elsewhere
      | @imported _ otherModule otherClause =>
          have htarget : otherClause.target = clause.target :=
            hotherPath.trans hpath.symm
          cases hload : load id with
          | error loadError =>
              rw [hload] at herror hother
              cases herror
              cases hother
              rw [Task.loadFailure, Task.loadFailure]
              dsimp only [Task.imported]
              rw [htarget]
              exact .notFound _ _ _ _ _
          | ok content =>
              rw [hload] at herror hother
              dsimp only [Task.imported, Task.compile] at herror hother
              rw [htarget] at hother
              exact Module.akin_ofText herror hother

theorem perm_sortedErrors (errors : List Error) :
    (sortedErrors errors).Perm errors :=
  List.mergeSort_perm _ _

/-- Sorting forgets in which order the errors came, up to errors of one text. -/
theorem messages_sortedErrors {errors others : List Error}
    (h : errors.Perm others) :
    (sortedErrors errors).map Error.message =
      (sortedErrors others).map Error.message := by
  have hsorted : ∀ list : List Error,
      ((sortedErrors list).map Error.message).Pairwise (· ≤ ·) := fun list =>
    List.pairwise_map.mpr (pairwise_mergeSort_key Error.message list)
  refine List.Perm.eq_of_pairwise
    (fun _ _ _ _ hab hba => String.le_antisymm hab hba)
    (hsorted errors) (hsorted others) ?_
  exact ((perm_sortedErrors errors).trans
    (h.trans (perm_sortedErrors others).symm)).map _

/-- Takes the results of the tasks that stand at given places among those in
flight, one after another. -/
def takeInTurn (config : Config) (load : Loader) : List Nat → Build → Build
  | [], build => build
  | place :: places, build =>
      match build.inFlight[place]? with
      | none => takeInTurn config load places build
      | some task =>
          takeInTurn config load places
            (build.settle config place task (load task.path))

end Build

/-! ## The errors that a loop meets -/

/-- The error that a task ended in, if it did. -/
def errorOf? : Except Error Module → Option Error
  | .error error => some error
  | .ok _ => none

theorem errorOf?_eq_some {result : Except Error Module} {error : Error}
    (h : errorOf? result = some error) : result = .error error := by
  cases result with
  | error found => cases h; rfl
  | ok module => cases h

theorem isSome_errorOf? {result : Except Error Module} :
    (errorOf? result).isSome ↔ result.toOption = none := by
  cases result with
  | error error => exact ⟨fun _ => rfl, fun _ => rfl⟩
  | ok module =>
      exact ⟨fun h => absurd h Bool.false_ne_true,
        fun h => absurd h (Option.some_ne_none _)⟩

namespace Exchange

variable {config : Config} {load : Loader} {entry : String} {x y : Exchange}

/-- The errors that were received, each with the path that it is about. -/
def failures (x : Exchange) : List (String × Error) :=
  x.received.filterMap fun message =>
    (errorOf? message.2).map fun error => (message.1.path, error)

/-- Every task was started by the entry or by a clause, every result is what its
task ends in after some number of bytes, and the errors on record are those that
were received. -/
structure Accounted (config : Config) (load : Loader) (entry : String)
    (x : Exchange) : Prop where
  started : ∀ task ∈ x.tasks, Build.MayStart config load entry task
  results : ∀ message ∈ x.channel ++ x.received, ∃ bytesBefore,
    message.2 = message.1.compile config bytesBefore (load message.1.path)
  errors : x.build.errors = x.received.filterMap fun message =>
    errorOf? message.2

theorem accounted_start : (start entry).Accounted config load entry where
  started task htask := by
    rw [List.mem_singleton.mp htask]
    exact .entry
  results _ h := absurd h List.not_mem_nil
  errors := rfl

theorem Accounted.send (h : x.Accounted config load entry) {place : Nat}
    {task : Task} (hruns : x.build.inFlight[place]? = some task)
    (bytesBefore : Nat) :
    (x.send place task
      (task.compile config bytesBefore (load task.path))).Accounted
      config load entry := by
  have htasks :=
    tasks_send hruns (task.compile config bytesBefore (load task.path))
  refine ⟨fun other hother => h.started other (htasks.mem_iff.mp hother),
    fun message hmessage => ?_, h.errors⟩
  rw [Exchange.send, List.append_assoc] at hmessage
  rcases List.mem_append.mp hmessage with hold | hnew
  · exact h.results message (List.mem_append_left _ hold)
  · rcases List.mem_cons.mp hnew with rfl | hold
    · exact ⟨bytesBefore, rfl⟩
    · exact h.results message (List.mem_append_right _ hold)

section

variable {task : Task} {rest : List (Task × Except Error Module)}

theorem Accounted.receive_error (h : x.Accounted config load entry)
    {error : Error} (hnext : x.channel = (task, .error error) :: rest) :
    (x.receive (task, .error error) rest).Accounted config load entry := by
  have htasks := tasks_receive_error hnext
  refine ⟨fun other hother => h.started other (htasks.mem_iff.mp hother),
    fun message hmessage => ?_, ?_⟩
  · refine h.results message ?_
    rw [hnext]
    exact List.perm_middle.mem_iff.mp hmessage
  · exact congrArg (error :: ·) h.errors

/-- The tasks that a module schedules are started by its clauses. None of them
is for the entry, which has been scheduled from the start. -/
theorem Accounted.receive_ok (h : x.Accounted config load entry)
    (hsound : x.Sound config load entry) {module : Module}
    (hnext : x.channel = (task, .ok module) :: rest) :
    (x.receive (task, .ok module) rest).Accounted config load entry := by
  obtain ⟨next, added, hadds, haccept⟩ := Build.accept_ok x.build module
  have hmem : (task, .ok module) ∈ x.channel ++ x.received := by
    rw [hnext]
    exact List.mem_cons_self
  have hcompiled : Build.compiledAt config load entry task.path = some module :=
    (hsound.results _ hmem).symm
  have htasks := tasks_receive_ok hnext hadds haccept
  refine ⟨fun other hother => ?_, fun message hmessage => ?_, ?_⟩
  · rcases List.mem_append.mp (htasks.mem_iff.mp hother) with hadded | hold
    · have hnew := hadds.path_notMem hsound.once hadded
      obtain ⟨clause, hclause, rfl⟩ := hadds.named other hadded
      refine .imported (hsound.needed_of_mem hmem) hcompiled hclause ?_
      rintro heq
      have hbegun : clause.target ∈ x.build.scheduled := heq ▸ hsound.begun
      exact hnew hbegun
    · exact h.started other hold
  · refine h.results message ?_
    rw [hnext]
    exact List.perm_middle.mem_iff.mp hmessage
  · have hbuild : (x.receive (task, .ok module) rest).build =
        { next with modules := module :: x.build.modules } := haccept
    rw [hbuild]
    dsimp only
    rw [hadds.errors, h.errors]
    rfl

end

theorem Accounted.step (h : x.Accounted config load entry)
    (hsound : x.Sound config load entry) (hstep : Step config load x y) :
    y.Accounted config load entry := by
  cases hstep with
  | send bytesBefore runs => exact h.send runs bytesBefore
  | @receive message rest waits next =>
      obtain ⟨task, result⟩ := message
      cases result with
      | error error => exact h.receive_error next
      | ok module => exact h.receive_ok hsound next

theorem Reached.accounted (h : Reached config load entry x) :
    x.Accounted config load entry := by
  induction h with
  | refl => exact accounted_start
  | tail hreached hstep ih => exact ih.step (Reached.sound hreached) hstep

/-! ## The files that fail -/

theorem mem_failures {id : String} {error : Error} :
    (id, error) ∈ x.failures ↔
      ∃ message ∈ x.received,
        message.1.path = id ∧ message.2 = .error error := by
  rw [failures, List.mem_filterMap]
  refine exists_congr fun message => and_congr_right fun _ => ?_
  rw [Option.map_eq_some_iff]
  constructor
  · rintro ⟨found, hfound, heq⟩
    cases heq
    exact ⟨rfl, errorOf?_eq_some hfound⟩
  · rintro ⟨rfl, hresult⟩
    exact ⟨error, by rw [hresult]; rfl, rfl⟩

theorem Accounted.snd_failures (h : x.Accounted config load entry) :
    x.failures.map Prod.snd = x.build.errors := by
  rw [h.errors, failures, List.map_filterMap]
  refine List.filterMap_congr fun message _ => ?_
  rw [Option.map_map]
  exact Option.map_id'

theorem Accounted.mayFail (h : x.Accounted config load entry) {id : String}
    {error : Error} (hmem : (id, error) ∈ x.failures) :
    Build.MayFail config load entry id error := by
  obtain ⟨message, hmessage, rfl, hresult⟩ := mem_failures.mp hmem
  obtain ⟨bytesBefore, hcompiled⟩ :=
    h.results message (List.mem_append_right _ hmessage)
  have htask : message.1 ∈ x.tasks :=
    List.mem_append_right
      _ (List.mem_map_of_mem (List.mem_append_right _ hmessage))
  exact ⟨message.1, bytesBefore, h.started _ htask, rfl,
    hcompiled.symm.trans hresult⟩

theorem Sound.nodup_failures (h : x.Sound config load entry) :
    (x.failures.map Prod.fst).Nodup := by
  refine List.Nodup.sublist ?_ h.nodup_paths
  refine map_filterMap_sublist fun message _ failure hfailure => ?_
  obtain ⟨error, -, rfl⟩ := Option.map_eq_some_iff.mp hfailure
  rfl

/-- A file fails in the end exactly if it is needed and makes no module. -/
theorem Sound.mem_failures_iff (h : x.Sound config load entry)
    (hover : x.awaited = 0) {id : String} :
    id ∈ x.failures.map Prod.fst ↔
      Build.Needed config load entry id ∧
        Build.compiledAt config load entry id = none := by
  rw [← h.scheduled_iff hover, h.mem_scheduled_iff hover, List.mem_map]
  constructor
  · rintro ⟨⟨id, error⟩, hmem, rfl⟩
    obtain ⟨message, hmessage, rfl, hresult⟩ := mem_failures.mp hmem
    refine ⟨⟨message, hmessage, rfl⟩, ?_⟩
    rw [← h.results message (List.mem_append_right _ hmessage), hresult]
    rfl
  · rintro ⟨⟨message, hmessage, rfl⟩, hnone⟩
    rw [← h.results message (List.mem_append_right _ hmessage),
      ← isSome_errorOf?, Option.isSome_iff_exists] at hnone
    obtain ⟨error, herror⟩ := hnone
    exact ⟨_,
      mem_failures.mpr ⟨message, hmessage, rfl, errorOf?_eq_some herror⟩, rfl⟩

/-! ## Two orders -/

/-- Lists of pairs with the same keys can be paired off, key by key. -/
theorem exists_perm_forall₂ {α β : Type} {R : α × β → α × β → Prop}
    {xs ys : List (α × β)} (hkeys : (xs.map Prod.fst).Perm (ys.map Prod.fst))
    (h : ∀ a ∈ xs, ∀ b ∈ ys, a.1 = b.1 → R a b) :
    ∃ zs, zs.Perm ys ∧ List.Forall₂ R xs zs := by
  induction xs generalizing ys with
  | nil =>
      have hnil : ys = [] := List.map_eq_nil_iff.mp hkeys.nil_eq.symm
      exact ⟨[], hnil ▸ List.Perm.nil, .nil⟩
  | cons a xs ih =>
      have hmem : a.1 ∈ ys.map Prod.fst := hkeys.mem_iff.mp List.mem_cons_self
      obtain ⟨b, hb, hkey⟩ := List.mem_map.mp hmem
      obtain ⟨before, after, rfl⟩ := List.append_of_mem hb
      have hsplit : (before ++ b :: after).Perm (b :: (before ++ after)) :=
        List.perm_middle
      have hrest : (xs.map Prod.fst).Perm ((before ++ after).map Prod.fst) := by
        have hall := hkeys.trans (hsplit.map Prod.fst)
        rw [List.map_cons, List.map_cons, hkey] at hall
        exact hall.cons_inv
      obtain ⟨zs, hperm, hforall⟩ := ih hrest fun c hc d hd =>
        h c (List.mem_cons_of_mem _ hc) d
          (hsplit.mem_iff.mpr (List.mem_cons_of_mem _ hd))
      exact ⟨b :: zs, (hperm.cons b).trans hsplit.symm,
        .cons (h a List.mem_cons_self b hb hkey.symm) hforall⟩

/-- What holds of any two errors that a file may end in holds of the errors that
two orders tell, file by file. -/
theorem exists_paired {R : Error → Error → Prop}
    (hR : ∀ {id error other}, Build.MayFail config load entry id error →
      Build.MayFail config load entry id other → R error other)
    (hx : Reached config load entry x) (hxover : x.awaited = 0)
    (hy : Reached config load entry y) (hyover : y.awaited = 0) :
    ∃ errors, errors.Perm (Build.sortedErrors y.build.errors.reverse) ∧
      List.Forall₂ R (Build.sortedErrors x.build.errors.reverse) errors := by
  have hkeys : (x.failures.map Prod.fst).Perm (y.failures.map Prod.fst) := by
    refine (List.perm_ext_iff_of_nodup hx.sound.nodup_failures
      hy.sound.nodup_failures).mpr ?_
    intro id
    rw [hx.sound.mem_failures_iff hxover, hy.sound.mem_failures_iff hyover]
  have htold : ∀ errors : List Error,
      (Build.sortedErrors errors.reverse).Perm errors := fun errors =>
    (Build.perm_sortedErrors _).trans (List.reverse_perm _)
  obtain ⟨pairs, hperm, hpairs⟩ :=
    exists_perm_forall₂ (R := fun a b => R a.2 b.2) hkeys
      fun a ha b hb hkey =>
        hR (hx.accounted.mayFail ha) (hkey ▸ hy.accounted.mayFail hb)
  have hmet : List.Forall₂ R x.build.errors (pairs.map Prod.snd) := by
    rw [← hx.accounted.snd_failures, List.forall₂_map_left_iff,
      List.forall₂_map_right_iff]
    exact hpairs
  obtain ⟨errors, herrors, hsorted⟩ :=
    List.perm_comp_forall₂ (htold x.build.errors) hmet
  refine ⟨errors, hsorted.trans ((hperm.map Prod.snd).trans ?_), herrors⟩
  rw [hy.accounted.snd_failures]
  exact (htold y.build.errors).symm

/-- If one order ends with errors, then every order does. The errors that two
orders tell are about the same files, and akin, file by file. They are the same
errors, told by the same texts in the same order, if no file may fail in two
ways. -/
theorem failures_in_any_order (hx : Reached config load entry x)
    (hxover : x.awaited = 0) (hfails : x.build.errors ≠ [])
    (hy : Reached config load entry y) (hyover : y.awaited = 0) :
    ∃ xs ys, x.build.finish = .error (.failed xs) ∧
      y.build.finish = .error (.failed ys) ∧
      (∃ zs, zs.Perm ys ∧ List.Forall₂ Error.Akin xs zs) ∧
      ((∀ id error other, Build.MayFail config load entry id error →
          Build.MayFail config load entry id other → error = other) →
        xs.Perm ys ∧ xs.map Error.message = ys.map Error.message) := by
  obtain ⟨akin, hakinPerm, hakin⟩ :=
    exists_paired Build.MayFail.akin hx hxover hy hyover
  have hcount : x.build.errors.length = y.build.errors.length := by
    have htold := hakin.length_eq.trans hakinPerm.length_eq
    rwa [(Build.perm_sortedErrors _).length_eq,
      (Build.perm_sortedErrors _).length_eq, List.length_reverse,
      List.length_reverse] at htold
  have hyfails : y.build.errors ≠ [] := by
    rwa [ne_eq, ← List.length_eq_zero_iff, ← hcount, List.length_eq_zero_iff]
  refine ⟨_, _, ?_, ?_, ⟨akin, hakinPerm, hakin⟩, fun hunique => ?_⟩
  · rw [Build.finish, if_neg (by rwa [List.isEmpty_iff])]
  · rw [Build.finish, if_neg (by rwa [List.isEmpty_iff])]
  · obtain ⟨same, hperm, hsame⟩ := exists_paired (R := Eq)
      (fun herror hother => hunique _ _ _ herror hother) hx hxover hy hyover
    rw [List.forall₂_eq_eq_eq] at hsame
    have hall := hsame ▸ hperm
    refine ⟨hall, Build.messages_sortedErrors ?_⟩
    exact (Build.perm_sortedErrors _).symm.trans
      (hall.trans (Build.perm_sortedErrors _))

/-! ## An order of one's own -/

theorem Mirrors.takeInTurn {build : Build}
    (h : Mirrors config load entry build x) (places : List Nat) :
    ∃ y, Mirrors config load entry (build.takeInTurn config load places) y := by
  induction places generalizing build x with
  | nil => exact ⟨x, h⟩
  | cons place places ih =>
      rw [Build.takeInTurn]
      split
      · exact ih h
      · next hplace =>
          obtain ⟨y, hy, -⟩ := h.settle hplace
          exact ih hy

/-- An order that leaves nothing in flight is one in which results may come. -/
theorem exists_over_takeInTurn (config : Config) (load : Loader)
    (entry : String) (places : List Nat) {errors : List Error}
    (hover : ((Build.start entry 0).takeInTurn config load places).inFlight =
      [])
    (herrors : ((Build.start entry 0).takeInTurn config load places).errors =
      errors) :
    ∃ x, Reached config load entry x ∧ x.awaited = 0 ∧
      x.build.errors = errors := by
  obtain ⟨x, hx⟩ := (mirrors_start config load entry 0).takeInTurn places
  obtain ⟨hawaited, hmet, -⟩ := hx.over hover
  exact ⟨x, hx.reached, hawaited, hmet.trans herrors⟩

/-- A file that takes from two files, neither of which is there. -/
def absentSources : Sources :=
  .ofList [("/e.ts", "import{a}from'./a';import{b}from'./b'")]

theorem compiledAt_absent :
    (Build.compiledAt .default absentSources.load "/e.ts" "/e.ts").map
      Module.imports =
      some [⟨"./a", "/a.ts"⟩, ⟨"./b", "/b.ts"⟩] := by
  decide +kernel

/-- Only one task is started for each file that is not there. -/
theorem mayFail_absent {id : String} {error : Error}
    (h : Build.MayFail .default absentSources.load "/e.ts" id error) :
    id = "/a.ts" ∧ error = .moduleNotFound "./a" "/e.ts" "/a.ts" ∨
      id = "/b.ts" ∧ error = .moduleNotFound "./b" "/e.ts" "/b.ts" := by
  have hextension : Path.IsExtension Config.default.extension.toList :=
    ⟨by decide, by decide, by decide⟩
  have hentry : Path.normalize "/e.ts" = "/e.ts" := by decide +kernel
  obtain ⟨task, bytesBefore, hstart, rfl, herror⟩ := h
  cases hstart with
  | entry =>
      have hfirst : (Task.entry "/e.ts").isEntry =
          decide ((Task.entry "/e.ts").path = "/e.ts") := rfl
      have hnone :=
        Build.toOption_compile .default absentSources.load hfirst bytesBefore
      have hsome := compiledAt_absent
      rw [herror] at hnone
      rw [show Build.compiledAt .default absentSources.load "/e.ts"
        "/e.ts" = none from
        hnone.symm] at hsome
      cases hsome
  | @imported importer module clause needed compiled names elsewhere =>
      -- Only the entry makes a module, since there is no other file.
      have himporter : importer = "/e.ts" := by
        obtain ⟨content, hload, -⟩ := Build.ofText_of_compiledAt compiled
        rw [Sources.load, needed.clean hextension hentry] at hload
        cases hfind : absentSources.files.find? importer with
        | none => rw [hfind] at hload; cases hload
        | some found =>
            have hkey := Table.mem_keys_of_find? hfind
            rw [show absentSources.files.keys =
              ["/e.ts"] by decide +kernel] at hkey
            exact List.mem_singleton.mp hkey
      subst himporter
      have hid := needed.id hextension hentry compiled
      have himports := compiledAt_absent
      rw [compiled, Option.map_some, Option.some_inj] at himports
      rw [himports] at names
      dsimp only [Task.imported] at herror ⊢
      rw [hid] at herror
      simp only [List.mem_cons, List.not_mem_nil, or_false] at names
      rcases names with rfl | rfl
      · have hload : absentSources.load "/a.ts" =
            .error (.missing "/a.ts") := by decide +kernel
        rw [hload] at herror
        cases herror
        exact Or.inl ⟨rfl, rfl⟩
      · have hload : absentSources.load "/b.ts" =
            .error (.missing "/b.ts") := by decide +kernel
        rw [hload] at herror
        cases herror
        exact Or.inr ⟨rfl, rfl⟩

theorem takeInTurn_absent :
    let build (places : List Nat) :=
      (Build.start "/e.ts" 0).takeInTurn .default absentSources.load places
    ((build [0, 0, 0]).inFlight = [] ∧ (build [0, 0, 0]).errors =
        [.moduleNotFound "./b" "/e.ts" "/b.ts",
          .moduleNotFound "./a" "/e.ts" "/a.ts"]) ∧
      (build [0, 1, 0]).inFlight = [] ∧ (build [0, 1, 0]).errors =
        [.moduleNotFound "./a" "/e.ts" "/a.ts",
          .moduleNotFound "./b" "/e.ts" "/b.ts"] := by
  decide +kernel

/-- Two errors that come in either order are told in one. -/
theorem failures_in_any_order_absent :
    ∃ x y xs ys, Reached .default absentSources.load "/e.ts" x ∧
      Reached .default absentSources.load "/e.ts" y ∧
      x.build.errors ≠ y.build.errors ∧
      x.build.finish = .error (.failed xs) ∧
      y.build.finish = .error (.failed ys) ∧
      xs.map Error.message = ys.map Error.message := by
  obtain ⟨⟨hfirst, hfirstErrors⟩, hsecond, hsecondErrors⟩ := takeInTurn_absent
  obtain ⟨x, hx, hxover, hxerrors⟩ :=
    exists_over_takeInTurn _ _ _ _ hfirst hfirstErrors
  obtain ⟨y, hy, hyover, hyerrors⟩ :=
    exists_over_takeInTurn _ _ _ _ hsecond hsecondErrors
  have hfails : x.build.errors ≠ [] := by
    rw [hxerrors]
    exact List.cons_ne_nil _ _
  obtain ⟨xs, ys, hxs, hys, -, hsame⟩ :=
    failures_in_any_order hx hxover hfails hy hyover
  refine ⟨x, y, xs, ys, hx, hy, ?_, hxs, hys,
    (hsame fun id error other herror hother => ?_).2⟩
  · rw [hxerrors, hyerrors]
    decide
  · rcases mayFail_absent herror with ⟨rfl, rfl⟩ | ⟨rfl, rfl⟩
    · rcases mayFail_absent hother with ⟨-, rfl⟩ | ⟨hid, -⟩
      · rfl
      · exact absurd hid (by decide)
    · rcases mayFail_absent hother with ⟨hid, -⟩ | ⟨-, rfl⟩
      · exact absurd hid (by decide)
      · rfl

/-- A file that takes from two files, both of which name a third that is not
there, in two ways. -/
def lostSources : Sources :=
  .ofList [("/e.ts", "import{a}from'./a';import{b}from'./b'"),
    ("/a.ts", "import{g}from'./gone'"), ("/b.ts", "import{g}from'./gone.ts'")]

theorem takeInTurn_lost :
    let build (places : List Nat) :=
      (Build.start "/e.ts" 0).takeInTurn .default lostSources.load places
    ((build [0, 0, 0, 0]).inFlight = [] ∧
        (build [0, 0, 0, 0]).errors =
          [.moduleNotFound "./gone" "/a.ts" "/gone.ts"]) ∧
      (build [0, 1, 0, 0]).inFlight = [] ∧
        (build [0, 1, 0, 0]).errors =
          [.moduleNotFound "./gone.ts" "/b.ts" "/gone.ts"] := by
  decide +kernel

/-- What is told about a missing file depends on which of the modules that name
it was received first. -/
theorem errors_depend_on_order :
    ∃ x y, Reached .default lostSources.load "/e.ts" x ∧ x.awaited = 0 ∧
      Reached .default lostSources.load "/e.ts" y ∧ y.awaited = 0 ∧
      x.build.finish = .error
        (.failed [.moduleNotFound "./gone" "/a.ts" "/gone.ts"]) ∧
      y.build.finish =
        .error (.failed [.moduleNotFound "./gone.ts" "/b.ts" "/gone.ts"]) := by
  obtain ⟨⟨hfirst, hfirstErrors⟩, hsecond, hsecondErrors⟩ := takeInTurn_lost
  obtain ⟨x, hx, hxover, hxerrors⟩ :=
    exists_over_takeInTurn _ _ _ _ hfirst hfirstErrors
  obtain ⟨y, hy, hyover, hyerrors⟩ :=
    exists_over_takeInTurn _ _ _ _ hsecond hsecondErrors
  refine ⟨x, y, hx, hxover, hy, hyover, ?_, ?_⟩
  · rw [Build.finish, hxerrors, List.reverse_singleton, Build.sortedErrors,
      List.mergeSort_singleton]
    rfl
  · rw [Build.finish, hyerrors, List.reverse_singleton, Build.sortedErrors,
      List.mergeSort_singleton]
    rfl

end Exchange

end Prune
