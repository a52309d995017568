import Prune.Proofs.Collects

/-!
# What is bound around actions

A walk can start in any state: after some occurrences have been found, in a
target or outside of one, and below scopes that bind some names. Of what has
been found nothing is read again, so that all actions do to it is add to it, and
what they add can be spoken of by itself (`Collector.finds`).

The scopes matter only by the names that are bound in any of them. `actionsFree`
lists what actions find when some names are bound around them, without a
collector; it is the function behind the relation `Collects`. Binding more names
around actions takes the occurrences of these names out of it, and changes
neither the rest nor its order (`actionsFree_of_mem_iff`). The induction has to
be about all names that are bound at a time, since those that are bound on the
way filter in the same manner.
-/

namespace Prune.Scope

/-! ## What is added to the occurrences -/

theorem Collector.use_append_found (name : String) (collector : Collector)
    (earlier : List String) :
    Collector.use name { collector with found := collector.found ++ earlier } =
      { collector.use name with
        found := (collector.use name).found ++ earlier } := by
  rw [use, use]
  change (if collector.isBound name then _ else _) = _
  split <;> rfl

theorem Collector.bind_append_found (names : List String)
    (collector : Collector) (earlier : List String) :
    Collector.bind names
      { collector with found := collector.found ++ earlier } =
      { collector.bind names with
        found := (collector.bind names).found ++ earlier } := by
  obtain ⟨scopes, isAssigning, found⟩ := collector
  cases scopes <;> rfl

mutual

/-- Nothing is done with what has been found before. -/
theorem Action.run_append_found (action : Action) (collector : Collector)
    (earlier : List String) :
    action.run { collector with found := collector.found ++ earlier } =
      { action.run collector with
        found := (action.run collector).found ++ earlier } := by
  match action with
  | .use name => exact Collector.use_append_found name collector earlier
  | .binder name =>
      rw [Action.run, Action.run]
      dsimp only
      split
      · exact Collector.use_append_found name collector earlier
      · rfl
  | .bind names => exact Collector.bind_append_found names collector earlier
  | .scope body =>
      rw [Action.run, Action.run]
      exact congrArg (Collector.leave _)
        (runAll_append_found body collector.enter earlier)
  | .assigning isTarget body =>
      rw [Action.run, Action.run]
      dsimp only
      rw [runAll_append_found body
        { collector with isAssigning := isTarget } earlier]

theorem runAll_append_found (actions : List Action) (collector : Collector)
    (earlier : List String) :
    runAll actions { collector with found := collector.found ++ earlier } =
      { runAll actions collector with
        found := (runAll actions collector).found ++ earlier } := by
  match actions with
  | [] => rfl
  | action :: rest =>
      rw [runAll, runAll, action.run_append_found, runAll_append_found rest]

end

namespace Collector

/-- The occurrences that actions find from a state of the walk on, in their
order. -/
def finds (collector : Collector) (actions : List Action) : List String :=
  (runAll actions { collector with found := [] }).found.reverse

theorem found_runAll (collector : Collector) (actions : List Action) :
    (runAll actions collector).found =
      (collector.finds actions).reverse ++ collector.found := by
  have h :=
    runAll_append_found actions { collector with found := [] } collector.found
  rw [finds, List.reverse_reverse]
  exact congrArg Collector.found h

theorem finds_append (collector : Collector) (first second : List Action) :
    collector.finds (first ++ second) =
      collector.finds first ++ (runAll first collector).finds second := by
  have hlog : { runAll first { collector with found := [] } with found := [] } =
      { runAll first collector with found := [] } :=
    congrArg (fun last : Collector => { last with found := [] })
      (runAll_append_found first { collector with found := [] }
        collector.found).symm
  rw [finds, runAll_append, found_runAll, List.reverse_append,
    List.reverse_reverse]
  refine congrArg (collector.finds first ++ ·) ?_
  rw [finds, finds, hlog]

theorem finds_scope (collector : Collector) (body : List Action) :
    collector.finds [.scope body] = collector.enter.finds body := rfl

theorem finds_use (collector : Collector) (name : String) :
    collector.finds [.use name] = if collector.isBound name then []
      else [name] := by
  change (Collector.use name { collector with found := [] }).found.reverse = _
  rw [Collector.use]
  change (if collector.isBound name then _ else _ : Collector).found.reverse = _
  split <;> rfl

/-- In a target a name in a pattern is an occurrence. -/
theorem finds_binder {collector : Collector}
    (htarget : collector.isAssigning = true) (name : String) :
    collector.finds [.binder name] = if collector.isBound name then []
      else [name] := by
  rw [← finds_use]
  change (if collector.isAssigning then
    Collector.use name { collector with found := [] }
      else _ : Collector).found.reverse = _
  rw [if_pos htarget]
  rfl

theorem finds_cons_bind (collector : Collector) (names : List String)
    (actions : List Action) :
    collector.finds (.bind names :: actions) =
      (collector.bind names).finds actions := by
  obtain ⟨scopes, isAssigning, found⟩ := collector
  cases scopes <;> rfl

end Collector

/-! ## Free occurrences -/

mutual

/-- The names that are bound after an action. -/
def Action.binds (bound : List String) : Action → List String
  | .bind names => names ++ bound
  | .assigning _ body => actionsBind bound body
  | _ => bound

def actionsBind (bound : List String) : List Action → List String
  | [] => bound
  | action :: rest => actionsBind (action.binds bound) rest

end

mutual

/-- The occurrences that an action finds when some names are bound around it. -/
def Action.free (isTarget : Bool) (bound : List String) : Action → List String
  | .use name => if name ∈ bound then [] else [name]
  | .binder name =>
      if isTarget then (if name ∈ bound then [] else [name]) else []
  | .bind _ => []
  | .scope body => actionsFree false bound body
  | .assigning isInner body => actionsFree isInner bound body

def actionsFree (isTarget : Bool) (bound : List String) :
    List Action → List String
  | [] => []
  | action :: rest =>
      action.free isTarget bound ++
        actionsFree isTarget (action.binds bound) rest

end

mutual

theorem Action.collects_free (action : Action) (isTarget : Bool)
    (bound : List String) :
    Collects isTarget [action] bound (action.binds bound)
      (action.free isTarget bound) := by
  match action with
  | .use name => exact .use name
  | .binder name => exact .binder name
  | .bind names => exact .bind names .nil
  | .scope body => exact (collects_actionsFree body false bound).scope
  | .assigning isInner body =>
      exact (collects_actionsFree body isInner bound).assigning

theorem collects_actionsFree (actions : List Action) (isTarget : Bool)
    (bound : List String) :
    Collects isTarget actions bound (actionsBind bound actions)
      (actionsFree isTarget bound actions) := by
  match actions with
  | [] => exact .nil
  | action :: rest =>
      exact (action.collects_free isTarget bound).append
        (collects_actionsFree rest isTarget (action.binds bound))

end

/-! ## More names around -/

section

variable {more : List String}

mutual

theorem Action.mem_binds (action : Action) {bound wide : List String}
    (h : ∀ name, name ∈ wide ↔ name ∈ more ∨ name ∈ bound) (name : String) :
    name ∈ action.binds wide ↔ name ∈ more ∨ name ∈ action.binds bound := by
  match action with
  | .use _ | .binder _ | .scope _ => exact h name
  | .bind names =>
      rw [Action.binds, Action.binds, List.mem_append, List.mem_append, h]
      exact or_left_comm
  | .assigning _ body => exact mem_actionsBind body h name

theorem mem_actionsBind (actions : List Action) {bound wide : List String}
    (h : ∀ name, name ∈ wide ↔ name ∈ more ∨ name ∈ bound) (name : String) :
    name ∈ actionsBind wide actions ↔
    name ∈ more ∨ name ∈ actionsBind bound actions := by
  match actions with
  | [] => exact h name
  | action :: rest => exact mem_actionsBind rest (action.mem_binds h) name

end

theorem occurrence_of_mem_iff {bound wide : List String}
    (h : ∀ name, name ∈ wide ↔ name ∈ more ∨ name ∈ bound) (name : String) :
    (if name ∈ wide then [] else [name]) =
      (if name ∈ bound then [] else [name]).filter
        (fun name => name ∉ more) := by
  by_cases hbound : name ∈ bound
  · rw [if_pos hbound, if_pos ((h name).mpr (Or.inr hbound))]
    rfl
  · rw [if_neg hbound]
    by_cases hmore : name ∈ more
    · rw [if_pos ((h name).mpr (Or.inl hmore)),
        List.filter_cons_of_neg (by simp [hmore])]
      rfl
    · rw [if_neg fun hwide => ((h name).mp hwide).elim hmore hbound,
        List.filter_cons_of_pos (by simp [hmore])]
      rfl

mutual

theorem Action.free_of_mem_iff (action : Action) (isTarget : Bool)
    {bound wide : List String}
    (h : ∀ name, name ∈ wide ↔ name ∈ more ∨ name ∈ bound) :
    action.free isTarget wide =
      (action.free isTarget bound).filter (fun name => name ∉ more) := by
  match action with
  | .use name => exact occurrence_of_mem_iff h name
  | .binder name =>
      cases isTarget with
      | false => rfl
      | true => exact occurrence_of_mem_iff h name
  | .bind _ => rfl
  | .scope body => exact actionsFree_of_mem_iff body false h
  | .assigning isInner body => exact actionsFree_of_mem_iff body isInner h

/-- Names that are bound around actions only filter what these find. -/
theorem actionsFree_of_mem_iff (actions : List Action) (isTarget : Bool)
    {bound wide : List String}
    (h : ∀ name, name ∈ wide ↔ name ∈ more ∨ name ∈ bound) :
    actionsFree isTarget wide actions =
      (actionsFree isTarget bound actions).filter
        (fun name => name ∉ more) := by
  match actions with
  | [] => rfl
  | action :: rest =>
      -- What the action binds is bound in both, so the names are still related
      -- for the rest.
      rw [actionsFree, actionsFree, List.filter_append,
        action.free_of_mem_iff isTarget h,
        actionsFree_of_mem_iff rest isTarget (action.mem_binds h)]

end

end

/-- What is bound stays bound. -/
theorem subset_actionsBind (bound : List String) (actions : List Action) :
    bound ⊆ actionsBind bound actions := by
  have hsame : ∀ name, name ∈ bound ↔ name ∈ bound ∨ name ∈ bound :=
    fun _ => or_self_iff.symm
  exact fun name hname =>
    (mem_actionsBind actions hsame name).mpr (Or.inl hname)

theorem notMem_of_mem_actionsFree {isTarget : Bool} {bound : List String}
    {actions : List Action} {name : String}
    (h : name ∈ actionsFree isTarget bound actions) : name ∉ bound := by
  have hsame : ∀ name, name ∈ bound ↔ name ∈ bound ∨ name ∈ bound :=
    fun _ => or_self_iff.symm
  rw [actionsFree_of_mem_iff actions isTarget hsame] at h
  exact of_decide_eq_true (List.mem_filter.mp h).2

namespace Collector

variable {collector : Collector}

/-- What is found depends on the names that are bound, and on nothing else of
the scopes. -/
theorem finds_eq (hopen : collector.scopes ≠ []) (actions : List Action) :
    collector.finds actions =
      actionsFree collector.isAssigning collector.scopes.flatten actions := by
  obtain ⟨scopes, isAssigning, found⟩ := collector
  cases scopes with
  | nil => exact absurd rfl hopen
  | cons scope outer =>
      have hbinds : Binds (scope :: outer) (scope :: outer).flatten :=
        fun _ => List.mem_flatten
      obtain ⟨last, -, hrun⟩ :=
        collects_actionsFree actions isAssigning _ scope outer [] hbinds
      rw [finds, hrun, List.append_nil, List.reverse_reverse]

/-- Names that are bound before a walk only filter what it finds. -/
theorem finds_bind (hopen : collector.scopes ≠ []) (names : List String)
    (actions : List Action) :
    (collector.bind names).finds actions =
      (collector.finds actions).filter (fun name => name ∉ names) := by
  obtain ⟨scopes, isAssigning, found⟩ := collector
  cases scopes with
  | nil => exact absurd rfl hopen
  | cons scope outer =>
      rw [finds_eq hopen, bind, finds_eq (List.cons_ne_nil _ _)]
      refine actionsFree_of_mem_iff actions isAssigning fun name => ?_
      simp only [List.flatten_cons, List.mem_append, or_assoc]

theorem isBound_runAll (hopen : collector.scopes ≠ []) (actions : List Action)
    {name : String} (hname : collector.isBound name = true) :
    (runAll actions collector).isBound name = true := by
  obtain ⟨scopes, isAssigning, found⟩ := collector
  cases scopes with
  | nil => exact absurd rfl hopen
  | cons scope outer =>
      have hbinds : Binds (scope :: outer) (scope :: outer).flatten :=
        fun _ => List.mem_flatten
      obtain ⟨last, hlast, hrun⟩ :=
        collects_actionsFree actions isAssigning _ scope outer found hbinds
      rw [isBound_iff hbinds] at hname
      rw [hrun, isBound_iff hlast]
      exact subset_actionsBind _ actions hname

/-- No name is found that is bound before the walk. -/
theorem not_isBound_of_mem_finds (hopen : collector.scopes ≠ [])
    {actions : List Action} {name : String}
    (hname : name ∈ collector.finds actions) :
    collector.isBound name = false := by
  have hbinds : Binds collector.scopes collector.scopes.flatten :=
    fun _ => List.mem_flatten
  rw [finds_eq hopen] at hname
  rw [← Bool.not_eq_true, isBound_iff hbinds]
  exact notMem_of_mem_actionsFree hname

/-- What a scope finds that begins by binding names: what it would find without
them, less them. -/
theorem finds_scope_bind (collector : Collector) (names : List String)
    (actions : List Action) :
    collector.finds [.scope (.bind names :: actions)] =
      (collector.enter.finds actions).filter (fun name => name ∉ names) := by
  rw [finds_scope, finds_cons_bind, finds_bind (List.cons_ne_nil _ _)]

end Collector

end Prune.Scope
