import Prune.Scope.Action

/-!
# What actions find and bind

A collector keeps a stack of scopes, and all that matters of it is which names
are bound in any of them. `Collects` says of actions, given which names are
bound before them, which are bound after them and which occurrences they find.
The stack below the innermost scope and what was found before do not come into
it.

There is one rule for each action and one for actions in a row. A scope gives
back the names that were bound before it, whatever is bound inside, and so does
binding names that are bound already (`Collects.rebind`).
-/

namespace Prune.Scope

/-- The names that are bound in some scope of a stack. -/
def Binds (scopes : List (List String)) (bound : List String) : Prop :=
  ∀ name, name ∈ bound ↔ ∃ scope ∈ scopes, name ∈ scope

/-- Actions that find `found`, where the names of `before` are bound at their
start and those of `after` at their end. -/
def Collects (isTarget : Bool) (actions : List Action)
    (before after found : List String) : Prop :=
  ∀ scope outer earlier, Binds (scope :: outer) before →
    ∃ last, Binds (last :: outer) after ∧
      runAll actions ⟨scope :: outer, isTarget, earlier⟩ =
        ⟨last :: outer, isTarget, found.reverse ++ earlier⟩

theorem runAll_append (first second : List Action) (collector : Collector) :
    runAll (first ++ second) collector =
      runAll second (runAll first collector) := by
  induction first generalizing collector with
  | nil => rfl
  | cons action rest ih => rw [List.cons_append, runAll, runAll, ih]

theorem isBound_iff {scopes : List (List String)} {bound : List String}
    (h : Binds scopes bound) (isTarget : Bool) (found : List String)
    (name : String) :
    (Collector.mk scopes isTarget found).isBound name = true ↔
    name ∈ bound := by
  rw [h name, Collector.isBound, List.any_eq_true]
  simp only [List.contains_iff_mem]

variable {isTarget : Bool} {actions rest : List Action}
    {bound middle after found more : List String}

/-- Which list names the bound names, and in which order, does not matter. -/
theorem Collects.congr (h : Collects isTarget actions bound after found)
    {other : List String} (hsame : ∀ name, name ∈ other ↔ name ∈ bound) :
    Collects isTarget actions other after found :=
  fun scope outer earlier hbinds =>
    h scope outer earlier fun name => (hsame name).symm.trans (hbinds name)

theorem Collects.nil : Collects isTarget [] bound bound [] :=
  fun scope _ _ hbinds => ⟨scope, hbinds, rfl⟩

theorem Collects.append (h : Collects isTarget actions bound middle found)
    (hrest : Collects isTarget rest middle after more) :
    Collects isTarget (actions ++ rest) bound after (found ++ more) := by
  intro scope outer earlier hbinds
  obtain ⟨next, hnext, hrun⟩ := h scope outer earlier hbinds
  obtain ⟨last, hlast, hrunRest⟩ :=
    hrest next outer (found.reverse ++ earlier) hnext
  refine ⟨last, hlast, ?_⟩
  rw [runAll_append, hrun, hrunRest, List.reverse_append, List.append_assoc]

theorem Collects.append_nil (h : Collects isTarget actions bound after found)
    (hrest : rest = []) :
    Collects isTarget (actions ++ rest) bound after found := by
  rw [hrest, List.append_nil]
  exact h

theorem Collects.use (name : String) :
    Collects isTarget [.use name] bound bound
      (if name ∈ bound then [] else [name]) := by
  intro scope outer earlier hbinds
  refine ⟨scope, hbinds, ?_⟩
  have hbound := isBound_iff hbinds isTarget earlier name
  rw [runAll, runAll, Action.run, Collector.use]
  by_cases hname : name ∈ bound
  · rw [if_pos (hbound.mpr hname), if_pos hname]
    rfl
  · rw [if_neg fun h => hname (hbound.mp h), if_neg hname]
    rfl

/-- A name in a pattern is an occurrence in a target only. -/
theorem Collects.binder (name : String) :
    Collects isTarget [.binder name] bound bound
      (if isTarget then (if name ∈ bound then [] else [name]) else []) := by
  cases isTarget with
  | false => exact fun scope _ _ hbinds => ⟨scope, hbinds, rfl⟩
  | true => exact Collects.use name

theorem Collects.bind (names : List String)
    (h : Collects isTarget actions (names ++ bound) after found) :
    Collects isTarget (.bind names :: actions) bound after found := by
  intro scope outer earlier hbinds
  refine h (names ++ scope) outer earlier fun name => ?_
  rw [List.mem_append, hbinds name]
  simp only [List.mem_cons, exists_eq_or_imp, List.mem_append, or_assoc]

/-- Names that are bound already may be bound again. -/
theorem Collects.rebind {names : List String} (hbound : names ⊆ bound)
    (h : Collects isTarget actions bound after found) :
    Collects isTarget (.bind names :: actions) bound after found := by
  refine .bind names (h.congr fun name => ?_)
  rw [List.mem_append]
  exact ⟨fun hname => hname.elim (fun h => hbound h) id, Or.inr⟩

theorem Collects.scope (h : Collects false actions bound after found) :
    Collects isTarget [.scope actions] bound bound found := by
  intro scope outer earlier hbinds
  have hinner : Binds ([] :: scope :: outer) bound := fun name => by
    rw [hbinds name]
    simp only [List.mem_cons, exists_eq_or_imp, List.not_mem_nil, false_or]
  obtain ⟨last, -, hrun⟩ := h [] (scope :: outer) earlier hinner
  refine ⟨scope, hbinds, ?_⟩
  rw [runAll, runAll, Action.run, Collector.enter, hrun]
  rfl

theorem Collects.assigning {isInner : Bool}
    (h : Collects isInner actions bound after found) :
    Collects isTarget [.assigning isInner actions] bound after found := by
  intro scope outer earlier hbinds
  obtain ⟨last, hlast, hrun⟩ := h scope outer earlier hbinds
  refine ⟨last, hlast, ?_⟩
  rw [runAll, runAll, Action.run, hrun]

/-- What actions find when nothing is bound around them. -/
theorem Collects.freeNames (h : Collects false actions [] after found) :
    freeNames actions = found := by
  have hstart : Binds [[]] [] := fun name => by
    simp only [List.mem_cons, List.not_mem_nil, exists_eq_or_imp, false_and,
      exists_false, or_self]
  obtain ⟨last, -, hrun⟩ := h [] [] [] hstart
  rw [Scope.freeNames, Collector.start, hrun, List.append_nil,
    List.reverse_reverse]

end Prune.Scope
