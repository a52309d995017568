import Mathlib.Data.List.Forall2
import Prune.Proofs.FreeNames
import Prune.Proofs.ScopeStack
import Prune.Proofs.Untyped

/-!
# Names that are bound and names that are written to

A pattern is read in two ways. In a declaration it binds the names in it, which
are collected from the tree by `Pattern.names`. In an assignment it writes to
them, and the walk finds them on its way through everything that the pattern
contains. Both readings have to come to the same names in the same order, or
`let {a} = x` and `({a} = x)` would be about different variables.

In a bare pattern there is nothing but names, and the two agree. Defaults and
computed keys are expressions in between. They bind no name of the pattern, but
what they use is found along with the names, and what they leave bound would not
be found behind them. That cannot happen where no types are written: of all
expressions only types leave a name bound (`Expr.spills_of_isUntyped`), so each
part of a pattern is walked as if it stood alone, and its names come out among
the rest in their order.
-/

namespace Prune.Scope

/-- What is walked behind actions that leave nothing bound finds what it finds
alone. -/
theorem Collector.finds_append_of_spill_nil {first : List Action}
    (h : actionsSpill first = []) (collector : Collector)
    (second : List Action) :
    collector.finds (first ++ second) =
      collector.finds first ++ collector.finds second := by
  rw [finds_append, runAll_of_spill_nil h]
  rfl

end Prune.Scope

namespace Prune.Script

open Prune.Scope

/-! ## Patterns with less in them and with more -/

mutual

/-- Whether a pattern consists of names only, in arrays, in objects and behind
dots: nothing in it is evaluated, and no type is written. -/
def Pattern.isBare : Pattern → Bool
  | .absent => true
  | .identifier _ _ type => type.isAbsent
  | .array _ parts type | .object _ parts type =>
      patternsBare parts && type.isAbsent
  | .rest _ target type => target.isBare && type.isAbsent
  | .keyed _ key target => key.isAbsent && target.isBare
  | .shorthand _ _ default => default.isAbsent
  | .withDefault _ _ _ | .decorated _ _ | .expression _ | .invalid _ => false

def patternsBare : List Pattern → Bool
  | [] => true
  | pattern :: rest => pattern.isBare && patternsBare rest

end

/-- The second pattern is the first one, which is bare, with defaults and
computed keys added to it in any places. No types are written in them. -/
inductive Pattern.Adorned : Pattern → Pattern → Prop where
  | absent : Adorned .absent .absent
  | identifier (span other : Span) (name : String) :
      Adorned (.identifier span name .absent) (.identifier other name .absent)
  | array (span other : Span) {parts fuller : List Pattern}
      (h : List.Forall₂ Adorned parts fuller) :
      Adorned (.array span parts .absent) (.array other fuller .absent)
  | object (span other : Span) {parts fuller : List Pattern}
      (h : List.Forall₂ Adorned parts fuller) :
      Adorned (.object span parts .absent) (.object other fuller .absent)
  | rest (span other : Span) {target full : Pattern} (h : Adorned target full) :
      Adorned (.rest span target .absent) (.rest other full .absent)
  | keyed (span other : Span) {key : Expr} (hkey : key.isUntyped = true)
      {target full : Pattern}
      (h : Adorned target full) :
      Adorned (.keyed span .absent target) (.keyed other key full)
  | shorthand (span other : Span) (name : String) {default : Expr}
      (hdefault : default.isUntyped = true) :
      Adorned (.shorthand span name .absent) (.shorthand other name default)
  | withDefault (span : Span) {value : Expr} (hvalue : value.isUntyped = true)
      {bare full : Pattern} (h : Adorned bare full) :
      Adorned bare (.withDefault span full value)

/-! ## What is added to a bare pattern -/

mutual

/-- Nothing need be added. -/
theorem Pattern.adorned_of_isBare (pattern : Pattern)
    (h : pattern.isBare = true) :
    pattern.Adorned pattern := by
  match pattern with
  | .absent => exact .absent
  | .identifier span name type =>
      obtain rfl := TypeTerm.eq_absent h
      exact .identifier span span name
  | .array span parts type =>
      obtain ⟨hparts, htype⟩ := Bool.and_eq_true_iff.mp h
      obtain rfl := TypeTerm.eq_absent htype
      exact .array span span (adorned_of_patternsBare parts hparts)
  | .object span parts type =>
      obtain ⟨hparts, htype⟩ := Bool.and_eq_true_iff.mp h
      obtain rfl := TypeTerm.eq_absent htype
      exact .object span span (adorned_of_patternsBare parts hparts)
  | .rest span target type =>
      obtain ⟨htarget, htype⟩ := Bool.and_eq_true_iff.mp h
      obtain rfl := TypeTerm.eq_absent htype
      exact .rest span span (target.adorned_of_isBare htarget)
  | .keyed span key target =>
      obtain ⟨hkey, htarget⟩ := Bool.and_eq_true_iff.mp h
      obtain rfl := Expr.eq_absent hkey
      exact .keyed span span rfl (target.adorned_of_isBare htarget)
  | .shorthand span name default =>
      obtain rfl := Expr.eq_absent h
      exact .shorthand span span name rfl
  | .withDefault _ _ _ | .decorated _ _ | .expression _ | .invalid _ =>
      exact absurd h Bool.false_ne_true

theorem adorned_of_patternsBare (patterns : List Pattern)
    (h : patternsBare patterns = true) :
    List.Forall₂ Pattern.Adorned patterns patterns := by
  match patterns with
  | [] => exact .nil
  | pattern :: rest =>
      obtain ⟨hpattern, hrest⟩ := Bool.and_eq_true_iff.mp h
      exact .cons (pattern.adorned_of_isBare hpattern)
        (adorned_of_patternsBare rest hrest)

end

/-! In the inductions below the recursion is on the pattern with the additions,
of which every step takes off one former; the bare pattern stays the same where
a default is taken off. -/

mutual

theorem Pattern.Adorned.isUntyped {bare full : Pattern}
    (h : bare.Adorned full) :
    full.isUntyped = true := by
  match full, h with
  | _, .absent | _, .identifier _ _ _ => rfl
  | .array _ _ _, .array _ _ h | .object _ _ _, .object _ _ h =>
      exact Bool.and_eq_true_iff.mpr ⟨untyped_of_adorned h, rfl⟩
  | .rest _ full _, .rest _ _ h =>
      exact Bool.and_eq_true_iff.mpr ⟨h.isUntyped, rfl⟩
  | .keyed _ _ full, .keyed _ _ hkey h =>
      exact Bool.and_eq_true_iff.mpr ⟨hkey, h.isUntyped⟩
  | .shorthand _ _ _, .shorthand _ _ _ hdefault => exact hdefault
  | .withDefault _ full _, .withDefault _ hvalue h =>
      exact Bool.and_eq_true_iff.mpr ⟨h.isUntyped, hvalue⟩

theorem untyped_of_adorned {parts fuller : List Pattern}
    (h : List.Forall₂ Pattern.Adorned parts fuller) :
    patternsUntyped fuller = true := by
  match fuller, h with
  | [], .nil => rfl
  | full :: rest, .cons h hrest =>
      exact Bool.and_eq_true_iff.mpr ⟨h.isUntyped, untyped_of_adorned hrest⟩

end

mutual

/-- What is added binds nothing. -/
theorem Pattern.Adorned.names_eq {bare full : Pattern} (h : bare.Adorned full) :
    full.names = bare.names := by
  match full, h with
  | _, .absent | _, .identifier _ _ _ | _, .shorthand _ _ _ _ => rfl
  | .array _ _ _, .array _ _ h | .object _ _ _, .object _ _ h =>
      exact patternNames_of_adorned h
  | .rest _ _ _, .rest _ _ h => exact h.names_eq
  | .keyed _ _ _, .keyed _ _ _ h => exact h.names_eq
  | .withDefault _ _ _, .withDefault _ _ h => exact h.names_eq

theorem patternNames_of_adorned {parts fuller : List Pattern}
    (h : List.Forall₂ Pattern.Adorned parts fuller) :
    patternNames fuller = patternNames parts := by
  match fuller, h with
  | [], .nil => rfl
  | full :: rest, .cons h hrest =>
      rw [patternNames, patternNames, h.names_eq, patternNames_of_adorned hrest]

end

/-! ## What is found in a target -/

section

variable {collector : Collector}

/-- Where nothing is bound, a name in a target is found. -/
theorem finds_written (htarget : collector.isAssigning = true)
    (hfree : ∀ name, collector.isBound name = false) (name : String) :
    collector.finds [.binder name] = [name] := by
  rw [Collector.finds_binder htarget, hfree]
  rfl

theorem Pattern.Adorned.spill_actions {bare full : Pattern}
    (h : bare.Adorned full) :
    actionsSpill full.actions = [] :=
  full.spill_actions.trans (full.spills_of_isUntyped h.isUntyped)

mutual

/-- The names of a bare pattern are all that is found in it. -/
theorem Pattern.finds_of_isBare (htarget : collector.isAssigning = true)
    (hfree : ∀ name, collector.isBound name = false) (pattern : Pattern)
    (h : pattern.isBare = true) :
    collector.finds pattern.actions = pattern.names := by
  match pattern with
  | .absent => rfl
  | .identifier _ name type =>
      rw [Pattern.actions, TypeTerm.actions_of_isAbsent h]
      exact finds_written htarget hfree name
  | .array _ parts type | .object _ parts type =>
      obtain ⟨hparts, htype⟩ := Bool.and_eq_true_iff.mp h
      rw [Pattern.actions, TypeTerm.actions_of_isAbsent htype, List.append_nil]
      exact finds_of_patternsBare htarget hfree parts hparts
  | .rest _ target type =>
      obtain ⟨hinner, htype⟩ := Bool.and_eq_true_iff.mp h
      rw [Pattern.actions, TypeTerm.actions_of_isAbsent htype, List.append_nil]
      exact target.finds_of_isBare htarget hfree hinner
  | .keyed _ key target =>
      obtain ⟨hkey, hinner⟩ := Bool.and_eq_true_iff.mp h
      rw [Pattern.actions, Expr.actions_of_isAbsent hkey]
      exact target.finds_of_isBare htarget hfree hinner
  | .shorthand _ name default =>
      rw [Pattern.actions, Expr.actions_of_isAbsent h]
      exact finds_written htarget hfree name
  | .withDefault _ _ _ | .decorated _ _ | .expression _ | .invalid _ =>
      exact absurd h Bool.false_ne_true

theorem finds_of_patternsBare (htarget : collector.isAssigning = true)
    (hfree : ∀ name, collector.isBound name = false) (patterns : List Pattern)
    (h : patternsBare patterns = true) :
    collector.finds (patternActions patterns) = patternNames patterns := by
  match patterns with
  | [] => rfl
  | pattern :: rest =>
      obtain ⟨hpattern, hrest⟩ := Bool.and_eq_true_iff.mp h
      -- The first pattern leaves nothing bound, so the rest is walked in the
      -- same state.
      rw [patternActions, patternNames,
        Collector.finds_append_of_spill_nil
          (pattern.adorned_of_isBare hpattern).spill_actions,
        pattern.finds_of_isBare htarget hfree hpattern,
        finds_of_patternsBare htarget hfree rest hrest]

end

mutual

/-- The names of a bare pattern are found in their order, whatever else is found
in between. -/
theorem Pattern.Adorned.sublist_finds (htarget : collector.isAssigning = true)
    (hfree : ∀ name, collector.isBound name = false) {bare full : Pattern}
    (h : bare.Adorned full) :
    bare.names.Sublist (collector.finds full.actions) := by
  match full, h with
  | _, .absent => exact List.nil_sublist _
  | _, .identifier _ _ name =>
      exact (finds_written htarget hfree name).symm ▸ List.Sublist.refl [name]
  | .array _ parts _, .array _ _ h | .object _ parts _, .object _ _ h =>
      rw [Pattern.actions, TypeTerm.actions_of_isAbsent rfl, List.append_nil]
      exact sublist_finds_of_adorned htarget hfree h
  | .rest _ full _, .rest _ _ h =>
      rw [Pattern.actions, TypeTerm.actions_of_isAbsent rfl, List.append_nil]
      exact h.sublist_finds htarget hfree
  | .keyed _ key full, .keyed _ _ hkey h =>
      have hquiet := key.spill_actions.trans (key.spills_of_isUntyped hkey)
      rw [Pattern.actions, Collector.finds_append_of_spill_nil hquiet]
      exact List.sublist_append_of_sublist_right (h.sublist_finds htarget hfree)
  | .shorthand _ _ default, .shorthand _ _ name _ =>
      change [name].Sublist
        (collector.finds ([.binder name] ++ default.actions))
      rw [Collector.finds_append_of_spill_nil rfl, finds_written htarget hfree]
      exact List.sublist_append_left [name] _
  | .withDefault _ full value, .withDefault _ _ h =>
      rw [Pattern.actions, Collector.finds_append_of_spill_nil h.spill_actions]
      exact List.sublist_append_of_sublist_left (h.sublist_finds htarget hfree)

theorem sublist_finds_of_adorned (htarget : collector.isAssigning = true)
    (hfree : ∀ name, collector.isBound name = false)
    {parts fuller : List Pattern}
    (h : List.Forall₂ Pattern.Adorned parts fuller) :
    (patternNames parts).Sublist (collector.finds (patternActions fuller)) := by
  match fuller, h with
  | [], .nil => exact List.nil_sublist _
  | full :: rest, .cons h hrest =>
      rw [patternActions, Collector.finds_append_of_spill_nil h.spill_actions]
      exact (h.sublist_finds htarget hfree).append
        (sublist_finds_of_adorned htarget hfree hrest)

end

/-- On its own a target finds what it finds within a target. -/
theorem Pattern.Adorned.finds_targetActions {bare full : Pattern}
    (h : bare.Adorned full) (hplace : full.isTarget = true)
    (collector : Collector) :
    collector.finds full.targetActions =
      Collector.finds { collector with isAssigning := true } full.actions := by
  cases h with
  | identifier span other name =>
      change collector.finds [.use name] = Collector.finds _ [.binder name]
      rw [Collector.finds_use, Collector.finds_binder rfl]
      rfl
  | array | object => rfl
  | _ => cases hplace

/-- A pattern with defaults and computed keys that is walked in a target, in its
place or on its own. -/
theorem Pattern.Adorned.walk_eq {bare full : Pattern} (h : bare.Adorned full)
    (collector : Collector) :
    let target := { collector with isAssigning := true }
    let found := (target.finds full.actions).reverse ++ collector.found
    (Tree.pattern full).walk target = { target with found } ∧
      (full.isTarget = true →
        (Tree.target full).walk collector = { collector with found }) := by
  intro target found
  have hquiet : actionsSpill full.targetActions = [] :=
    full.spill_targetActions.trans (full.targetSpills_of_isUntyped h.isUntyped)
  refine ⟨runAll_of_spill_nil h.spill_actions target, fun hplace => ?_⟩
  change runAll full.targetActions collector = _
  rw [runAll_of_spill_nil hquiet, h.finds_targetActions hplace]

end

/-- The names that a pattern binds are those that it writes to.

Where nothing is bound, what a walk finds in a bare pattern while a target is
being read is the list of the names that the pattern binds in a declaration, and
it does nothing else. With defaults and computed keys the pattern binds the same
names; what is found in it has them in the same order, among what the added
expressions use. The same is found in a pattern that is itself the target of an
assignment, whether that is written in another target or not. -/
theorem Pattern.walk_writes_names {bare : Pattern} (hbare : bare.isBare = true)
    {collector : Collector} (hfree : ∀ name, collector.isBound name = false) :
    let target := { collector with isAssigning := true }
    ((Tree.pattern bare).walk target =
        { target with found := bare.names.reverse ++ collector.found } ∧
      (bare.isTarget = true → (Tree.target bare).walk collector =
        { collector with found := bare.names.reverse ++ collector.found })) ∧
    ∀ full, bare.Adorned full →
      full.names = bare.names ∧
        ∃ occurrences, bare.names.Sublist occurrences ∧
          (Tree.pattern full).walk target =
            { target with found := occurrences.reverse ++ collector.found } ∧
          (full.isTarget = true → (Tree.target full).walk collector =
            { collector with
              found := occurrences.reverse ++ collector.found }) := by
  intro target
  have htarget : target.isAssigning = true := rfl
  have hself := (bare.adorned_of_isBare hbare).walk_eq collector
  have hnames : target.finds bare.actions = bare.names :=
    bare.finds_of_isBare htarget hfree hbare
  refine ⟨hnames ▸ hself,
    fun full hfull => ⟨hfull.names_eq, target.finds full.actions, ?_⟩⟩
  exact ⟨hfull.sublist_finds htarget hfree, hfull.walk_eq collector⟩

section

def bareName (name : String) : Pattern := .identifier ⟨0, 0⟩ name .absent

/-- `{a, k: [b, , ...c], ...d}` -/
def nestedTarget : Pattern :=
  .object ⟨0, 0⟩ [.shorthand ⟨0, 0⟩ "a" .absent,
    .keyed ⟨0, 0⟩ .absent (.array ⟨0, 0⟩
      [bareName "b", .absent, .rest ⟨0, 0⟩ (bareName "c") .absent] .absent),
    .rest ⟨0, 0⟩ (bareName "d") .absent] .absent

/-- `{a = b, [f(k)]: [b = (b) => b, , ...c] = e, ...d}` -/
def fullTarget : Pattern :=
  let use (name : String) : Expr := .identifier ⟨0, 0⟩ name
  .object ⟨0, 0⟩ [.shorthand ⟨0, 0⟩ "a" (use "b"),
    .keyed ⟨0, 0⟩ (.call ⟨0, 0⟩ (use "f") [use "k"] [])
      (.withDefault ⟨0, 0⟩ (.array ⟨0, 0⟩
        [.withDefault ⟨0, 0⟩ (bareName "b")
          (.arrow ⟨0, 0⟩ [] [bareName "b"] .absent (.value (use "b"))),
          .absent, .rest ⟨0, 0⟩ (bareName "c") .absent] .absent) (use "e")),
    .rest ⟨0, 0⟩ (bareName "d") .absent] .absent

theorem Pattern.walk_writes_names_nested :
    nestedTarget.isBare = true ∧ nestedTarget.Adorned fullTarget ∧
      (Tree.target nestedTarget).walk ⟨[[], []], false, []⟩ =
        ⟨[[], []], false, ["d", "c", "b", "a"]⟩ ∧
      fullTarget.names = ["a", "b", "c", "d"] ∧
      ["a", "b", "c", "d"].Sublist
        ((Tree.target fullTarget).walk
          ⟨[[], []], false, []⟩).found.reverse := by
  have hbare : nestedTarget.isBare = true := by decide
  have hfree : ∀ name, (Collector.mk [[], []] false []).isBound name = false :=
    fun _ => rfl
  have hfull : nestedTarget.Adorned fullTarget := by
    refine .object _ _
      (.cons (.shorthand _ _ _ (by decide))
        (.cons (.keyed _ _ (by decide) ?_)
          (.cons (.rest _ _ (.identifier _ _ _)) .nil)))
    refine .withDefault _ (by decide) (.array _ _ (.cons ?_ (.cons .absent
      (.cons (.rest _ _ (.identifier _ _ _)) .nil))))
    exact .withDefault _ (by decide) (.identifier _ _ _)
  obtain ⟨⟨-, hwrites⟩, hadds⟩ := Pattern.walk_writes_names hbare hfree
  obtain ⟨hnames, occurrences, hsublist, -, hwalk⟩ := hadds fullTarget hfull
  refine ⟨hbare, hfull, hwrites (by decide), hnames, ?_⟩
  rw [hwalk (by decide), List.append_nil, List.reverse_reverse]
  exact hsublist

end

end Prune.Script
