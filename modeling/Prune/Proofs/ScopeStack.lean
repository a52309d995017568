import Prune.Proofs.Enclosed
import Prune.Proofs.Spills

/-!
# The stack of scopes

Every law about a walk takes for granted that the stack of scopes is in step
with the tree: that what is opened is closed, that names go into the innermost
scope and into no other, and that a target which has been read is left again.
Here it is proved, for any state in which a walk comes to a tree.

What actions may do to a state is one relation, `Collector.Adds`. Names are
added to the innermost scope, and all else stays. Nothing undoes an addition, so
the relation composes, and a row of actions keeps it if each of them does. The
one action that touches the stack itself opens a scope and closes it. Its body
runs one scope higher: what the body adds is added to the scope that is dropped,
and what it has to leave alone is the stack as it was before.

Which names are added is known from the tree (`Tree.spills`), and a tree that
adds none leaves all scopes as they were. A tree for which a scope is opened is
such a tree, whatever stands in it.
-/

namespace Prune.Scope

/-! ## What actions do to a state -/

/-- From one state of a walk to a later one: some names have been added to the
innermost scope, if there is one, and apart from the occurrences that were found
nothing else has changed. -/
structure Collector.Adds (names : List String) (before after : Collector) :
    Prop where
  scopes : ∃ added, (∀ name, name ∈ added ↔ name ∈ names) ∧
    after.scopes = before.scopes.modifyHead (added ++ ·)
  isAssigning : after.isAssigning = before.isAssigning

namespace Collector.Adds

variable {names more : List String} {before middle after : Collector}

/-- Nothing is added where the scopes stay as they are. -/
theorem nothing (hscopes : after.scopes = before.scopes)
    (hflag : after.isAssigning = before.isAssigning) :
    Adds [] before after where
  scopes := by
    refine ⟨[], fun _ => Iff.rfl, ?_⟩
    rw [hscopes]
    cases before.scopes <;> rfl
  isAssigning := hflag

theorem trans (h : Adds names before middle) (hrest : Adds more middle after) :
    Adds (names ++ more) before after where
  scopes := by
    obtain ⟨first, hfirst, hmiddle⟩ := h.scopes
    obtain ⟨second, hsecond, hafter⟩ := hrest.scopes
    refine ⟨second ++ first, fun name => ?_, ?_⟩
    · rw [List.mem_append, List.mem_append, hfirst, hsecond, or_comm]
    · rw [hafter, hmiddle, List.modifyHead_modifyHead]
      exact congrArg (before.scopes.modifyHead ·)
        (funext fun scope => (List.append_assoc second first scope).symm)
  isAssigning := hrest.isAssigning.trans h.isAssigning

theorem use (name : String) (collector : Collector) :
    Adds [] collector (collector.use name) := by
  rw [Collector.use]
  split
  · exact nothing rfl rfl
  · exact nothing rfl rfl

theorem bind (names : List String) (collector : Collector) :
    Adds names collector (collector.bind names) := by
  obtain ⟨scopes, isAssigning, found⟩ := collector
  cases scopes with
  | nil => exact ⟨⟨names, fun _ => Iff.rfl, rfl⟩, rfl⟩
  | cons scope outer => exact ⟨⟨names, fun _ => Iff.rfl, rfl⟩, rfl⟩

/-- What is added inside of a scope goes when it is closed. -/
theorem leave {collector : Collector} (h : Adds names collector.enter after) :
    Adds [] collector (collector.leave after) := by
  obtain ⟨added, -, hscopes⟩ := h.scopes
  refine nothing ?_ rfl
  rw [Collector.leave, hscopes]
  rfl

/-- A target may begin and end on the way. -/
theorem assigning {collector : Collector} {isInner : Bool}
    (h : Adds names { collector with isAssigning := isInner } after) :
    Adds names collector { after with isAssigning := collector.isAssigning } :=
  ⟨h.scopes, rfl⟩

end Collector.Adds

mutual

/-- One action adds the names that it leaves bound. -/
theorem Action.adds_run (action : Action) (collector : Collector) :
    Collector.Adds action.spills collector (action.run collector) := by
  match action with
  | .use name => exact .use name collector
  | .binder name =>
      rw [Action.run]
      split
      · exact .use name collector
      · exact .nothing rfl rfl
  | .bind names => exact .bind names collector
  -- What the body adds goes into the scope that is opened for it, and goes with
  -- it.
  | .scope body => exact (adds_runAll body collector.enter).leave
  | .assigning isInner body =>
      exact (adds_runAll body
        { collector with isAssigning := isInner }).assigning

/-- So do actions in a row, together. -/
theorem adds_runAll (actions : List Action) (collector : Collector) :
    Collector.Adds (actionsSpill actions) collector
      (runAll actions collector) := by
  match actions with
  | [] => exact .nothing rfl rfl
  | action :: rest =>
      exact (action.adds_run collector).trans
        (adds_runAll rest (action.run collector))

end

/-- The state after actions: the names that they leave bound are in the
innermost scope, and what they find is with the occurrences. -/
theorem exists_runAll_eq (actions : List Action) (collector : Collector) :
    ∃ added, (∀ name, name ∈ added ↔ name ∈ actionsSpill actions) ∧
      runAll actions collector =
        { collector with
          scopes := collector.scopes.modifyHead (added ++ ·)
          found := (collector.finds actions).reverse ++ collector.found } := by
  obtain ⟨⟨added, hadded, hscopes⟩, hflag⟩ := adds_runAll actions collector
  have hfound := collector.found_runAll actions
  refine ⟨added, hadded, ?_⟩
  generalize runAll actions collector = last at hscopes hflag hfound ⊢
  obtain ⟨scopes, isAssigning, found⟩ := last
  rw [Collector.mk.injEq]
  exact ⟨hscopes, hflag, hfound⟩

/-- Actions that leave nothing bound do nothing but find occurrences. -/
theorem runAll_of_spill_nil {actions : List Action}
    (h : actionsSpill actions = []) (collector : Collector) :
    runAll actions collector =
      { collector with
        found := (collector.finds actions).reverse ++ collector.found } := by
  obtain ⟨added, hadded, hrun⟩ := exists_runAll_eq actions collector
  rw [h] at hadded
  have hnone : added = [] :=
    List.eq_nil_iff_forall_not_mem.mpr fun name hname =>
      List.not_mem_nil ((hadded name).mp hname)
  rw [hrun, hnone]
  obtain ⟨scopes, isAssigning, found⟩ := collector
  cases scopes <;> rfl

end Prune.Scope

namespace Prune.Script

open Prune.Scope

/-! ## Trees of any kind -/

namespace Tree

/-- The names that a tree leaves bound in the scope in which it stands. -/
def spills : Tree → List String
  | .type node => node.spills
  | .types nodes => typesSpill nodes
  | .expression node | .body (.value node) => node.spills
  | .expressions nodes => exprsSpill nodes
  | .pattern node => node.spills
  | .patterns nodes => patternsSpill nodes
  | .target node => node.targetSpills
  | .declarators nodes => declaratorsSpill nodes
  | .member node => node.spills
  | .members nodes => membersSpill nodes
  | .statement node => node.spills
  | .statements nodes => stmtsSpill nodes
  | .function _ | .classBody _ | .body _ | .tag _ | .exportName _
  | .importSpecifier _ | .exportSpecifier _ => []

theorem spill_actions (tree : Tree) :
    actionsSpill tree.actions = tree.spills := by
  match tree with
  | .type node => exact node.spill_actions
  | .types nodes => exact spill_typeActions nodes
  | .expression node | .body (.value node) => exact node.spill_actions
  | .expressions nodes => exact spill_exprActions nodes
  | .pattern node => exact node.spill_actions
  | .patterns nodes => exact spill_patternActions nodes
  | .target node => exact node.spill_targetActions
  | .declarators nodes => exact spill_declaratorActions nodes
  | .member node => exact node.spill_actions
  | .members nodes => exact spill_memberActions nodes
  | .statement node => exact node.spill_actions
  | .statements nodes => exact spill_stmtActions nodes
  | .function (.mk _ _ _ _ _) | .classBody (.mk _ _ _ _ _ _) | .body .absent
  | .body (.block _) => rfl
  | .tag node => exact spill_tag (some node)
  | .exportName node => exact spill_exportName (some node)
  | .importSpecifier node => exact node.spill_actions
  | .exportSpecifier node => exact node.spill_actions

/-- Whether a scope is opened for a tree and closed behind it. -/
def opensScope : Tree → Bool
  | .type (.signature _ _ _) | .type (.mapped _ _ _)
  | .type (.method _ _ _ _) => true
  | .expression (.function _ _ _) | .expression (.arrow _ _ _ _ _)
  | .expression (.classExpr _ _ _) => true
  | .member (.setter _ _ _ _) | .member (.constructor _ _ _ _)
  | .member (.staticBlock _ _) => true
  | .function _ | .classBody _ | .body (.block _) => true
  | .statement (.block _) | .statement (.handler _ _)
  | .statement (.forLoop _ _ _ _) | .statement (.forEach _ _ _)
  | .statement (.interface _ _ _ _ _) | .statement (.typeAlias _ _ _ _)
  | .statement (.enum _ _ _ _) | .statement (.namespace _ _ _ _) => true
  | _ => false

theorem exists_scope_of_opensScope {tree : Tree} (h : tree.opensScope = true) :
    ∃ body, tree.actions = [.scope body] := by
  cases tree with
  | type node =>
      cases node with
      | signature | mapped | method => exact ⟨_, rfl⟩
      | _ => cases h
  | expression node =>
      cases node with
      | function | arrow | classExpr => exact ⟨_, rfl⟩
      | _ => cases h
  | member node =>
      cases node with
      | setter | constructor | staticBlock => exact ⟨_, rfl⟩
      | _ => cases h
  | function node | classBody node =>
      cases node
      exact ⟨_, rfl⟩
  | body node =>
      cases node with
      | block => exact ⟨_, rfl⟩
      | _ => cases h
  | statement node =>
      cases node with
      | block | handler | forLoop | forEach | interface | typeAlias | enum
      | «namespace» =>
          exact ⟨_, rfl⟩
      | _ => cases h
  | _ => cases h

/-- What a walk of a tree does to the scopes that are open when it comes to the
tree, to the flag for targets and to what has been found.

The scopes below the innermost one stay, and so does the flag. The innermost one
gets the names that the tree leaves bound, and no others; and occurrences are
added to those that have been found, whatever these are. A scope in which the
tree is walked, among anything else, leaves all scopes as they were, and so does
a tree for which a scope is opened. -/
theorem walk_keeps_stack (tree : Tree) :
    (∀ scope outer isAssigning found, ∃ added,
      (∀ name, name ∈ added ↔ name ∈ tree.spills) ∧
        tree.walk ⟨scope :: outer, isAssigning, found⟩ =
          ⟨(added ++ scope) :: outer, isAssigning,
            (tree.walk ⟨scope :: outer, isAssigning, []⟩).found ++ found⟩) ∧
    (∀ front back collector,
      let body := front ++ tree.actions ++ back
      (Action.scope body).run collector =
        { collector with
          found := (collector.enter.finds body).reverse ++ collector.found }) ∧
    (tree.opensScope = true → ∀ collector,
      tree.walk collector =
        { collector with
          found :=
            (collector.finds tree.actions).reverse ++ collector.found }) := by
  refine ⟨fun scope outer isAssigning found => ?_,
    fun front back collector => ?_, fun h collector => ?_⟩
  · obtain ⟨added, hadded, hrun⟩ :=
      exists_runAll_eq tree.actions ⟨scope :: outer, isAssigning, found⟩
    rw [tree.spill_actions] at hadded
    rw [Collector.finds, List.reverse_reverse] at hrun
    exact ⟨added, hadded, hrun⟩
  · have hquiet : actionsSpill [.scope (front ++ tree.actions ++ back)] = [] :=
      rfl
    exact runAll_of_spill_nil hquiet collector
  · obtain ⟨body, hbody⟩ := exists_scope_of_opensScope h
    rw [walk, hbody]
    exact runAll_of_spill_nil rfl collector

/-- `for (let i = a; b; ) { var v = c; function f(p) { return [p, v, i] } }` -/
def closingLoop : Tree :=
  let use (name : String) : Expr := .identifier ⟨0, 0⟩ name
  let declare (name : String) (value : Expr) : Pattern :=
    .withDefault ⟨0, 0⟩ (.identifier ⟨0, 0⟩ name .absent) value
  .statement
    (.forLoop (.variable ⟨0, 0⟩ .block [declare "i" (use "a")] false)
      (use "b") .absent
      (.block [.variable ⟨0, 0⟩ .var [declare "v" (use "c")] false,
        .function "f" (.mk [] [] [.identifier ⟨0, 0⟩ "p" .absent] .absent
          (.block [.ret (.array ⟨0, 0⟩ [use "p", use "v", use "i"])])) false]))

theorem walk_keeps_stack_closing :
    closingLoop.opensScope = true ∧
      closingLoop.walk ⟨[["a"], ["p", "q"]], true, ["b"]⟩ =
        ⟨[["a"], ["p", "q"]], true, ["c", "b", "b"]⟩ := by
  have hopens : closingLoop.opensScope = true := by decide
  refine ⟨hopens, ?_⟩
  rw [closingLoop.walk_keeps_stack.2.2 hopens]
  decide

end Tree

end Prune.Script
