/-!
# Scopes as actions

What a tree does to the scopes around it, with the tree itself forgotten: it
uses names, binds names, and opens scopes. The free names of a piece of program
are found by carrying out its actions.

A target of an assignment is written like a pattern that binds, but its names
are names that exist already. `binder` stands for a name in such a place: it is
a use while a target is being read, and nothing otherwise. A scope inside a
target is not part of the target.
-/

namespace Prune.Scope

inductive Action where
  /-- An occurrence of a name. -/
  | use (name : String)
  /-- A name in a pattern. -/
  | binder (name : String)
  /-- Names that mean something from here on, up to the end of the innermost
  scope. -/
  | bind (names : List String)
  | scope (body : List Action)
  /-- Actions that belong to the target of an assignment, or do not. -/
  | assigning (isTarget : Bool) (body : List Action)
deriving Repr, Inhabited

/-- The names bound so far, scope by scope from the innermost, and the
occurrences found that none of them binds, the latest first. -/
structure Collector where
  scopes : List (List String)
  isAssigning : Bool
  found : List String
deriving Repr, DecidableEq, Inhabited

namespace Collector

/-- One scope without names around everything. -/
def start : Collector := ⟨[[]], false, []⟩

def isBound (collector : Collector) (name : String) : Bool :=
  collector.scopes.any fun scope => scope.contains name

/-- Takes note of an occurrence. -/
def use (name : String) (collector : Collector) : Collector :=
  if collector.isBound name then collector
  else { collector with found := name :: collector.found }

/-- Binds names in the innermost scope. -/
def bind (names : List String) (collector : Collector) : Collector :=
  match collector.scopes with
  | scope :: outer => { collector with scopes := (names ++ scope) :: outer }
  | [] => collector

/-- Opens a scope. -/
def enter (collector : Collector) : Collector :=
  { collector with scopes := [] :: collector.scopes, isAssigning := false }

/-- Closes the scope that was opened in `before`. -/
def leave (before after : Collector) : Collector :=
  { after with
    scopes := after.scopes.drop 1, isAssigning := before.isAssigning }

end Collector

mutual

/-- Carries out an action. -/
def Action.run : Action → Collector → Collector
  | .use name, collector => collector.use name
  | .binder name, collector =>
      if collector.isAssigning then collector.use name else collector
  | .bind names, collector => collector.bind names
  | .scope body, collector => collector.leave (runAll body collector.enter)
  | .assigning isTarget body, collector =>
      { runAll body { collector with isAssigning := isTarget } with
        isAssigning := collector.isAssigning }

/-- Carries out actions one after another. -/
def runAll : List Action → Collector → Collector
  | [], collector => collector
  | action :: rest, collector => runAll rest (action.run collector)

end

/-- The free occurrences of names in actions, in their order. -/
def freeNames (actions : List Action) : List String :=
  (runAll actions .start).found.reverse

end Prune.Scope
