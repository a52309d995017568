import Prune.Dissection
import Prune.Proofs.Spills

/-!
# Names that are local to types

Some names in a type name nothing in the program: the labels of a tuple, the key
of an index signature, the parameters of a function type or of a method. The
walk meets them as names in patterns, and what becomes of such a name depends on
one thing, whether the target of an assignment is being read. Outside of a
target it is nothing, neither an occurrence nor a binding, and may be any other
name (`TypeTerm.alike_renamed`, an induction over types and the patterns in
them). So a parameter that its result type mentions, as a type predicate does,
is found there. In a target a label or a key is an occurrence, unless a scope
lies in between: a signature, a method and a mapped type are scopes, an object
type and a tuple are none.

A name that `infer` introduces is bound when the walk comes to it, and nothing
unbinds it before the innermost scope ends. A conditional type is no scope.
-/

namespace Prune.Script

open Prune.Scope

/-! ## Actions that cannot be told apart outside of targets -/

/-- Two lists of actions that find the same and bind the same outside of
targets, whatever is bound around them. -/
structure Alike (first second : List Action) : Prop where
  found : ∀ bound,
    actionsFree false bound first = actionsFree false bound second
  binds : ∀ bound, actionsBind bound first = actionsBind bound second

namespace Alike

variable {first second rest other : List Action}

theorem refl (actions : List Action) : Alike actions actions :=
  ⟨fun _ => rfl, fun _ => rfl⟩

theorem append (h : Alike first second) (hrest : Alike rest other) :
    Alike (first ++ rest) (second ++ other) where
  found bound := by
    rw [actionsFree_append, actionsFree_append, h.found, h.binds, hrest.found]
  binds bound := by
    rw [actionsBind_append, actionsBind_append, h.binds, hrest.binds]

/-- Outside of a target one name in a pattern is as good as another. -/
theorem binder (name new : String) : Alike [.binder name] [.binder new] :=
  ⟨fun _ => rfl, fun _ => rfl⟩

theorem scope (h : Alike first second) :
    Alike [.scope first] [.scope second] where
  found bound := congrArg (· ++ []) (h.found bound)
  binds _ := rfl

/-- A scope is no part of the target around it. -/
theorem finds_scope (h : Alike first second) (collector : Collector) :
    collector.finds [.scope first] = collector.finds [.scope second] := by
  rw [Collector.finds_scope, Collector.finds_scope,
    Collector.finds_eq (Collector.enter_open collector),
    Collector.finds_eq (Collector.enter_open collector)]
  exact h.found _

theorem finds (h : Alike first second) {collector : Collector}
    (hopen : collector.scopes ≠ []) (htarget : collector.isAssigning = false) :
    collector.finds first = collector.finds second := by
  rw [Collector.finds_eq hopen, Collector.finds_eq hopen, htarget, h.found]

end Alike

/-! ## Other names -/

mutual

/-- A type with other names for what is local to it: for labels, for the keys of
index signatures, and for the parameters of signatures, methods and setters. -/
def TypeTerm.renamed (rename : String → String) : TypeTerm → TypeTerm
  | .absent => .absent
  | .plain => .plain
  | .named root arguments => .named root (typesRenamed rename arguments)
  | .query root arguments => .query root (typesRenamed rename arguments)
  | .compound parts => .compound (typesRenamed rename parts)
  | .conditional check extended yes no =>
      .conditional (check.renamed rename) (extended.renamed rename)
        (yes.renamed rename)
        (no.renamed rename)
  | .infer param => .infer (param.renamed rename)
  | .labelled label type => .labelled (rename label) (type.renamed rename)
  | .signature typeParams params result =>
      .signature (typesRenamed rename typeParams)
        (patternsRenamed rename params)
        (result.renamed rename)
  | .object members => .object (typesRenamed rename members)
  | .mapped param renamed value =>
      .mapped (param.renamed rename) (renamed.renamed rename)
        (value.renamed rename)
  | .predicate subject type => .predicate subject (type.renamed rename)
  | .parameter name constraint default =>
      .parameter name (constraint.renamed rename) (default.renamed rename)
  | .property key type => .property key (type.renamed rename)
  | .setter key param => .setter key (param.renamed rename)
  | .method key typeParams params result =>
      .method key (typesRenamed rename typeParams)
        (patternsRenamed rename params)
        (result.renamed rename)
  | .index params type =>
      .index (patternsRenamed rename params) (type.renamed rename)

def typesRenamed (rename : String → String) : List TypeTerm → List TypeTerm
  | [] => []
  | type :: rest => type.renamed rename :: typesRenamed rename rest

/-- A pattern with other names. What it contains of expressions stays as it
is. -/
def Pattern.renamed (rename : String → String) : Pattern → Pattern
  | .absent => .absent
  | .identifier span name type =>
      .identifier span (rename name) (type.renamed rename)
  | .array span elements type =>
      .array span (patternsRenamed rename elements) (type.renamed rename)
  | .object span properties type =>
      .object span (patternsRenamed rename properties) (type.renamed rename)
  | .rest span target type =>
      .rest span (target.renamed rename) (type.renamed rename)
  | .withDefault span target value =>
      .withDefault span (target.renamed rename) value
  | .keyed span key target => .keyed span key (target.renamed rename)
  | .shorthand span name default => .shorthand span (rename name) default
  | .decorated decorators param => .decorated decorators (param.renamed rename)
  | .expression value => .expression value
  | .invalid span => .invalid span

def patternsRenamed (rename : String → String) : List Pattern → List Pattern
  | [] => []
  | pattern :: rest => pattern.renamed rename :: patternsRenamed rename rest

end

section

variable (rename : String → String)

mutual

theorem TypeTerm.alike_renamed (type : TypeTerm) :
    Alike (type.renamed rename).actions type.actions := by
  match type with
  | .absent | .plain => exact .refl _
  | .named root arguments | .query root arguments =>
      exact (Alike.refl [.use root]).append (alike_typesRenamed arguments)
  | .compound parts | .object parts => exact alike_typesRenamed parts
  | .conditional check extended yes no =>
      exact ((check.alike_renamed.append extended.alike_renamed).append
        yes.alike_renamed).append
        no.alike_renamed
  | .infer param => exact param.alike_renamed
  | .labelled label type =>
      exact (Alike.binder (rename label) label).append type.alike_renamed
  | .signature typeParams params result =>
      exact (((alike_typesRenamed typeParams).append
        (alike_patternsRenamed params)).append
        result.alike_renamed).scope
  | .mapped param renamed value =>
      exact ((param.alike_renamed.append renamed.alike_renamed).append
        value.alike_renamed).scope
  | .predicate none type => exact type.alike_renamed
  | .predicate (some name) type =>
      exact (Alike.refl [.use name]).append type.alike_renamed
  | .parameter name constraint default =>
      exact ((Alike.refl [.bind [name]]).append constraint.alike_renamed).append
        default.alike_renamed
  | .property key type =>
      exact (Alike.refl key.actions).append type.alike_renamed
  | .setter key param =>
      exact (Alike.refl key.actions).append param.alike_renamed
  | .method key typeParams params result =>
      exact ((((Alike.refl key.actions).append
        (alike_typesRenamed typeParams)).append
        (alike_patternsRenamed params)).append result.alike_renamed).scope
  | .index params type =>
      exact (alike_patternsRenamed params).append type.alike_renamed

theorem alike_typesRenamed (types : List TypeTerm) :
    Alike (typeActions (typesRenamed rename types)) (typeActions types) := by
  match types with
  | [] => exact .refl _
  | type :: rest => exact type.alike_renamed.append (alike_typesRenamed rest)

theorem Pattern.alike_renamed (pattern : Pattern) :
    Alike (pattern.renamed rename).actions pattern.actions := by
  match pattern with
  | .absent | .expression _ | .invalid _ => exact .refl _
  | .identifier _ name type =>
      exact (Alike.binder (rename name) name).append type.alike_renamed
  | .array _ parts type | .object _ parts type =>
      exact (alike_patternsRenamed parts).append type.alike_renamed
  | .rest _ target type => exact target.alike_renamed.append type.alike_renamed
  | .withDefault _ target value =>
      exact target.alike_renamed.append (.refl value.actions)
  | .keyed _ key target =>
      exact (Alike.refl key.actions).append target.alike_renamed
  | .shorthand _ name default =>
      exact (Alike.binder (rename name) name).append (.refl default.actions)
  | .decorated decorators param =>
      exact (Alike.refl (exprActions decorators)).append param.alike_renamed

theorem alike_patternsRenamed (patterns : List Pattern) :
    Alike (patternActions (patternsRenamed rename patterns))
      (patternActions patterns) := by
  match patterns with
  | [] => exact .refl _
  | pattern :: rest =>
      exact pattern.alike_renamed.append (alike_patternsRenamed rest)

end

end

/-! ## Signatures, targets and conditional types -/

section

variable {collector : Collector}

/-- Parameters of a signature are walked, and bind nothing. -/
theorem finds_params (hopen : collector.scopes ≠ [])
    (typeParams : List TypeTerm) (params : List Pattern) (result : TypeTerm) :
    collector.finds
      (typeActions typeParams ++ patternActions params ++ result.actions) =
      collector.finds (typeActions typeParams) ++
        without (typesSpill typeParams)
          (collector.finds (patternActions params)) ++
        without (typesSpill typeParams ++ patternsSpill params)
          (collector.finds result.actions) := by
  rw [Collector.finds_row hopen, Collector.finds_row hopen, actionsSpill_append,
    spill_typeActions, spill_patternActions]

/-- In a target a name in a pattern is an occurrence. -/
theorem finds_binder (collector : Collector) (hopen : collector.scopes ≠ [])
    (htarget : collector.isAssigning = true) (name : String)
    (rest : List Action) :
    collector.finds (.binder name :: rest) =
      (if collector.isBound name then [] else [name]) ++
        collector.finds rest := by
  change collector.finds ([.binder name] ++ rest) = _
  rw [Collector.finds_row hopen, Collector.finds_binder htarget]
  exact congrArg _ (without_nil _)

end

/-- What a walk finds of the names that are local to types, wherever it comes to
them.

Outside of targets labels, keys of index signatures and parameters may have any
names; and so they may anywhere in a signature, a method or a mapped type. In
particular the parameters of a signature are not bound in its result type: of
what that finds only the type parameters are missing, and what an `infer` has
left bound.

In a target that is an array or an object, and so in a default value in it, a
label or a key is found unless it is bound.

What a type leaves bound, which are the names of its `infer`s, is not found in
all that follows it in the scope around it, whether the type is a conditional
type or contains one; and it is found behind that scope. -/
theorem finds_inTypes (collector : Collector) (hopen : collector.scopes ≠ []) :
    let outside := { collector with isAssigning := false }
    let target := { collector with isAssigning := true }
    (∀ rename type,
      outside.finds (TypeTerm.renamed rename type).actions =
        outside.finds type.actions) ∧
    (∀ rename typeParams params result,
      let signature := TypeTerm.signature typeParams params result
      collector.finds (signature.renamed rename).actions = collector.finds
        signature.actions ∧
        collector.finds signature.actions =
          collector.enter.finds (typeActions typeParams) ++
            without (typesSpill typeParams)
              (collector.enter.finds (patternActions params)) ++
            without (typesSpill typeParams ++ patternsSpill params)
              (collector.enter.finds result.actions)) ∧
    (∀ rename key typeParams params result,
      let method := TypeTerm.method key typeParams params result
      collector.finds (method.renamed rename).actions = collector.finds
        method.actions ∧
        collector.finds method.actions =
          collector.enter.finds key.actions ++ without key.spills
            (collector.enter.finds (typeActions typeParams) ++
              without (typesSpill typeParams)
                (collector.enter.finds (patternActions params)) ++
              without (typesSpill typeParams ++ patternsSpill params)
                (collector.enter.finds result.actions))) ∧
    (∀ rename param renamed value,
      let mapped := TypeTerm.mapped param renamed value
      collector.finds (mapped.renamed rename).actions =
        collector.finds mapped.actions) ∧
    (∀ span parts type,
      collector.finds (Pattern.array span parts type).targetActions =
          target.finds (patternActions parts ++ type.actions) ∧
        collector.finds (Pattern.object span parts type).targetActions =
          target.finds (patternActions parts ++ type.actions)) ∧
    (∀ label type, target.finds (TypeTerm.labelled label type).actions =
      (if collector.isBound label then [] else [label]) ++
        target.finds type.actions) ∧
    (∀ span key keyType type,
      target.finds
        (TypeTerm.index [.identifier span key keyType] type).actions =
        (if collector.isBound key then [] else [key]) ++
          target.finds (keyType.actions ++ type.actions)) ∧
    (∀ type rest, collector.finds (TypeTerm.actions type ++ rest) =
      collector.finds type.actions ++
        without type.spills (collector.finds rest)) ∧
    ∀ before type rest after,
      let body := before ++ TypeTerm.actions type ++ rest
      collector.finds ([.scope body] ++ after) =
        collector.enter.finds body ++ collector.finds after := by
  intro outside target
  have hinner := Collector.enter_open collector
  refine ⟨fun rename type => (type.alike_renamed rename).finds hopen rfl,
    fun rename typeParams params result => ⟨?_, ?_⟩,
    fun rename key typeParams params result =>
      ⟨?_, ?_⟩, fun rename param renamed value => ?_,
    fun span parts type => ⟨rfl, rfl⟩, fun label type =>
      ?_, fun span key keyType type => ?_,
    fun type rest => ?_, fun before type rest after =>
      Collector.finds_scope_append hopen _ after⟩
  · exact (((alike_typesRenamed rename typeParams).append
      (alike_patternsRenamed rename params)).append
      (result.alike_renamed rename)).finds_scope collector
  · exact finds_params hinner typeParams params result
  · exact ((((Alike.refl key.actions).append
      (alike_typesRenamed rename typeParams)).append
      (alike_patternsRenamed rename params)).append
      (result.alike_renamed rename)).finds_scope collector
  · change collector.enter.finds
      (key.actions ++ typeActions typeParams ++ patternActions params ++
        result.actions) = _
    rw [List.append_assoc, List.append_assoc, Collector.finds_row hinner,
      key.spill_actions, ← List.append_assoc, finds_params hinner]
  · exact (((param.alike_renamed rename).append
      (renamed.alike_renamed rename)).append
      (value.alike_renamed rename)).finds_scope collector
  · exact finds_binder target hopen rfl label type.actions
  · change target.finds
      (.binder key :: (keyType.actions ++ [] ++ type.actions)) = _
    rw [List.append_nil]
    exact finds_binder target hopen rfl key _
  · rw [Collector.finds_row hopen, type.spill_actions]

/-- `(x) => x is A` -/
def guardType : TypeTerm :=
  .signature [] [.identifier ⟨0, 0⟩ "x" .absent]
    (.predicate (some "x") (.named "A" []))

/-- `A extends infer I ? 1 : 2` -/
def inferringType : TypeTerm :=
  .conditional (.named "A" []) (.infer (.parameter "I" .absent .absent))
    .plain .plain

theorem finds_inTypes_guard :
    Collector.start.scopes ≠ [] ∧
      Collector.start.finds guardType.actions = ["x", "A"] ∧
      Collector.finds { Collector.start with isAssigning := true }
        (TypeTerm.labelled "l" (.named "B" [])).actions = ["l", "B"] ∧
      Collector.start.finds
        (inferringType.actions ++ (TypeTerm.named "I" []).actions) = ["A"] := by
  have hopen : Collector.start.scopes ≠ [] := List.cons_ne_nil _ _
  obtain ⟨-, hsignature, -, -, -, hlabelled, -, hrow, -⟩ :=
    finds_inTypes .start hopen
  refine ⟨hopen, ?_, ?_, ?_⟩
  · rw [guardType, (hsignature id _ _ _).2]
    decide
  · rw [hlabelled]
    decide
  · rw [hrow]
    decide

/-- A parameter that a type predicate is about is found, and so is a label in a
default value of a target; and the name of an `infer` is not found behind its
conditional type. -/
theorem leaks_of_types :
    (Module.ofText .default "/a.ts"
      "type F=(x:any)=>x is A;[a=b as[l:B]]=c;type G=[A extends infer I?1:2,I]"
      true 0).toOption.map
      (fun module => (module.declarations.values.map Declaration.references,
        module.statements.map Statement.references)) =
    some ([[.named "x", .named "A"], [.named "A"]],
      [[.named "a", .named "b", .named "l", .named "B", .named "c"]]) := by
  decide +kernel

end Prune.Script
