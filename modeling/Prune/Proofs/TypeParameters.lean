import Prune.Dissection
import Prune.Proofs.Spills

/-!
# Lists of type parameters

Type parameters may be constrained by each other in any order:
`<T extends U, U>` is one scope. The walk reads the list from left to right and
binds each parameter when it comes to it, in the scope of whatever carries the
list. So a parameter is not found in its own constraint and default, in what
comes after it in the list, and in the rest of the carrier; but it is found
where a parameter before it mentions it.

The order of the list matters for nothing else. The rest of the carrier finds
the same for every order, and the list finds the same names as often, apart from
those that it binds itself (`perm_without_finds`). Hence two orders of one list
find the same, up to order, exactly if they find the same occurrences of the
names of the list, which is the case when nothing is mentioned before it is
declared.

The ten forms that carry such a list are seven here: the types of functions and
of constructors and the signatures of calls and of constructors are one tree.
-/

namespace Prune.Script

open Prune.Scope

/-- A type parameter, taken apart. -/
structure TypeParam where
  name : String
  constraint : TypeTerm
  default : TypeTerm

namespace TypeParam

def term (param : TypeParam) : TypeTerm :=
  .parameter param.name param.constraint param.default

/-- What is looked at once the name is bound. -/
def inside (param : TypeParam) : List Action :=
  param.constraint.actions ++ param.default.actions

end TypeParam

def typeTerms (typeParams : List TypeParam) : List TypeTerm :=
  typeParams.map TypeParam.term

/-- Where some names aside the same is found up to order, it is these names that
decide. -/
theorem perm_iff_of_without {names first second : List String}
    (h : (without names first).Perm (without names second)) :
    first.Perm second ↔
      (first.filter fun name => name ∈ names).Perm
        (second.filter fun name => name ∈ names) := by
  simp only [without, decide_not] at h
  refine ⟨fun hperm => hperm.filter _, fun hperm => ?_⟩
  exact (List.filter_append_perm _ _).symm.trans
    ((hperm.append h).trans (List.filter_append_perm _ _))

/-! ## The list -/

theorem typeActions_eq_flatten (types : List TypeTerm) :
    typeActions types = (types.map TypeTerm.actions).flatten := by
  induction types with
  | nil => rfl
  | cons type rest ih => rw [typeActions, ih, List.map_cons, List.flatten_cons]

theorem typeActions_typeTerms (typeParams : List TypeParam) :
    typeActions (typeTerms typeParams) =
      (typeParams.map fun param => param.term.actions).flatten := by
  rw [typeActions_eq_flatten, typeTerms, List.map_map]
  rfl

theorem typesSpill_eq_flatMap (types : List TypeTerm) :
    typesSpill types = types.flatMap TypeTerm.spills := by
  induction types with
  | nil => rfl
  | cons type rest ih => rw [typesSpill, ih, List.flatMap_cons]

theorem mem_typesSpill_of_perm {types other : List TypeTerm}
    (h : types.Perm other) (name : String) :
    name ∈ typesSpill types ↔ name ∈ typesSpill other := by
  rw [typesSpill_eq_flatMap, typesSpill_eq_flatMap]
  exact (h.flatMap_right TypeTerm.spills).mem_iff

theorem name_mem_typesSpill {typeParams : List TypeParam} {name : String}
    (h : name ∈ typeParams.map TypeParam.name) :
    name ∈ typesSpill (typeTerms typeParams) := by
  obtain ⟨param, hparam, rfl⟩ := List.mem_map.mp h
  rw [typesSpill_eq_flatMap]
  exact List.mem_flatMap.mpr
    ⟨param.term, List.mem_map_of_mem hparam, List.mem_cons_self⟩

section

variable {collector : Collector}

theorem finds_term (hopen : collector.scopes ≠ []) (param : TypeParam) :
    collector.finds param.term.actions =
      without [param.name] (collector.finds param.inside) :=
  Collector.finds_bound hopen [param.name] param.inside

/-- A name is found in a list if a parameter mentions it before it is bound. -/
theorem mem_finds_typeTerms (hopen : collector.scopes ≠ [])
    (typeParams : List TypeParam) (name : String) :
    name ∈ collector.finds (typeActions (typeTerms typeParams)) ↔
      ∃ front param back, typeParams = front ++ param :: back ∧
        name ∈ collector.finds param.inside ∧
        name ∉ typesSpill (typeTerms front) ++ [param.name] := by
  rw [typeActions_typeTerms, Collector.mem_finds_map hopen]
  refine exists_congr fun front => exists_congr fun param =>
    exists_congr fun back =>
      and_congr_right fun _ => ?_
  rw [finds_term hopen, mem_without, ← typeActions_typeTerms, spill_typeActions,
    List.mem_append, not_or, and_assoc]
  exact and_congr_right' and_comm

/-- Another order of a list finds the same, apart from the names that the list
leaves bound. -/
theorem perm_without_finds (hopen : collector.scopes ≠ [])
    {types other : List TypeTerm} (h : types.Perm other) {names : List String}
    (hnames : typesSpill types ⊆ names) :
    (without names (collector.finds (typeActions types))).Perm
      (without names (collector.finds (typeActions other))) := by
  have hother : typesSpill other ⊆ names := fun name hname =>
    hnames ((mem_typesSpill_of_perm h name).mpr hname)
  have hrow : ∀ types : List TypeTerm, typesSpill types ⊆ names →
      without names (collector.finds (typeActions types)) =
        (types.map TypeTerm.actions).flatMap fun step =>
          without names (collector.finds step) := by
    intro types htypes
    rw [← spill_typeActions, typeActions_eq_flatten] at htypes
    rw [typeActions_eq_flatten, Collector.without_finds_flatten hopen _ htypes]
  rw [hrow types hnames, hrow other hother]
  exact (h.map TypeTerm.actions).flatMap_right _

end

/-! ## Carriers -/

/-- A tree with a place for a list of type parameters. -/
inductive Carrier where
  | function (decorators : List Expr) (params : List Pattern)
      (result : TypeTerm) (body : Body)
  | arrow (span : Span) (params : List Pattern) (result : TypeTerm)
      (body : Body)
  | classBody (decorators : List Expr) (extended : Expr)
      (extendedArguments : List TypeTerm)
      (implemented : List Expr) (members : List Member)
  | interface (name : String) (extended : List Expr) (members : List TypeTerm)
      (ambient : Bool)
  | typeAlias (name : String) (type : TypeTerm) (ambient : Bool)
  /-- The type of a function or a constructor, or a signature of either in an
  object type. -/
  | signature (params : List Pattern) (result : TypeTerm)
  | method (key : Expr) (params : List Pattern) (result : TypeTerm)

namespace Carrier

/-- The actions of a carrier with its list. -/
def actions (typeParams : List TypeTerm) : Carrier → List Action
  | function decorators params result body =>
      (Function.mk typeParams decorators params result body).actions
  | arrow span params result body =>
      (Expr.arrow span typeParams params result body).actions
  | classBody decorators extended extendedArguments implemented members =>
      (Class.mk typeParams decorators extended extendedArguments implemented
        members).actions
  | interface name extended members ambient =>
      (Stmt.interface name typeParams extended members ambient).actions
  | typeAlias name type ambient =>
      (Stmt.typeAlias name typeParams type ambient).actions
  | signature params result =>
      (TypeTerm.signature typeParams params result).actions
  | method key params result =>
      (TypeTerm.method key typeParams params result).actions

/-- What comes before the list in the scope of a carrier. -/
def before : Carrier → List Action
  | function _ _ _ _ => [.bind ["arguments"]]
  | method key _ _ => key.actions
  | _ => []

/-- What comes after the list. -/
def after : Carrier → List Action
  | function decorators params result body =>
      .bind (patternNames params) ::
        (exprActions decorators ++ patternActions params ++ result.actions ++
          body.actions)
  | arrow _ params result body =>
      .bind (patternNames params) ::
        (patternActions params ++ result.actions ++ body.actions)
  | classBody decorators extended extendedArguments implemented members =>
      exprActions decorators ++
        (extended.actions ++ (typeActions extendedArguments ++
          (exprActions implemented ++ memberActions members)))
  | interface _ extended members _ =>
      exprActions extended ++ typeActions members
  | typeAlias _ type _ => type.actions
  | signature params result | method _ params result =>
      patternActions params ++ result.actions

theorem actions_eq (carrier : Carrier) (typeParams : List TypeTerm) :
    carrier.actions typeParams =
      [.scope
        (carrier.before ++ (typeActions typeParams ++ carrier.after))] := by
  cases carrier with
  | function _ _ _ _ | arrow _ _ _ _ | typeAlias _ _ _ => rfl
  | classBody decorators extended extendedArguments implemented members =>
      change [Action.scope
        (typeActions typeParams ++ exprActions decorators ++ extended.actions ++
          typeActions extendedArguments ++ exprActions implemented ++
          memberActions members)] = _
      rw [List.append_assoc, List.append_assoc, List.append_assoc,
        List.append_assoc]
      rfl
  | interface _ extended members _ =>
      change [Action.scope
        (typeActions typeParams ++ exprActions extended ++
          typeActions members)] = _
      rw [List.append_assoc]
      rfl
  | signature params result =>
      change [Action.scope
        (typeActions typeParams ++ patternActions params ++ result.actions)] = _
      rw [List.append_assoc]
      rfl
  | method key params result =>
      change [Action.scope
        (key.actions ++ typeActions typeParams ++ patternActions params ++
          result.actions)] = _
      rw [List.append_assoc, List.append_assoc]
      rfl

/-- What is found in the list of a carrier. -/
def listed (carrier : Carrier) (collector : Collector)
    (typeParams : List TypeParam) : List String :=
  without (actionsSpill carrier.before)
    (collector.enter.finds (typeActions (typeTerms typeParams)))

/-- What is found in the rest of a carrier. -/
def remaining (carrier : Carrier) (collector : Collector)
    (typeParams : List TypeParam) :
    List String :=
  without (actionsSpill carrier.before ++ typesSpill (typeTerms typeParams))
    (collector.enter.finds carrier.after)

/-- The occurrences in a list that come too early: what they name is bound later
in the list. -/
def early (carrier : Carrier) (collector : Collector)
    (typeParams : List TypeParam) : List String :=
  (carrier.listed collector typeParams).filter fun name =>
    name ∈ typesSpill (typeTerms typeParams)

theorem finds_actions (carrier : Carrier) (collector : Collector)
    (typeParams : List TypeParam) :
    collector.finds (carrier.actions (typeTerms typeParams)) =
      collector.enter.finds carrier.before ++
        carrier.listed collector typeParams ++
        carrier.remaining collector typeParams := by
  have hopen := Collector.enter_open collector
  rw [carrier.actions_eq, Collector.finds_scope, Collector.finds_row hopen,
    Collector.finds_row hopen, spill_typeActions, without_append,
    without_without, listed, remaining, List.append_assoc]

theorem remaining_of_perm (carrier : Carrier) (collector : Collector)
    {typeParams other : List TypeParam} (h : typeParams.Perm other) :
    carrier.remaining collector typeParams =
      carrier.remaining collector other := by
  have hterms : (typeTerms typeParams).Perm (typeTerms other) :=
    h.map TypeParam.term
  refine without_congr (fun name => ?_) _
  rw [List.mem_append, List.mem_append, mem_typesSpill_of_perm hterms]

/-- Apart from what comes too early, another order of a list finds the same. -/
theorem listed_perm_iff (carrier : Carrier) (collector : Collector)
    {typeParams other : List TypeParam} (h : typeParams.Perm other) :
    (carrier.listed collector typeParams).Perm
      (carrier.listed collector other) ↔
      (carrier.early collector typeParams).Perm
        (carrier.early collector other) := by
  have hterms : (typeTerms typeParams).Perm (typeTerms other) :=
    h.map TypeParam.term
  have hearly : carrier.early collector other =
      (carrier.listed collector other).filter fun name =>
        name ∈ typesSpill (typeTerms typeParams) :=
    List.filter_congr fun name _ =>
      decide_eq_decide.mpr (mem_typesSpill_of_perm hterms name).symm
  have hnames : typesSpill (typeTerms typeParams) ⊆
      typesSpill (typeTerms typeParams) ++ actionsSpill carrier.before :=
    List.subset_append_left _ _
  have hothers :=
    perm_without_finds (Collector.enter_open collector) hterms hnames
  rw [← without_without, ← without_without] at hothers
  rw [hearly]
  exact perm_iff_of_without hothers

end Carrier

/-- What a walk finds in a tree that carries a list of type parameters, wherever
it comes to it. The list is walked in a scope of the carrier, and what it binds
is not found in the rest of it. In the list itself the name of a parameter is
found exactly if the constraint or the default of a parameter before it mentions
it, unless it is bound by then for another reason.

If the parameters are written in another order, the same is found up to order
exactly if the same is found too early. -/
theorem finds_typeParameters (collector : Collector) (carrier : Carrier)
    (typeParams : List TypeParam) :
    collector.finds (carrier.actions (typeTerms typeParams)) =
        collector.enter.finds carrier.before ++
          carrier.listed collector typeParams ++
          carrier.remaining collector typeParams ∧
      (∀ name ∈ typeParams.map TypeParam.name,
        name ∉ carrier.remaining collector typeParams ∧
        (name ∈ carrier.listed collector typeParams ↔
          ∃ front param back, typeParams = front ++ param :: back ∧
            name ∈ collector.enter.finds param.inside ∧
            name ∉ actionsSpill carrier.before ++
              typesSpill (typeTerms front) ++ [param.name])) ∧
      ∀ other, typeParams.Perm other →
        ((collector.finds (carrier.actions (typeTerms typeParams))).Perm
            (collector.finds (carrier.actions (typeTerms other))) ↔
          (carrier.early collector typeParams).Perm
            (carrier.early collector other)) := by
  refine ⟨carrier.finds_actions collector typeParams,
    fun name hname => ⟨fun h => ?_, ?_⟩, fun other hperm => ?_⟩
  · exact (mem_without.mp h).2
      (List.mem_append_right _ (name_mem_typesSpill hname))
  · rw [Carrier.listed, mem_without,
      mem_finds_typeTerms (Collector.enter_open collector)]
    constructor
    · rintro ⟨⟨front, param, back, hrow, hparam, hbound⟩, hbefore⟩
      rw [List.mem_append, not_or] at hbound
      exact ⟨front, param, back, hrow, hparam,
        List.not_mem_append (List.not_mem_append hbefore hbound.1) hbound.2⟩
    · rintro ⟨front, param, back, hrow, hparam, hbound⟩
      rw [List.append_assoc, List.mem_append, not_or] at hbound
      exact ⟨⟨front, param, back, hrow, hparam, hbound.2⟩, hbound.1⟩
  · rw [carrier.finds_actions, carrier.finds_actions,
      carrier.remaining_of_perm collector hperm, List.perm_append_right_iff,
      List.perm_append_left_iff]
    exact carrier.listed_perm_iff collector hperm

/-- `T extends U` -/
def laterT : TypeParam := ⟨"T", .named "U" [], .absent⟩

def laterU : TypeParam := ⟨"U", .absent, .absent⟩

theorem finds_typeParameters_later :
    let carrier := Carrier.typeAlias "A" (.named "T" []) false
    "U" ∈ [laterT, laterU].map TypeParam.name ∧
      "U" ∈ carrier.listed .start [laterT, laterU] ∧
      [laterT, laterU].Perm [laterU, laterT] ∧
      ¬ (Collector.start.finds
        (carrier.actions (typeTerms [laterT, laterU]))).Perm
        (Collector.start.finds
          (carrier.actions (typeTerms [laterU, laterT]))) := by
  intro carrier
  have hname : "U" ∈ [laterT, laterU].map TypeParam.name := by decide
  have hperm : [laterT, laterU].Perm [laterU, laterT] :=
    List.Perm.swap laterU laterT []
  obtain ⟨-, hlisted, horders⟩ :=
    finds_typeParameters .start carrier [laterT, laterU]
  refine ⟨hname, (hlisted "U" hname).2.mpr ?_, hperm, fun h => ?_⟩
  · exact ⟨[], laterT, [laterU], rfl, by decide, by decide⟩
  · exact absurd ((horders _ hperm).mp h) (by decide)

/-- A parameter that is mentioned before it is declared is found. -/
theorem leak_of_later_parameter :
    (Module.ofText .default "/a.ts" "type A<T extends U,U>=T" true
      0).toOption.map
      (fun module => module.declarations.values.map Declaration.references) =
    some [[.named "U"]] := by
  decide +kernel

end Prune.Script
