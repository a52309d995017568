import Prune.Dissection
import Prune.Proofs.Spills

/-!
# Keys and decorators of members

A computed key, the decorators of a method and those of a parameter are
evaluated where the class or the object stands, before there are any arguments.
The walk does not treat them alike. The key of a method, of an accessor of a
class and of a getter is walked in the scopes around the member. The decorators
of a method or a parameter and the key of a setter are walked in the scope of
the parameters, so that they lose every occurrence of a parameter, and in a
method of `arguments` and of a type parameter as well; in a constructor, of
`arguments` and of a parameter.

The laws below say so for each kind of member, and what the scopes around a
member are: the names that a class leaves bound before its members, its type
parameters among them, and what the members before leave bound. Which names a
member hides from its own decorators is all that a law depends on, so each of
them is the same two steps: the scope is opened, and what it binds at its start
is filtered out.
-/

namespace Prune.Script

open Prune.Scope

theorem memberActions_append (front back : List Member) :
    memberActions (front ++ back) =
      memberActions front ++ memberActions back := by
  induction front with
  | nil => rfl
  | cons member rest ih =>
      rw [List.cons_append, memberActions, memberActions, ih, List.append_assoc]

theorem patternActions_append (front back : List Pattern) :
    patternActions (front ++ back) =
      patternActions front ++ patternActions back := by
  induction front with
  | nil => rfl
  | cons pattern rest ih =>
      rw [List.cons_append, patternActions, patternActions, ih,
        List.append_assoc]

section

variable {collector : Collector}

/-! ## Members where they stand -/

theorem finds_among_members (hopen : collector.scopes ≠ [])
    (front : List Member) (member : Member) (back : List Member) :
    collector.finds (memberActions (front ++ member :: back)) =
      collector.finds (memberActions front) ++
        without (membersSpill front) (collector.finds member.actions ++
          without member.spills (collector.finds (memberActions back))) := by
  rw [memberActions_append, Collector.finds_row hopen, spill_memberActions,
    memberActions, Collector.finds_row hopen, member.spill_actions]

/-- A class is a scope, in which its type parameters are bound. -/
theorem finds_class (collector : Collector) (typeParams : List TypeTerm)
    (decorators : List Expr) (extended : Expr)
    (extendedArguments : List TypeTerm) (implemented : List Expr)
    (members : List Member) :
    collector.finds
        (Class.mk typeParams decorators extended extendedArguments implemented
          members).actions =
      collector.enter.finds
        (typeActions typeParams ++ exprActions decorators ++ extended.actions ++
          typeActions extendedArguments ++ exprActions implemented) ++
        without
          (typesSpill typeParams ++ exprsSpill decorators ++ extended.spills ++
            typesSpill extendedArguments ++ exprsSpill implemented)
          (collector.enter.finds (memberActions members)) := by
  change collector.enter.finds (_ ++ memberActions members) = _
  rw [Collector.finds_row (Collector.enter_open collector)]
  simp only [actionsSpill_append, spill_typeActions, spill_exprActions,
    Expr.spill_actions]

/-- The decorators of a parameter are one more thing that is walked among the
parameters. -/
theorem finds_decorated (hopen : collector.scopes ≠ []) (front : List Pattern)
    (decorators : List Expr) (param : Pattern) (back : List Pattern) :
    collector.finds
      (patternActions (front ++ .decorated decorators param :: back)) =
      collector.finds (patternActions front) ++
        without (patternsSpill front)
          (collector.finds (exprActions decorators) ++
            without (exprsSpill decorators)
              (collector.finds (param.actions ++ patternActions back))) := by
  rw [patternActions_append, Collector.finds_row hopen, spill_patternActions]
  change _ ++ without
    _ (collector.finds (exprActions decorators ++ param.actions ++ _)) = _
  rw [List.append_assoc, Collector.finds_row hopen, spill_exprActions]

/-! ## The scopes of members -/

theorem finds_function (collector : Collector) (typeParams : List TypeTerm)
    (decorators : List Expr) (params : List Pattern) (result : TypeTerm)
    (body : Body) :
    collector.finds
      (Function.mk typeParams decorators params result body).actions =
      without ["arguments"] (collector.enter.finds (typeActions typeParams)) ++
        without ("arguments" :: typesSpill typeParams ++ patternNames params)
          (collector.enter.finds
            (exprActions decorators ++ patternActions params ++
              result.actions ++ body.actions)) := by
  have hopen := Collector.enter_open collector
  change collector.enter.finds
    (.bind ["arguments"] :: (typeActions typeParams ++
      .bind (patternNames params) :: _)) = _
  rw [Collector.finds_bound hopen, Collector.finds_row hopen,
    Collector.finds_bound hopen, spill_typeActions, without_append,
    without_without, without_without]
  rfl

theorem finds_constructor (collector : Collector) (span : Span) (key : Expr)
    (params : List Pattern) (body : Body) :
    collector.finds (Member.constructor span key params body).actions =
      without ("arguments" :: patternNames params)
        (collector.enter.finds
          (key.actions ++ patternActions params ++ body.actions)) := by
  have hopen := Collector.enter_open collector
  change collector.enter.finds
    (.bind ["arguments"] :: .bind (patternNames params) :: _) = _
  rw [Collector.finds_bound hopen, Collector.finds_bound hopen, without_without]
  rfl

end

/-- What a walk finds in the members of a class or an object, wherever it comes
to them.

A member is walked in the scopes around the class or the object, and among them
is that of the class. Of a method the computed key is walked there, and so is
that of a getter, whatever the method binds. The decorators of a method are
walked with its parameters, its result and its body: `arguments`, its type
parameters and its parameters are not found in any of them. In a constructor
this goes for the decorators of the parameters, and in a setter of an object for
its key. -/
theorem finds_members (collector : Collector) (hopen : collector.scopes ≠ []) :
    (∀ typeParams decorators extended extendedArguments implemented front
        member back,
      collector.finds
        (Class.mk typeParams decorators extended extendedArguments implemented
          (front ++ member :: back)).actions =
        collector.enter.finds
          (typeActions typeParams ++ exprActions decorators ++
            extended.actions ++
            typeActions extendedArguments ++ exprActions implemented) ++
          without
            (typesSpill typeParams ++ exprsSpill decorators ++
              extended.spills ++
              typesSpill extendedArguments ++ exprsSpill implemented)
            (collector.enter.finds (memberActions front) ++
              without (membersSpill front)
                (collector.enter.finds member.actions ++
                  without member.spills
                    (collector.enter.finds (memberActions back))))) ∧
    (∀ span front member back,
      collector.finds (Expr.object span (front ++ member :: back)).actions =
        collector.finds (memberActions front) ++
          without (membersSpill front) (collector.finds member.actions ++
            without member.spills (collector.finds (memberActions back)))) ∧
    (∀ span key typeParams decorators params result body,
      collector.finds (Member.method span key
          (.mk typeParams decorators params result body)).actions =
        collector.finds key.actions ++ without key.spills
          (without ["arguments"]
            (collector.enter.finds (typeActions typeParams)) ++
            without
              ("arguments" :: typesSpill typeParams ++ patternNames params)
              (collector.enter.finds
                (exprActions decorators ++ patternActions params ++
                  result.actions ++ body.actions)))) ∧
    (∀ span key type body,
      collector.finds (Member.getter span key type body).actions =
        collector.finds key.actions ++ without key.spills
          (collector.finds (type.actions ++ (Stmt.block body).actions))) ∧
    (∀ span key params body,
      collector.finds (Member.constructor span key params body).actions =
        without ("arguments" :: patternNames params)
          (collector.enter.finds
            (key.actions ++ patternActions params ++ body.actions))) ∧
    (∀ span key param body,
      collector.finds (Member.setter span key param body).actions =
        without param.names
          (collector.enter.finds
            (key.actions ++ param.actions ++ (Body.block body).actions))) ∧
    ∀ front decorators param back,
      collector.finds
        (patternActions (front ++ .decorated decorators param :: back)) =
        collector.finds (patternActions front) ++
          without (patternsSpill front)
            (collector.finds (exprActions decorators) ++
              without (exprsSpill decorators)
                (collector.finds (param.actions ++ patternActions back))) := by
  have hinner := Collector.enter_open collector
  refine ⟨fun typeParams decorators extended extendedArguments implemented front
      member back => ?_,
    fun _ front member back => finds_among_members hopen front member back,
    fun span key typeParams decorators params result body =>
      ?_, fun span key type body => ?_,
    fun span key params body =>
      finds_constructor collector span key params body,
    fun span key param body => Collector.finds_scope_bind collector _ _,
    fun front decorators param back =>
      finds_decorated hopen front decorators param back⟩
  · rw [finds_class, finds_among_members hinner]
  · change collector.finds (key.actions ++ _) = _
    rw [Collector.finds_row hopen, key.spill_actions, finds_function]
  · change collector.finds
      (key.actions ++ type.actions ++ (Stmt.block body).actions) = _
    rw [List.append_assoc, Collector.finds_row hopen, key.spill_actions]

/-- `@e(q) q` -/
def injected : Pattern :=
  .decorated [.call ⟨0, 0⟩ (.identifier ⟨0, 0⟩ "e") [.identifier ⟨0, 0⟩ "q"] []]
    (.identifier ⟨0, 0⟩ "q" .absent)

theorem finds_members_injected :
    Collector.start.scopes ≠ [] ∧
      Collector.start.finds
        (Member.constructor ⟨0, 0⟩ .absent [injected] .absent).actions = ["e"] ∧
      Collector.start.finds (Member.setter ⟨0, 0⟩ (.identifier ⟨0, 0⟩ "k")
        (.identifier ⟨0, 0⟩ "k" .absent) []).actions = [] := by
  have hopen : Collector.start.scopes ≠ [] := List.cons_ne_nil _ _
  obtain ⟨-, -, -, -, hconstructor, hsetter, -⟩ := finds_members .start hopen
  refine ⟨hopen, ?_, ?_⟩
  · rw [hconstructor]
    decide
  · rw [hsetter]
    decide

/-- A name is not found in a decorator of a method or of a parameter, and not in
the key of a setter, if a parameter beside it has this name. -/
theorem hidden_by_parameters :
    (Module.ofText .default "/a.ts"
      "class C{@d(p)m(p){}constructor(@e(q)q){}}({set[k](k){}})" true
      0).toOption.map
      (fun module => (module.declarations.values.map Declaration.references,
        module.statements.map Statement.references)) =
    some ([[.named "d", .named "e"]], [[]]) := by
  decide +kernel

end Prune.Script
