import Prune.Proofs.Surroundings
import Prune.Scope.Walk

/-!
# What a walk leaves bound

A block binds the names that are declared in it before anything in it is looked
at. Other trees bind a name when the walk comes to it, in whatever scope is the
innermost there, and the name stays bound until that scope is closed. What a
tree leaves bound behind it is said here, first for actions (`actionsSpill`) and
then for every kind of tree, without its actions: `Stmt.spills` and its
companions are the names of the declarations, of the type parameters and of the
`infer`s that no scope below keeps to itself.

With that, walking one thing after another comes apart (`Collector.finds_row`).
The first finds what it would find alone, and the second what it would find
alone, less the names that the first leaves bound. Nothing that comes later
takes anything from what comes before it: a name that is bound late is found
where it is used early.
-/

namespace Prune.Scope

/-! ## Occurrences without some names -/

/-- The occurrences that are left where some more names are bound. -/
def without (names found : List String) : List String :=
  found.filter (fun name => name ∉ names)

theorem mem_without {names found : List String} {name : String} :
    name ∈ without names found ↔ name ∈ found ∧ name ∉ names := by
  rw [without, List.mem_filter, decide_eq_true_iff]

theorem without_nil (found : List String) : without [] found = found :=
  List.filter_eq_self.mpr fun _ _ => decide_eq_true List.not_mem_nil

theorem without_append (names first second : List String) :
    without names (first ++ second) =
      without names first ++ without names second :=
  List.filter_append first second

theorem without_without (names more found : List String) :
    without names (without more found) = without (names ++ more) found := by
  rw [without, without, without, List.filter_filter]
  refine List.filter_congr fun name _ => ?_
  rw [← Bool.decide_and, decide_eq_decide, List.mem_append, not_or]

theorem without_congr {names other : List String}
    (h : ∀ name, name ∈ names ↔ name ∈ other) (found : List String) :
    without names found = without other found :=
  List.filter_congr fun name _ => decide_eq_decide.mpr (not_congr (h name))

/-! ## Actions -/

mutual

/-- The names that an action leaves bound in the scope in which it is carried
out. -/
def Action.spills : Action → List String
  | .bind names => names
  | .assigning _ body => actionsSpill body
  | .use _ | .binder _ | .scope _ => []

def actionsSpill : List Action → List String
  | [] => []
  | action :: rest => action.spills ++ actionsSpill rest

end

theorem actionsSpill_append (first second : List Action) :
    actionsSpill (first ++ second) =
      actionsSpill first ++ actionsSpill second := by
  induction first with
  | nil => rfl
  | cons action rest ih =>
      rw [List.cons_append, actionsSpill, actionsSpill, ih, List.append_assoc]

mutual

theorem Action.mem_binds_iff (action : Action) (bound : List String)
    (name : String) :
    name ∈ action.binds bound ↔ name ∈ action.spills ∨ name ∈ bound := by
  match action with
  | .bind names => exact List.mem_append
  | .assigning _ body => exact mem_actionsBind_iff body bound name
  | .use _ | .binder _ | .scope _ => exact (or_iff_right List.not_mem_nil).symm

theorem mem_actionsBind_iff (actions : List Action) (bound : List String)
    (name : String) :
    name ∈ actionsBind bound actions ↔
    name ∈ actionsSpill actions ∨ name ∈ bound := by
  match actions with
  | [] => exact (or_iff_right List.not_mem_nil).symm
  | action :: rest =>
      rw [actionsBind, mem_actionsBind_iff rest, action.mem_binds_iff,
        actionsSpill, List.mem_append]
      exact or_left_comm.trans or_assoc.symm

end

theorem actionsBind_append (bound : List String) (first second : List Action) :
    actionsBind bound (first ++ second) =
      actionsBind (actionsBind bound first) second := by
  induction first generalizing bound with
  | nil => rfl
  | cons action rest ih => rw [List.cons_append, actionsBind, ih, actionsBind]

theorem actionsFree_append (isTarget : Bool) (bound : List String)
    (first second : List Action) :
    actionsFree isTarget bound (first ++ second) =
      actionsFree isTarget bound first ++
        actionsFree isTarget (actionsBind bound first) second := by
  induction first generalizing bound with
  | nil => rfl
  | cons action rest ih =>
      rw [List.cons_append, actionsFree, actionsFree, ih, actionsBind,
        List.append_assoc]

/-! ## A walk -/

namespace Collector

variable {collector : Collector}

theorem enter_open (collector : Collector) : collector.enter.scopes ≠ [] :=
  List.cons_ne_nil _ _

/-- What is walked later finds what it finds alone, less the names that are left
bound before it. -/
theorem finds_row (hopen : collector.scopes ≠ []) (first second : List Action) :
    collector.finds (first ++ second) =
      collector.finds first ++
        without (actionsSpill first) (collector.finds second) := by
  rw [finds_eq hopen, finds_eq hopen, finds_eq hopen, actionsFree_append,
    actionsFree_of_mem_iff second _ (mem_actionsBind_iff first _), without]

/-- Names that are bound at its start are not found by a walk. -/
theorem finds_bound (hopen : collector.scopes ≠ []) (names : List String)
    (actions : List Action) :
    collector.finds (.bind names :: actions) =
      without names (collector.finds actions) := by
  rw [finds_cons_bind, finds_bind hopen, without]

/-- A scope keeps what is bound in it to itself. -/
theorem finds_scope_append (hopen : collector.scopes ≠ [])
    (body rest : List Action) :
    collector.finds ([.scope body] ++ rest) =
      collector.enter.finds body ++ collector.finds rest := by
  rw [finds_row hopen, finds_scope]
  exact congrArg _ (without_nil _)

/-- A name is found in a row of steps if a step finds it that no step before has
left it bound for. -/
theorem mem_finds_flatten (hopen : collector.scopes ≠ [])
    (row : List (List Action)) (name : String) :
    name ∈ collector.finds row.flatten ↔
      ∃ front step back,
        row = front ++ step :: back ∧ name ∈ collector.finds step ∧
        name ∉ actionsSpill front.flatten := by
  induction row with
  | nil =>
      refine ⟨fun h => absurd h List.not_mem_nil, ?_⟩
      rintro ⟨front, step, back, hrow, -⟩
      exact absurd hrow.symm
        (List.append_ne_nil_of_right_ne_nil front (List.cons_ne_nil _ _))
  | cons first rest ih =>
      rw [List.flatten_cons, finds_row hopen, List.mem_append, mem_without, ih]
      constructor
      · rintro (hfirst | ⟨⟨front, step, back, rfl, hstep, hfront⟩, hbound⟩)
        · exact ⟨[], first, rest, rfl, hfirst, List.not_mem_nil⟩
        · refine ⟨first :: front, step, back, rfl, hstep, ?_⟩
          rw [List.flatten_cons, actionsSpill_append, List.mem_append, not_or]
          exact ⟨hbound, hfront⟩
      · rintro ⟨front, step, back, hrow, hstep, hfront⟩
        cases front with
        | nil =>
            obtain ⟨rfl, -⟩ := List.cons.inj hrow
            exact Or.inl hstep
        | cons head front =>
            obtain ⟨rfl, hrest⟩ := List.cons.inj hrow
            rw [List.flatten_cons, actionsSpill_append, List.mem_append,
              not_or] at hfront
            exact Or.inr ⟨⟨front, step, back, hrest, hstep, hfront.2⟩, hfront.1⟩

/-- The same where each step belongs to a part of a list. -/
theorem mem_finds_map {α : Type} (hopen : collector.scopes ≠ [])
    (step : α → List Action) (parts : List α) (name : String) :
    name ∈ collector.finds (parts.map step).flatten ↔
      ∃ front part back,
        parts = front ++ part :: back ∧ name ∈ collector.finds (step part) ∧
        name ∉ actionsSpill (front.map step).flatten := by
  rw [mem_finds_flatten hopen]
  constructor
  · rintro ⟨_, _, _, hrow, hstep, hfront⟩
    obtain ⟨front, rest, rfl, rfl, hrest⟩ := List.map_eq_append_iff.mp hrow
    obtain ⟨part, back, rfl, rfl, -⟩ := List.map_eq_cons_iff.mp hrest
    exact ⟨front, part, back, rfl, hstep, hfront⟩
  · rintro ⟨front, part, back, rfl, hpart, hfront⟩
    exact ⟨front.map step, step part, back.map step, List.map_append,
      hpart, hfront⟩

/-- Less all the names that a row leaves bound, its steps find what each of them
finds alone. -/
theorem without_finds_flatten (hopen : collector.scopes ≠ [])
    {names : List String} (row : List (List Action))
    (h : actionsSpill row.flatten ⊆ names) :
    without names (collector.finds row.flatten) =
      row.flatMap fun step => without names (collector.finds step) := by
  induction row with
  | nil => rfl
  | cons first rest ih =>
      rw [List.flatten_cons, actionsSpill_append, List.append_subset] at h
      have hnames : ∀ name, name ∈ names ++ actionsSpill first ↔ name ∈ names :=
        fun name =>
          List.mem_append.trans (or_iff_left_of_imp fun hfirst => h.1 hfirst)
      rw [List.flatten_cons, finds_row hopen, without_append, without_without,
        without_congr hnames, ih h.2, List.flatMap_cons]

end Collector

end Prune.Scope

namespace Prune.Script

open Prune.Scope

/-! ## Trees -/

mutual

/-- The names that a type leaves bound: those of its `infer`s, except in a
signature, a method or a mapped type, which are scopes. A type parameter leaves
its own name bound. -/
def TypeTerm.spills : TypeTerm → List String
  | .absent | .plain | .signature _ _ _ | .mapped _ _ _ | .method _ _ _ _ => []
  | .named _ arguments | .query _ arguments => typesSpill arguments
  | .compound parts | .object parts => typesSpill parts
  | .conditional check extended yes no =>
      check.spills ++ extended.spills ++ yes.spills ++ no.spills
  | .infer param => param.spills
  | .labelled _ type | .predicate _ type => type.spills
  | .parameter name constraint default =>
      name :: (constraint.spills ++ default.spills)
  | .property key type => key.spills ++ type.spills
  | .setter key param => key.spills ++ param.spills
  | .index params type => patternsSpill params ++ type.spills

def typesSpill : List TypeTerm → List String
  | [] => []
  | type :: rest => type.spills ++ typesSpill rest

/-- The names that an expression leaves bound. They come from the types in
it. -/
def Expr.spills : Expr → List String
  | .absent | .identifier _ _ | .literal _ | .this _ | .superKeyword _
  | .importKeyword _ | .metaProperty _ | .privateName _ | .invalid _
  | .function _ _ _ | .arrow _ _ _ _ _ | .classExpr _ _ _ => []
  | .spread _ value | .unary _ _ value | .update _ value | .optional _ _ value
  | .yield _ value | .await _ value | .parenthesized _ value => value.spills
  | .array _ parts | .sequence _ parts | .template _ parts => exprsSpill parts
  | .object _ members => membersSpill members
  | .binary _ _ left right => left.spills ++ right.spills
  | .assign _ _ target value => target.targetSpills ++ value.spills
  | .conditional _ test yes no => test.spills ++ yes.spills ++ no.spills
  | .member _ object key => object.spills ++ key.spills
  | .call _ callee arguments typeArguments
  | .construct _ callee arguments typeArguments =>
      callee.spills ++ exprsSpill arguments ++ typesSpill typeArguments
  | .tagged _ tag typeArguments parts =>
      tag.spills ++ typesSpill typeArguments ++ exprsSpill parts
  | .ascribed _ _ value types => value.spills ++ typesSpill types
  | .element _ _ attributes typeArguments children _ =>
      exprsSpill attributes ++ typesSpill typeArguments ++ exprsSpill children

def exprsSpill : List Expr → List String
  | [] => []
  | value :: rest => value.spills ++ exprsSpill rest

/-- The names that a pattern leaves bound. Its own names are not among them:
they are bound, if they are, where the pattern stands. -/
def Pattern.spills : Pattern → List String
  | .absent | .invalid _ => []
  | .identifier _ _ type => type.spills
  | .array _ parts type | .object _ parts type =>
      patternsSpill parts ++ type.spills
  | .rest _ target type => target.spills ++ type.spills
  | .withDefault _ target value => target.spills ++ value.spills
  | .keyed _ key target => key.spills ++ target.spills
  | .shorthand _ _ default => default.spills
  | .decorated decorators param => exprsSpill decorators ++ param.spills
  | .expression value => value.spills

/-- The names that the target of an assignment leaves bound. -/
def Pattern.targetSpills : Pattern → List String
  | .identifier _ _ type => type.spills
  | .expression value => value.spills
  | .array _ parts type | .object _ parts type =>
      patternsSpill parts ++ type.spills
  | .absent | .invalid _ | .rest _ _ _ | .withDefault _ _ _ | .keyed _ _ _
  | .shorthand _ _ _ | .decorated _ _ => []

def patternsSpill : List Pattern → List String
  | [] => []
  | pattern :: rest => pattern.spills ++ patternsSpill rest

/-- The names that the variables of a declaration leave bound. -/
def declaratorsSpill : List Pattern → List String
  | [] => []
  | pattern :: rest => pattern.names ++ pattern.spills ++ declaratorsSpill rest

def Member.spills : Member → List String
  | .shorthand _ _ | .staticBlock _ _ | .empty _ | .setter _ _ _ _
  | .constructor _ _ _ _ => []
  | .keyed _ key value => key.spills ++ value.spills
  | .defaulted _ _ value | .spread _ value => value.spills
  | .getter _ key type _ => key.spills ++ type.spills
  | .method _ key _ => key.spills
  | .field _ key value type decorators =>
      key.spills ++ value.spills ++ type.spills ++ exprsSpill decorators
  | .index _ params type => patternsSpill params ++ type.spills

def membersSpill : List Member → List String
  | [] => []
  | member :: rest => member.spills ++ membersSpill rest

/-- The names that a statement leaves bound: those it declares with `let`,
`const`, `var`, `class` and `function`, unless they are declared in a block, a
loop or another scope below it. -/
def Stmt.spills : Stmt → List String
  | .absent | .empty | .debugger | .jump _ | .block _ | .handler _ _
  | .forLoop _ _ _ _ | .forEach _ _ _ | .interface _ _ _ _ _
  | .typeAlias _ _ _ _ | .enum _ _ _ _ | .namespace _ _ _ _
  | .importEquals _ _ _ | .exportNamespace _ _ => []
  | .withObject object body => object.spills ++ body.spills
  | .ret value | .throw value | .expression value | .exportDefaultDecl _ value
  | .exportDefaultExpr _ value | .exportAssignment _ value => value.spills
  | .labelled _ body => body.spills
  | .ifElse test yes no => test.spills ++ yes.spills ++ no.spills
  | .switch subject cases => subject.spills ++ stmtsSpill cases
  | .case test body => test.spills ++ stmtsSpill body
  | .tryCatch _ handler finalizer => handler.spills ++ finalizer.spills
  | .while test body | .doWhile test body => test.spills ++ body.spills
  | .target target => target.spills
  | .function name _ _ | .classDecl name _ _ => [name]
  | .variable _ _ declarators _ | .using _ declarators =>
      declaratorsSpill declarators
  | .importNames _ _ _ attributes | .exportNames _ _ _ attributes
  | .exportAll _ attributes =>
      attributes.spills
  | .exportDecl _ declaration | .exportDefaultInterface _ declaration =>
      declaration.spills

def stmtsSpill : List Stmt → List String
  | [] => []
  | stmt :: rest => stmt.spills ++ stmtsSpill rest

end

/-! The equation between the two is carried through what is walked in a row by
`spill_append`, and the rest of a tree is read off its actions. -/

theorem spill_append {first second : List Action} {names more : List String}
    (hfirst : actionsSpill first = names)
    (hsecond : actionsSpill second = more) :
    actionsSpill (first ++ second) = names ++ more := by
  rw [actionsSpill_append, hfirst, hsecond]

/-- Uses leave nothing bound. -/
theorem spill_uses {uses rest : List Action} {names : List String}
    (huses : actionsSpill uses = []) (hrest : actionsSpill rest = names) :
    actionsSpill (uses ++ rest) = names :=
  spill_append huses hrest

theorem spill_scope {first : List Action} {names : List String}
    (hfirst : actionsSpill first = names) (body : List Action) :
    actionsSpill (first ++ [.scope body]) = names :=
  (spill_append hfirst rfl).trans (List.append_nil names)

theorem spill_flatMap {α : Type} {actionsOf : α → List Action}
    (h : ∀ part, actionsSpill (actionsOf part) = []) (parts : List α) :
    actionsSpill (parts.flatMap actionsOf) = [] := by
  induction parts with
  | nil => rfl
  | cons part rest ih => exact spill_append (h part) ih

theorem spill_tag (tag : Option Tag) :
    actionsSpill (tag.elim [] Tag.actions) = [] := by
  match tag with
  | none | some (.dotted _) | some .prefixed => rfl
  | some (.plain name) =>
      change actionsSpill
        (if (name.toList.head?).elim false Text.isSmall then [] else _) = []
      split <;> rfl

theorem spill_exportName (name : Option ExportName) :
    actionsSpill (name.elim [] ExportName.actions) = [] := by
  match name with
  | none | some (.identifier _) | some (.text _) => rfl

theorem ImportSpecifier.spill_actions (specifier : ImportSpecifier) :
    actionsSpill specifier.actions = [] := by
  match specifier with
  | .named _ imported => exact spill_exportName imported
  | .default _ _ | .everything _ _ => rfl

theorem ExportSpecifier.spill_actions (specifier : ExportSpecifier) :
    actionsSpill specifier.actions = [] := by
  match specifier with
  | .named inner exported =>
      exact spill_append (spill_exportName (some inner))
        (spill_exportName exported)
  | .default _ => rfl
  | .everything name => exact spill_exportName (some name)

mutual

theorem TypeTerm.spill_actions (type : TypeTerm) :
    actionsSpill type.actions = type.spills := by
  match type with
  | .absent | .plain | .signature _ _ _ | .mapped _ _ _ | .method _ _ _ _ => rfl
  | .named _ arguments | .query _ arguments => exact spill_typeActions arguments
  | .compound parts | .object parts => exact spill_typeActions parts
  | .conditional check extended yes no =>
      exact spill_append
        (spill_append (spill_append check.spill_actions extended.spill_actions)
          yes.spill_actions) no.spill_actions
  | .infer param => exact param.spill_actions
  | .labelled _ type | .predicate none type | .predicate (some _) type =>
      exact type.spill_actions
  | .parameter name constraint default =>
      exact congrArg (name :: ·)
        (spill_append constraint.spill_actions default.spill_actions)
  | .property key type =>
      exact spill_append key.spill_actions type.spill_actions
  | .setter key param =>
      exact spill_append key.spill_actions param.spill_actions
  | .index params type =>
      exact spill_append (spill_patternActions params) type.spill_actions

theorem spill_typeActions (types : List TypeTerm) :
    actionsSpill (typeActions types) = typesSpill types := by
  match types with
  | [] => rfl
  | type :: rest =>
      exact spill_append type.spill_actions (spill_typeActions rest)

theorem Expr.spill_actions (value : Expr) :
    actionsSpill value.actions = value.spills := by
  match value with
  | .absent | .identifier _ _ | .literal _ | .this _ | .superKeyword _
  | .importKeyword _ | .metaProperty _ | .privateName _ | .invalid _
  | .function _ _ _ | .arrow _ _ _ _ _ | .classExpr _ _ _ => rfl
  | .spread _ value | .unary _ _ value | .update _ value | .optional _ _ value
  | .yield _ value | .await _ value
  | .parenthesized _ value => exact value.spill_actions
  | .array _ parts | .sequence _ parts | .template _ parts =>
      exact spill_exprActions parts
  | .object _ members => exact spill_memberActions members
  | .binary _ _ left right =>
      exact spill_append left.spill_actions right.spill_actions
  | .assign _ _ target value =>
      exact spill_append target.spill_targetActions value.spill_actions
  | .conditional _ test yes no =>
      exact spill_append (spill_append test.spill_actions yes.spill_actions)
        no.spill_actions
  | .member _ object key =>
      exact spill_append object.spill_actions key.spill_actions
  | .call _ callee arguments typeArguments
  | .construct _ callee arguments typeArguments =>
      exact spill_append
        (spill_append callee.spill_actions (spill_exprActions arguments))
        (spill_typeActions typeArguments)
  | .tagged _ tag typeArguments parts =>
      exact spill_append
        (spill_append tag.spill_actions (spill_typeActions typeArguments))
        (spill_exprActions parts)
  | .ascribed _ _ value types =>
      exact spill_append value.spill_actions (spill_typeActions types)
  | .element _ tag attributes typeArguments children closed =>
      have hopening :
          actionsSpill (tag.elim [] Tag.actions ++ exprActions attributes) =
          exprsSpill attributes :=
            spill_uses (spill_tag tag) (spill_exprActions attributes)
      have hclosing : actionsSpill
          (if closed then tag.elim [] Tag.actions else []) = [] := by
        split
        · exact spill_tag tag
        · rfl
      exact (spill_append
        (spill_append (spill_append hopening (spill_typeActions typeArguments))
          (spill_exprActions children)) hclosing).trans (List.append_nil _)

theorem spill_exprActions (values : List Expr) :
    actionsSpill (exprActions values) = exprsSpill values := by
  match values with
  | [] => rfl
  | value :: rest =>
      exact spill_append value.spill_actions (spill_exprActions rest)

theorem Pattern.spill_actions (pattern : Pattern) :
    actionsSpill pattern.actions = pattern.spills := by
  match pattern with
  | .absent | .invalid _ => rfl
  | .identifier _ _ type => exact type.spill_actions
  | .array _ parts type | .object _ parts type =>
      exact spill_append (spill_patternActions parts) type.spill_actions
  | .rest _ target type =>
      exact spill_append target.spill_actions type.spill_actions
  | .withDefault _ target value =>
      exact spill_append target.spill_actions value.spill_actions
  | .keyed _ key target =>
      exact spill_append key.spill_actions target.spill_actions
  | .shorthand _ _ default => exact default.spill_actions
  | .decorated decorators param =>
      exact spill_append (spill_exprActions decorators) param.spill_actions
  | .expression value => exact value.spill_actions

theorem Pattern.spill_targetActions (pattern : Pattern) :
    actionsSpill pattern.targetActions = pattern.targetSpills := by
  match pattern with
  | .absent | .invalid _ | .rest _ _ _ | .withDefault _ _ _ | .keyed _ _ _
  | .shorthand _ _ _ | .decorated _ _ => rfl
  | .identifier _ _ type => exact type.spill_actions
  | .expression value => exact value.spill_actions
  | .array _ parts type | .object _ parts type =>
      exact (List.append_nil _).trans
        (spill_append (spill_patternActions parts) type.spill_actions)

theorem spill_patternActions (patterns : List Pattern) :
    actionsSpill (patternActions patterns) = patternsSpill patterns := by
  match patterns with
  | [] => rfl
  | pattern :: rest =>
      exact spill_append pattern.spill_actions (spill_patternActions rest)

theorem spill_declaratorActions (patterns : List Pattern) :
    actionsSpill (declaratorActions patterns) = declaratorsSpill patterns := by
  match patterns with
  | [] => rfl
  | pattern :: rest =>
      change pattern.names ++
        (actionsSpill pattern.actions ++
          actionsSpill (declaratorActions rest)) =
        pattern.names ++ pattern.spills ++ declaratorsSpill rest
      rw [pattern.spill_actions, spill_declaratorActions rest,
        List.append_assoc]

theorem Member.spill_actions (member : Member) :
    actionsSpill member.actions = member.spills := by
  match member with
  | .shorthand _ _ | .staticBlock _ _ | .empty _ | .setter _ _ _ _
  | .constructor _ _ _ _ => rfl
  | .keyed _ key value =>
      exact spill_append key.spill_actions value.spill_actions
  | .defaulted _ _ value | .spread _ value => exact value.spill_actions
  | .getter _ key type _ =>
      exact spill_scope (spill_append key.spill_actions type.spill_actions) _
  | .method _ key (.mk _ _ _ _ _) => exact spill_scope key.spill_actions _
  | .field _ key value type decorators =>
      exact spill_append
        (spill_append (spill_append key.spill_actions value.spill_actions)
          type.spill_actions) (spill_exprActions decorators)
  | .index _ params type =>
      exact spill_append (spill_patternActions params) type.spill_actions

theorem spill_memberActions (members : List Member) :
    actionsSpill (memberActions members) = membersSpill members := by
  match members with
  | [] => rfl
  | member :: rest =>
      exact spill_append member.spill_actions (spill_memberActions rest)

theorem Stmt.spill_actions (stmt : Stmt) :
    actionsSpill stmt.actions = stmt.spills := by
  match stmt with
  | .absent | .empty | .debugger | .jump _ | .block _ | .handler _ _
  | .forLoop _ _ _ _ | .forEach _ _ _ | .interface _ _ _ _ _
  | .typeAlias _ _ _ _ | .enum _ _ _ _ | .namespace _ _ _ _
  | .importEquals _ _ none | .importEquals _ _ (some _) | .exportNamespace _ _
  | .function _ (.mk _ _ _ _ _) _ | .classDecl _ (.mk _ _ _ _ _ _) _ => rfl
  | .ret value | .throw value | .expression value | .exportDefaultDecl _ value
  | .exportDefaultExpr _ value | .exportAssignment _ value =>
      exact value.spill_actions
  | .withObject object body =>
      exact spill_append object.spill_actions body.spill_actions
  | .labelled _ body => exact body.spill_actions
  | .ifElse test yes no =>
      exact spill_append (spill_append test.spill_actions yes.spill_actions)
        no.spill_actions
  | .switch subject cases =>
      exact spill_append subject.spill_actions (spill_stmtActions cases)
  | .case test body =>
      exact spill_append test.spill_actions (spill_stmtActions body)
  | .tryCatch _ handler finalizer =>
      exact spill_append handler.spill_actions finalizer.spill_actions
  | .while test body | .doWhile test body =>
      exact spill_append test.spill_actions body.spill_actions
  | .target target => exact (List.append_nil _).trans target.spill_actions
  | .variable _ _ declarators _ | .using _ declarators =>
      exact spill_declaratorActions declarators
  | .importNames _ specifiers _ attributes =>
      exact spill_uses (spill_flatMap ImportSpecifier.spill_actions specifiers)
        attributes.spill_actions
  | .exportNames _ specifiers _ attributes =>
      exact spill_uses (spill_flatMap ExportSpecifier.spill_actions specifiers)
        attributes.spill_actions
  | .exportAll _ attributes => exact attributes.spill_actions
  | .exportDecl _ declaration | .exportDefaultInterface _ declaration =>
      exact declaration.spill_actions

theorem spill_stmtActions (body : List Stmt) :
    actionsSpill (stmtActions body) = stmtsSpill body := by
  match body with
  | [] => rfl
  | stmt :: rest =>
      exact spill_append stmt.spill_actions (spill_stmtActions rest)

end

end Prune.Script
