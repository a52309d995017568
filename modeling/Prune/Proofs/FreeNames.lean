import Prune.Proofs.Collects
import Prune.Proofs.Lexical
import Prune.Scope.Walk

/-!
# The walk finds the free occurrences

The walk keeps one stack for everything, and it binds names at three times:
those of a block or a body when it enters them, those of a parameter list before
its defaults, and those of a declaration once more when it comes to it. Only the
first two are lexical scoping. The third cannot be observed, because what a
declaration binds has been bound around it before: by the list it stands in, by
the loop it is the head of, or, if it is a `var`, by the body of the function.

So the induction carries for a statement that its names are bound, those of
`var` and the lexical ones apart (`Stmt.collects`); for everything else nothing
has to be carried. Whether a target is being read changes only what a pattern
finds.
-/

namespace Prune.Script

open Prune.Scope

/-! ## What is not written -/

theorem TypeTerm.actions_of_isAbsent {type : TypeTerm}
    (h : type.isAbsent = true) :
    type.actions = [] := by
  rw [TypeTerm.eq_absent h]
  rfl

theorem Expr.actions_of_isAbsent {value : Expr} (h : value.isAbsent = true) :
    value.actions = [] := by
  rw [Expr.eq_absent h]
  rfl

theorem typeActions_of_isEmpty {types : List TypeTerm}
    (h : types.isEmpty = true) :
    typeActions types = [] := by
  rw [List.isEmpty_iff.mp h]
  rfl

theorem exprActions_of_isEmpty {values : List Expr}
    (h : values.isEmpty = true) :
    exprActions values = [] := by
  rw [List.isEmpty_iff.mp h]
  rfl

/-! ## The names of a list of statements -/

mutual

theorem Stmt.hoistedNames_eq (stmt : Stmt) (h : stmt.isPlain = true) :
    stmt.hoistedNames = stmt.varNames := by
  match stmt with
  | .variable _ .var _ _ | .variable _ .block _ _ | .absent | .empty | .debugger
  | .jump _ | .ret _ | .throw _ | .expression _ | .target _ | .function _ _ _
  | .classDecl _ _ _ | .exportDefaultDecl _ _ => rfl
  | .block body => exact hoistedIn_eq body h
  | .handler _ body => exact hoistedIn_eq body (Bool.and_eq_true_iff.mp h).2
  | .labelled _ body | .while _ body | .doWhile _ body =>
      exact body.hoistedNames_eq (Bool.and_eq_true_iff.mp h).2
  | .ifElse _ yes no =>
      obtain ⟨h, hno⟩ := Bool.and_eq_true_iff.mp h
      obtain ⟨h, -⟩ := Bool.and_eq_true_iff.mp h
      obtain ⟨-, hyes⟩ := Bool.and_eq_true_iff.mp h
      change yes.hoistedNames ++ no.hoistedNames = yes.varNames ++ no.varNames
      rw [yes.hoistedNames_eq hyes, no.hoistedNames_eq hno]
  | .tryCatch body handler finalizer =>
      obtain ⟨h, hfinalizer⟩ := Bool.and_eq_true_iff.mp h
      obtain ⟨h, -⟩ := Bool.and_eq_true_iff.mp h
      obtain ⟨h, hhandler⟩ := Bool.and_eq_true_iff.mp h
      obtain ⟨hbody, -⟩ := Bool.and_eq_true_iff.mp h
      change hoistedIn body ++ handler.hoistedNames ++ finalizer.hoistedNames =
        varNamesIn body ++ handler.varNames ++ finalizer.varNames
      rw [hoistedIn_eq body hbody, handler.hoistedNames_eq hhandler,
        finalizer.hoistedNames_eq hfinalizer]
  | .forLoop head _ _ body =>
      obtain ⟨h, hbody⟩ := Bool.and_eq_true_iff.mp h
      obtain ⟨h, -⟩ := Bool.and_eq_true_iff.mp h
      obtain ⟨h, -⟩ := Bool.and_eq_true_iff.mp h
      obtain ⟨h, -⟩ := Bool.and_eq_true_iff.mp h
      obtain ⟨-, hhead⟩ := Bool.and_eq_true_iff.mp h
      change head.hoistedNames ++ body.hoistedNames =
        head.varNames ++ body.varNames
      rw [head.hoistedNames_eq hhead, body.hoistedNames_eq hbody]
  | .forEach head _ body =>
      obtain ⟨h, hbody⟩ := Bool.and_eq_true_iff.mp h
      obtain ⟨h, -⟩ := Bool.and_eq_true_iff.mp h
      obtain ⟨h, -⟩ := Bool.and_eq_true_iff.mp h
      obtain ⟨-, hhead⟩ := Bool.and_eq_true_iff.mp h
      change head.hoistedNames ++ body.hoistedNames =
        head.varNames ++ body.varNames
      rw [head.hoistedNames_eq hhead, body.hoistedNames_eq hbody]

theorem hoistedIn_eq (body : List Stmt) (h : stmtsPlain body = true) :
    hoistedIn body = varNamesIn body := by
  match body with
  | [] => rfl
  | stmt :: rest =>
      obtain ⟨hstmt, hrest⟩ := Bool.and_eq_true_iff.mp h
      change stmt.hoistedNames ++ hoistedIn rest =
        stmt.varNames ++ varNamesIn rest
      rw [stmt.hoistedNames_eq hstmt, hoistedIn_eq rest hrest]

end

/-- What a plain statement declares is a lexical name of it, or a `var`. -/
theorem Stmt.mem_declaredNames {stmt : Stmt} (h : stmt.isPlain = true)
    {name : String} (hname : name ∈ stmt.declaredNames) :
    name ∈ stmt.lexicalNames ∨ name ∈ stmt.varNames := by
  rw [declaredNames.eq_def] at hname
  split at hname
  · exact Or.inl hname
  · exact Or.inl hname
  · next kind _ _ =>
      cases kind with
      | var => exact Or.inr hname
      | block => exact Or.inl hname
  · exact absurd h Bool.false_ne_true
  · exact absurd h Bool.false_ne_true
  · exact absurd h Bool.false_ne_true
  · exact absurd h Bool.false_ne_true
  · exact absurd h Bool.false_ne_true
  · cases hname

theorem Stmt.lexicalNames_subset (stmt : Stmt) :
    stmt.lexicalNames ⊆ stmt.declaredNames := by
  rw [lexicalNames.eq_def]
  split
  · exact List.Subset.refl _
  · exact List.Subset.refl _
  · exact List.Subset.refl _
  · exact List.nil_subset _

theorem lexicalNames_of_mayStandAlone {stmt : Stmt}
    (h : stmt.mayStandAlone = true) (bound : List String) :
    stmt.lexicalNames ⊆ bound := by
  rw [Stmt.lexicalNames.eq_def]
  split
  · cases h
  · cases h
  · cases h
  · exact List.nil_subset bound

/-- Where the `var` names of a list are bound, binding what is declared in the
list adds its lexical names. -/
theorem mem_blockNames_append {body : List Stmt} (h : stmtsPlain body = true)
    {bound : List String} (hvar : varNamesIn body ⊆ bound) (name : String) :
    name ∈ blockNames body ++ bound ↔ name ∈ lexicalNamesIn body ++ bound := by
  rw [List.mem_append, List.mem_append, blockNames, lexicalNamesIn]
  induction body with
  | nil => exact Iff.rfl
  | cons stmt rest ih =>
      obtain ⟨hstmt, hrest⟩ := Bool.and_eq_true_iff.mp h
      obtain ⟨hstmtVar, hrestVar⟩ := List.append_subset.mp hvar
      rw [List.flatMap_cons, List.flatMap_cons, List.mem_append,
        List.mem_append, or_assoc, or_assoc, ih hrest hrestVar]
      constructor
      · rintro (hname | hname)
        · rcases Stmt.mem_declaredNames hstmt hname with hlexical | hhoisted
          · exact Or.inl hlexical
          · exact Or.inr (Or.inr (hstmtVar hhoisted))
        · exact Or.inr hname
      · exact Or.imp_left fun hname => stmt.lexicalNames_subset hname

/-- A body binds what `var` declares in it and its lexical names. -/
theorem mem_bodyNames_append {body : List Stmt} (h : stmtsPlain body = true)
    (bound : List String) (name : String) :
    name ∈ bodyNames body ++ bound ↔
    name ∈ varNamesIn body ++ lexicalNamesIn body ++ bound := by
  have hblock := mem_blockNames_append h (List.subset_append_left _ bound) name
  rw [bodyNames, hoistedIn_eq body h]
  simp only [List.mem_append] at hblock ⊢
  constructor
  · rintro ((hname | hname) | hname)
    · exact Or.inl (Or.inl hname)
    · exact (hblock.mp (Or.inl hname)).elim (fun h => Or.inl (Or.inr h))
        fun h => h.imp_left Or.inl
    · exact Or.inr hname
  · rintro ((hname | hname) | hname)
    · exact Or.inl (Or.inl hname)
    · exact (hblock.mpr (Or.inl hname)).elim (fun h => Or.inl (Or.inr h))
        fun h => h.imp_left Or.inl
    · exact Or.inr hname

theorem patternNames_subset {span : Span} {kind : VariableKind}
    {declarators : List Pattern} {ambient : Bool} {bound : List String}
    (hvar : (Stmt.variable span kind declarators ambient).varNames ⊆ bound)
    (hlexical : (Stmt.variable span kind declarators ambient).lexicalNames ⊆
      bound) :
    patternNames declarators ⊆ bound := by
  cases kind with
  | var => exact hvar
  | block => exact hlexical

theorem collects_block {body : List Stmt} (h : stmtsPlain body = true)
    {bound : List String} (hvar : varNamesIn body ⊆ bound)
    {after found : List String}
    (hbody : Collects false (stmtActions body) (lexicalNamesIn body ++ bound)
      after found)
    (isTarget : Bool) :
    Collects isTarget [.scope (.bind (blockNames body) :: stmtActions body)]
      bound bound found :=
  .scope (.bind _ (hbody.congr (mem_blockNames_append h hvar)))

/-! ## The walk -/

mutual

theorem Expr.collects (value : Expr) (h : value.isPlain = true)
    (isTarget : Bool) (bound : List String) :
    Collects isTarget value.actions bound bound (value.free bound) := by
  match value with
  | .absent | .literal _ | .this _ | .superKeyword _ | .importKeyword _
  | .metaProperty _ =>
      exact .nil
  | .identifier _ name => exact .use name
  | .spread _ value | .unary _ _ value | .update _ value | .optional _ _ value
  | .yield _ value | .await _ value | .parenthesized _ value =>
      exact value.collects h isTarget bound
  | .array _ parts | .sequence _ parts | .template _ parts =>
      exact exprsCollect parts h isTarget bound
  | .object _ members => exact membersCollect members h isTarget bound
  | .function _ name function =>
      exact .scope (.bind _ (function.collects h false _))
  | .arrow _ typeParams params result body =>
      obtain ⟨h, hbody⟩ := Bool.and_eq_true_iff.mp h
      obtain ⟨h, hresult⟩ := Bool.and_eq_true_iff.mp h
      obtain ⟨htypes, hparams⟩ := Bool.and_eq_true_iff.mp h
      have hactions : (Expr.arrow ‹_› typeParams params result body).actions =
          [.scope
            (.bind (patternNames params) ::
              (patternActions params ++ body.actions))] := by
        change [Action.scope
          (typeActions typeParams ++ .bind (patternNames params) ::
            (patternActions params ++ result.actions ++ body.actions))] = _
        rw [typeActions_of_isEmpty htypes, TypeTerm.actions_of_isAbsent hresult,
          List.nil_append, List.append_nil]
      rw [hactions]
      exact .scope (.bind _
        ((patternsCollect params hparams false _).append
          (body.collects hbody false _)))
  | .classExpr _ name value => exact .scope (.bind _ (value.collects h false _))
  | .binary _ _ left right =>
      obtain ⟨hleft, hright⟩ := Bool.and_eq_true_iff.mp h
      exact (left.collects hleft isTarget bound).append
        (right.collects hright isTarget bound)
  | .assign _ _ target value =>
      obtain ⟨h, hvalue⟩ := Bool.and_eq_true_iff.mp h
      obtain ⟨htarget, hplain⟩ := Bool.and_eq_true_iff.mp h
      exact (target.collects_target htarget hplain isTarget bound).append
        (value.collects hvalue isTarget bound)
  | .conditional _ test yes no =>
      obtain ⟨h, hno⟩ := Bool.and_eq_true_iff.mp h
      obtain ⟨htest, hyes⟩ := Bool.and_eq_true_iff.mp h
      exact ((test.collects htest isTarget bound).append
        (yes.collects hyes isTarget bound)).append
        (no.collects hno isTarget bound)
  | .member _ object key =>
      obtain ⟨hobject, hkey⟩ := Bool.and_eq_true_iff.mp h
      exact (object.collects hobject isTarget bound).append
        (key.collects hkey isTarget bound)
  | .call _ callee arguments typeArguments
  | .construct _ callee arguments typeArguments =>
      obtain ⟨h, htypes⟩ := Bool.and_eq_true_iff.mp h
      obtain ⟨hcallee, harguments⟩ := Bool.and_eq_true_iff.mp h
      exact ((callee.collects hcallee isTarget bound).append
        (exprsCollect arguments harguments isTarget bound)).append_nil
          (typeActions_of_isEmpty htypes)
  | .tagged _ tag typeArguments parts =>
      obtain ⟨h, hparts⟩ := Bool.and_eq_true_iff.mp h
      obtain ⟨htag, htypes⟩ := Bool.and_eq_true_iff.mp h
      exact ((tag.collects htag isTarget bound).append_nil
        (typeActions_of_isEmpty htypes)).append
        (exprsCollect parts hparts isTarget bound)
  | .privateName _ | .ascribed _ _ _ _ | .element _ _ _ _ _ _ | .invalid _ =>
      exact absurd h Bool.false_ne_true

theorem exprsCollect (values : List Expr) (h : exprsPlain values = true)
    (isTarget : Bool) (bound : List String) :
    Collects isTarget (exprActions values) bound bound
      (exprsFree bound values) := by
  match values with
  | [] => exact .nil
  | value :: rest =>
      obtain ⟨hvalue, hrest⟩ := Bool.and_eq_true_iff.mp h
      exact (value.collects hvalue isTarget bound).append
        (exprsCollect rest hrest isTarget bound)

theorem Pattern.collects (pattern : Pattern) (h : pattern.isPlain = true)
    (isTarget : Bool) (bound : List String) :
    Collects isTarget pattern.actions bound bound
      (pattern.free isTarget bound) := by
  match pattern with
  | .absent => exact .nil
  | .identifier _ name type =>
      exact (Collects.binder name).append_nil (TypeTerm.actions_of_isAbsent h)
  | .array _ parts type | .object _ parts type =>
      obtain ⟨hparts, htype⟩ := Bool.and_eq_true_iff.mp h
      exact (patternsCollect parts hparts isTarget bound).append_nil
        (TypeTerm.actions_of_isAbsent htype)
  | .rest _ target type =>
      obtain ⟨htarget, htype⟩ := Bool.and_eq_true_iff.mp h
      exact (target.collects htarget isTarget bound).append_nil
        (TypeTerm.actions_of_isAbsent htype)
  | .withDefault _ target value =>
      obtain ⟨htarget, hvalue⟩ := Bool.and_eq_true_iff.mp h
      exact (target.collects htarget isTarget bound).append
        (value.collects hvalue isTarget bound)
  | .keyed _ key target =>
      obtain ⟨hkey, htarget⟩ := Bool.and_eq_true_iff.mp h
      exact (key.collects hkey isTarget bound).append
        (target.collects htarget isTarget bound)
  | .shorthand _ name default =>
      exact (Collects.binder name).append (default.collects h isTarget bound)
  | .expression value => exact value.collects h isTarget bound
  | .decorated _ _ | .invalid _ => exact absurd h Bool.false_ne_true

theorem patternsCollect (patterns : List Pattern)
    (h : patternsPlain patterns = true) (isTarget : Bool)
    (bound : List String) :
    Collects isTarget (patternActions patterns) bound bound
      (patternsFree isTarget bound patterns) := by
  match patterns with
  | [] => exact .nil
  | pattern :: rest =>
      obtain ⟨hpattern, hrest⟩ := Bool.and_eq_true_iff.mp h
      exact (pattern.collects hpattern isTarget bound).append
        (patternsCollect rest hrest isTarget bound)

/-- A target on its own finds the same as a target inside of another. -/
theorem Pattern.collects_target (pattern : Pattern)
    (htarget : pattern.isTarget = true) (h : pattern.isPlain = true)
    (isTarget : Bool) (bound : List String) :
    Collects isTarget pattern.targetActions bound bound
      (pattern.free true bound) := by
  match pattern with
  | .identifier _ name type =>
      exact (Collects.use name).append_nil (TypeTerm.actions_of_isAbsent h)
  | .expression value => exact value.collects h isTarget bound
  | .array _ parts type | .object _ parts type =>
      obtain ⟨hparts, htype⟩ := Bool.and_eq_true_iff.mp h
      exact .assigning ((patternsCollect parts hparts true bound).append_nil
        (TypeTerm.actions_of_isAbsent htype))
  | .absent | .rest _ _ _ | .withDefault _ _ _ | .keyed _ _ _ | .shorthand _ _ _
  | .decorated _ _ | .invalid _ => exact absurd htarget Bool.false_ne_true

theorem Member.collects (member : Member) (h : member.isPlain = true)
    (isTarget : Bool) (bound : List String) :
    Collects isTarget member.actions bound bound (member.free bound) := by
  match member with
  | .shorthand _ name => exact .use name
  | .empty _ => exact .nil
  | .keyed _ key value =>
      obtain ⟨hkey, hvalue⟩ := Bool.and_eq_true_iff.mp h
      exact (key.collects hkey isTarget bound).append
        (value.collects hvalue isTarget bound)
  | .defaulted _ name value =>
      exact (Collects.use name).append (value.collects h isTarget bound)
  | .spread _ value => exact value.collects h isTarget bound
  | .method _ key function =>
      obtain ⟨hkey, hfunction⟩ := Bool.and_eq_true_iff.mp h
      exact (key.collects hkey isTarget bound).append
        (function.collects hfunction isTarget bound)
  | .constructor _ key params body =>
      obtain ⟨h, hbody⟩ := Bool.and_eq_true_iff.mp h
      obtain ⟨hkey, hparams⟩ := Bool.and_eq_true_iff.mp h
      have hactions : (Member.constructor ‹_› key params body).actions =
          [.scope (.bind ["arguments"] :: .bind (patternNames params) ::
            (patternActions params ++ body.actions))] := by
        change [Action.scope
          (.bind ["arguments"] :: .bind (patternNames params) ::
            (key.actions ++ patternActions params ++ body.actions))] = _
        rw [Expr.actions_of_isAbsent hkey, List.nil_append]
      rw [hactions]
      exact .scope (.bind _ (.bind _
        ((patternsCollect params hparams false _).append
          (body.collects hbody false _))))
  | .field _ key value type decorators =>
      obtain ⟨h, hdecorators⟩ := Bool.and_eq_true_iff.mp h
      obtain ⟨h, htype⟩ := Bool.and_eq_true_iff.mp h
      obtain ⟨hkey, hvalue⟩ := Bool.and_eq_true_iff.mp h
      exact (((key.collects hkey isTarget bound).append
        (value.collects hvalue isTarget bound)).append_nil
          (TypeTerm.actions_of_isAbsent htype)).append_nil
          (exprActions_of_isEmpty hdecorators)
  | .getter _ _ _ _ | .setter _ _ _ _ | .index _ _ _ | .staticBlock _ _ =>
      exact absurd h Bool.false_ne_true

theorem membersCollect (members : List Member) (h : membersPlain members = true)
    (isTarget : Bool) (bound : List String) :
    Collects isTarget (memberActions members) bound bound
      (membersFree bound members) := by
  match members with
  | [] => exact .nil
  | member :: rest =>
      obtain ⟨hmember, hrest⟩ := Bool.and_eq_true_iff.mp h
      exact (member.collects hmember isTarget bound).append
        (membersCollect rest hrest isTarget bound)

theorem Function.collects (function : Function) (h : function.isPlain = true)
    (isTarget : Bool) (bound : List String) :
    Collects isTarget function.actions bound bound (function.free bound) := by
  match function with
  | .mk typeParams decorators params result body =>
      obtain ⟨h, hbody⟩ := Bool.and_eq_true_iff.mp h
      obtain ⟨h, hresult⟩ := Bool.and_eq_true_iff.mp h
      obtain ⟨h, hparams⟩ := Bool.and_eq_true_iff.mp h
      obtain ⟨htypes, hdecorators⟩ := Bool.and_eq_true_iff.mp h
      have hactions :
          (Function.mk typeParams decorators params result body).actions =
          [.scope (.bind ["arguments"] :: .bind (patternNames params) ::
            (patternActions params ++ body.actions))] := by
        change [Action.scope (.bind ["arguments"] :: (typeActions typeParams ++
          .bind (patternNames params) ::
            (exprActions decorators ++ patternActions params ++
              result.actions ++ body.actions)))] = _
        rw [typeActions_of_isEmpty htypes, exprActions_of_isEmpty hdecorators,
          TypeTerm.actions_of_isAbsent hresult, List.nil_append,
          List.nil_append, List.append_nil]
      rw [hactions]
      exact .scope (.bind _ (.bind _
        ((patternsCollect params hparams false _).append
          (body.collects hbody false _))))

theorem Class.collects (value : Class) (h : value.isPlain = true)
    (isTarget : Bool) (bound : List String) :
    Collects isTarget value.actions bound bound (value.free bound) := by
  match value with
  | .mk typeParams decorators extended extendedArguments implemented members =>
      obtain ⟨h, hmembers⟩ := Bool.and_eq_true_iff.mp h
      obtain ⟨h, himplemented⟩ := Bool.and_eq_true_iff.mp h
      obtain ⟨h, harguments⟩ := Bool.and_eq_true_iff.mp h
      obtain ⟨h, hextended⟩ := Bool.and_eq_true_iff.mp h
      obtain ⟨htypes, hdecorators⟩ := Bool.and_eq_true_iff.mp h
      have hactions :
          (Class.mk typeParams decorators extended extendedArguments implemented
            members).actions =
            [.scope (extended.actions ++ memberActions members)] := by
        change [Action.scope
          (typeActions typeParams ++ exprActions decorators ++
            extended.actions ++ typeActions extendedArguments ++
            exprActions implemented ++
              memberActions members)] = _
        rw [typeActions_of_isEmpty htypes, exprActions_of_isEmpty hdecorators,
          typeActions_of_isEmpty harguments,
          exprActions_of_isEmpty himplemented, List.append_nil, List.append_nil,
          List.append_nil, List.nil_append]
      rw [hactions]
      exact .scope ((extended.collects hextended false bound).append
        (membersCollect members hmembers false bound))

theorem Body.collects (body : Body) (h : body.isPlain = true) (isTarget : Bool)
    (bound : List String) :
    Collects isTarget body.actions bound bound (body.free bound) := by
  match body with
  | .absent => exact .nil
  | .value value => exact value.collects h isTarget bound
  | .block body =>
      have hvar : varNamesIn body ⊆
          varNamesIn body ++ lexicalNamesIn body ++ bound := by
        rw [List.append_assoc]
        exact List.subset_append_left _ _
      have hlexical : lexicalNamesIn body ⊆
          varNamesIn body ++ lexicalNamesIn body ++ bound :=
        List.subset_append_of_subset_left _ (List.subset_append_right _ _)
      exact .scope (.bind _ ((stmtsCollect body h false _ hvar hlexical).congr
        (mem_bodyNames_append h bound)))

theorem Stmt.collects (stmt : Stmt) (h : stmt.isPlain = true) (isTarget : Bool)
    (bound : List String) (hvar : stmt.varNames ⊆ bound)
    (hlexical : stmt.lexicalNames ⊆ bound) :
    Collects isTarget stmt.actions bound bound (stmt.free bound) := by
  match stmt with
  | .absent | .empty | .debugger | .jump _ => exact .nil
  | .block body =>
      exact collects_block h hvar (stmtsCollect body h false _
        (List.subset_append_of_subset_right _ hvar)
        (List.subset_append_left _ _)) isTarget
  | .ret value | .throw value | .expression value
  | .exportDefaultDecl _ value =>
      exact value.collects h isTarget bound
  | .labelled _ body =>
      obtain ⟨halone, hbody⟩ := Bool.and_eq_true_iff.mp h
      exact body.collects hbody isTarget bound hvar
        (lexicalNames_of_mayStandAlone halone bound)
  | .ifElse test yes no =>
      obtain ⟨h, hno⟩ := Bool.and_eq_true_iff.mp h
      obtain ⟨h, hnoAlone⟩ := Bool.and_eq_true_iff.mp h
      obtain ⟨h, hyes⟩ := Bool.and_eq_true_iff.mp h
      obtain ⟨htest, hyesAlone⟩ := Bool.and_eq_true_iff.mp h
      obtain ⟨hyesVar, hnoVar⟩ := List.append_subset.mp hvar
      have hyesCollects := yes.collects hyes isTarget bound hyesVar
        (lexicalNames_of_mayStandAlone hyesAlone bound)
      have hnoCollects := no.collects hno isTarget bound hnoVar
        (lexicalNames_of_mayStandAlone hnoAlone bound)
      exact ((test.collects htest isTarget bound).append hyesCollects).append
        hnoCollects
  | .tryCatch body handler finalizer =>
      obtain ⟨h, hfinalizer⟩ := Bool.and_eq_true_iff.mp h
      obtain ⟨h, hfinalizerAlone⟩ := Bool.and_eq_true_iff.mp h
      obtain ⟨h, hhandler⟩ := Bool.and_eq_true_iff.mp h
      obtain ⟨hbody, hhandlerAlone⟩ := Bool.and_eq_true_iff.mp h
      obtain ⟨hvar, hfinalizerVar⟩ := List.append_subset.mp hvar
      obtain ⟨hbodyVar, hhandlerVar⟩ := List.append_subset.mp hvar
      have hbodyCollects :=
        collects_block hbody hbodyVar (stmtsCollect body hbody false _
          (List.subset_append_of_subset_right _ hbodyVar)
          (List.subset_append_left _ _)) isTarget
      have hhandlerCollects :=
        handler.collects hhandler isTarget bound hhandlerVar
          (lexicalNames_of_mayStandAlone hhandlerAlone bound)
      have hfinalizerCollects :=
        finalizer.collects hfinalizer isTarget bound hfinalizerVar
          (lexicalNames_of_mayStandAlone hfinalizerAlone bound)
      exact hbodyCollects.append (hhandlerCollects.append hfinalizerCollects)
  | .handler param body =>
      obtain ⟨hparam, hbody⟩ := Bool.and_eq_true_iff.mp h
      have hinner : varNamesIn body ⊆ param.names ++ bound :=
        List.subset_append_of_subset_right _ hvar
      have hbodyCollects :=
        collects_block hbody hinner (stmtsCollect body hbody false _
          (List.subset_append_of_subset_right _ hinner)
          (List.subset_append_left _ _)) false
      exact .scope
        (.bind _ ((param.collects hparam false _).append hbodyCollects))
  | .while test body | .doWhile test body =>
      obtain ⟨h, hbody⟩ := Bool.and_eq_true_iff.mp h
      obtain ⟨htest, halone⟩ := Bool.and_eq_true_iff.mp h
      exact (test.collects htest isTarget bound).append
        (body.collects hbody isTarget bound hvar
          (lexicalNames_of_mayStandAlone halone bound))
  | .forLoop head test step body =>
      obtain ⟨h, hbody⟩ := Bool.and_eq_true_iff.mp h
      obtain ⟨h, halone⟩ := Bool.and_eq_true_iff.mp h
      obtain ⟨h, hstep⟩ := Bool.and_eq_true_iff.mp h
      obtain ⟨h, htest⟩ := Bool.and_eq_true_iff.mp h
      obtain ⟨hhead, hplain⟩ := Bool.and_eq_true_iff.mp h
      obtain ⟨hheadVar, hbodyVar⟩ := List.append_subset.mp hvar
      have hbodyCollects :=
        body.collects hbody false (head.lexicalNames ++ bound)
          (List.subset_append_of_subset_right _ hbodyVar)
          (lexicalNames_of_mayStandAlone halone _)
      exact .scope ((((head.collects_head hhead hplain bound hheadVar).append
        (test.collects htest false _)).append
        (step.collects hstep false _)).append hbodyCollects)
  | .forEach head subject body =>
      obtain ⟨h, hbody⟩ := Bool.and_eq_true_iff.mp h
      obtain ⟨h, halone⟩ := Bool.and_eq_true_iff.mp h
      obtain ⟨h, hsubject⟩ := Bool.and_eq_true_iff.mp h
      obtain ⟨hhead, hplain⟩ := Bool.and_eq_true_iff.mp h
      obtain ⟨hheadVar, hbodyVar⟩ := List.append_subset.mp hvar
      have hbodyCollects :=
        body.collects hbody false (head.lexicalNames ++ bound)
          (List.subset_append_of_subset_right _ hbodyVar)
          (lexicalNames_of_mayStandAlone halone _)
      exact .scope (((head.collects_head hhead hplain bound hheadVar).append
        (subject.collects hsubject false _)).append hbodyCollects)
  | .target target => exact .assigning (target.collects h true bound)
  | .function _ function _ =>
      exact .rebind hlexical (function.collects h isTarget bound)
  | .classDecl _ value _ =>
      exact .rebind hlexical (value.collects h isTarget bound)
  | .variable _ _ declarators _ =>
      exact declaratorsCollect declarators h isTarget bound
        (patternNames_subset hvar hlexical)
  | .withObject _ _ | .switch _ _ | .case _ _ | .using _ _
  | .interface _ _ _ _ _ | .typeAlias _ _ _ _ | .enum _ _ _ _
  | .namespace _ _ _ _ | .importNames _ _ _ _ | .exportNames _ _ _ _
  | .exportDecl _ _ | .exportDefaultInterface _ _ | .exportDefaultExpr _ _
  | .exportAll _ _ | .importEquals _ _ _ | .exportAssignment _ _
  | .exportNamespace _ _ => exact absurd h Bool.false_ne_true

/-- Variables whose names are bound already. -/
theorem declaratorsCollect (patterns : List Pattern)
    (h : patternsPlain patterns = true) (isTarget : Bool) (bound : List String)
    (hnames : patternNames patterns ⊆ bound) :
    Collects isTarget (declaratorActions patterns) bound bound
      (patternsFree false bound patterns) := by
  match patterns with
  | [] => exact .nil
  | pattern :: rest =>
      obtain ⟨hpattern, hrest⟩ := Bool.and_eq_true_iff.mp h
      obtain ⟨hpatternNames, hrestNames⟩ := List.append_subset.mp hnames
      exact .rebind hpatternNames
        ((Collects.assigning (pattern.collects hpattern false bound)).append
          (declaratorsCollect rest hrest isTarget bound hrestNames))

/-- The head of a loop binds its lexical names for what follows. -/
theorem Stmt.collects_head (head : Stmt) (hhead : head.isHead = true)
    (h : head.isPlain = true) (bound : List String)
    (hvar : head.varNames ⊆ bound) :
    Collects false head.actions bound (head.lexicalNames ++ bound)
      (head.free (head.lexicalNames ++ bound)) := by
  match head with
  | .absent => exact .nil
  | .expression value => exact value.collects h false bound
  | .target target => exact .assigning (target.collects h true bound)
  | .variable _ .var [] _ | .variable _ .block [] _ => exact .nil
  -- The scope of a loop starts empty: a lexical name is bound by its
  -- declaration. More than one declaration would let an initial value see past
  -- a name that comes later.
  | .variable _ .var [pattern] _ =>
      obtain ⟨hpattern, -⟩ := Bool.and_eq_true_iff.mp h
      obtain ⟨hnames, -⟩ := List.append_subset.mp hvar
      exact .rebind hnames
        ((Collects.assigning (pattern.collects hpattern false bound)).append
          .nil)
  | .variable _ .block [pattern] _ =>
      obtain ⟨hpattern, -⟩ := Bool.and_eq_true_iff.mp h
      have hnames : pattern.names ++ bound =
          patternNames [pattern] ++ bound := by
        change _ = pattern.names ++ [] ++ bound
        rw [List.append_nil]
      refine .bind pattern.names ?_
      rw [hnames]
      exact (Collects.assigning (pattern.collects hpattern false _)).append .nil

theorem stmtsCollect (body : List Stmt) (h : stmtsPlain body = true)
    (isTarget : Bool) (bound : List String) (hvar : varNamesIn body ⊆ bound)
    (hlexical : lexicalNamesIn body ⊆ bound) :
    Collects isTarget (stmtActions body) bound bound
      (stmtsFree bound body) := by
  match body with
  | [] => exact .nil
  | stmt :: rest =>
      obtain ⟨hstmt, hrest⟩ := Bool.and_eq_true_iff.mp h
      obtain ⟨hstmtVar, hrestVar⟩ := List.append_subset.mp hvar
      rw [lexicalNamesIn, List.flatMap_cons] at hlexical
      obtain ⟨hstmtLexical, hrestLexical⟩ := List.append_subset.mp hlexical
      exact (stmt.collects hstmt isTarget bound hstmtVar hstmtLexical).append
        (stmtsCollect rest hrest isTarget bound hrestVar hrestLexical)

end

/-! ## Declarations -/

/-- Functions and classes, also those that are exported by default, and
statements that declare one variable. -/
def Stmt.isDeclaration : Stmt → Bool
  | .function _ _ _ | .classDecl _ _ _ | .variable _ _ [_] _
  | .exportDefaultDecl _ _ => true
  | _ => false

/-- The references of a declaration in the plain language are its free
occurrences under lexical scoping, where what it declares is bound around it. -/
theorem Stmt.freeNames_eq_free {declaration : Stmt}
    (h : declaration.isDeclaration = true)
    (hplain : declaration.isPlain = true) :
    declaration.freeNames =
      declaration.free (declaration.varNames ++ declaration.lexicalNames) := by
  match declaration with
  | .function name made _ =>
      exact (Collects.bind [name] (made.collects hplain false [name])).freeNames
  | .classDecl name value _ =>
      exact (Collects.bind [name]
        (value.collects hplain false [name])).freeNames
  | .exportDefaultDecl _ value =>
      exact (value.collects hplain false []).freeNames
  | .variable _ kind [pattern] _ =>
      obtain ⟨hpattern, -⟩ := Bool.and_eq_true_iff.mp hplain
      have hcollects : ∀ bound : List String, bound = pattern.names ++ [] →
          Collects false (declaratorActions [pattern]) [] bound
            (patternsFree false bound [pattern]) := by
        rintro bound rfl
        exact .bind pattern.names
          ((Collects.assigning (pattern.collects hpattern false _)).append .nil)
      refine (hcollects _ ?_).freeNames
      cases kind with
      | var => exact List.append_nil _
      | block => rfl

/-- A function with parameters that are taken apart, a loop, a handler, and an
inner function that is used before it is declared. -/
def tangled : Stmt :=
  let nowhere : Span := ⟨0, 0⟩
  let use (name : String) : Expr := .identifier nowhere name
  let binding (name : String) : Pattern := .identifier nowhere name .absent
  .function "f" (.mk [] []
    [.withDefault nowhere (binding "a") (use "x"),
      .object nowhere
        [.shorthand nowhere "b" .absent, .keyed nowhere (use "k") (binding "c")]
        .absent]
    .absent
    (.block
      [.forEach (.variable nowhere .block [binding "i"] false) (use "list")
        (.tryCatch
          [.expression (.assign nowhere true
            (.array nowhere [binding "b", binding "y"] .absent) (use "i"))]
          (.handler (binding "e") [.throw (use "e")]) .absent),
        .variable nowhere .var
          [.withDefault nowhere (binding "x")
            (.arrow nowhere [] [] .absent (.value (use "arguments")))] false,
        .ret (.call nowhere (use "inner") [use "x", use "f"] []),
        .function "inner"
          (.mk [] [] [binding "n"] .absent (.block [.ret (use "n")])) false]))
          false

theorem freeNames_tangled : tangled.freeNames = ["x", "k", "list", "y"] := by
  rw [Stmt.freeNames_eq_free rfl rfl]
  decide +kernel

end Prune.Script
