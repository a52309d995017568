import Prune.Proofs.Outcome
import Prune.Purity
import Prune.Script.Grammar

/-!
# The calls of statements that are dropped

A statement without effects is dropped, and with it everything that it would
have called. What it calls by itself are its `calls`: all of them, at any depth,
but for those in the bodies and parameters of functions, which run when somebody
calls the function. A mark says of one call that it does nothing. It speaks of
its own call only, and its arguments are looked at one by one.

What is called is not looked at. Reading a member may have effects, so a callee
such as `a.b` would never pass, and a mark stands for the callee as well as for
the call. So the calls inside a callee go unseen: `/*#__PURE__*/(f())()` is
dropped with its unmarked call of `f` (`unmarked_in_callee`). Every other call
of a statement that is dropped is marked and has arguments without effects
(`Stmt.annotated_of_isPure`).
-/

namespace Prune.Script

/-! ## What a statement calls -/

mutual

/-- The calls that evaluating an expression may make, each in front of those
inside it. -/
def Expr.calls : Expr → List Expr
  | .spread _ value | .unary _ _ value | .update _ value | .optional _ _ value
  | .yield _ value | .await _ value | .parenthesized _ value
  | .ascribed _ _ value _ =>
      value.calls
  | .array _ parts | .sequence _ parts | .template _ parts => exprsCalls parts
  | .object _ members => membersCalls members
  | .classExpr _ _ value => value.calls
  | .binary _ _ left right => left.calls ++ right.calls
  | .assign _ _ target value => target.calls ++ value.calls
  | .conditional _ test yes no => test.calls ++ yes.calls ++ no.calls
  | .member _ object key => object.calls ++ key.calls
  | .call span callee arguments types =>
      .call span callee arguments types ::
        (callee.calls ++ exprsCalls arguments)
  | .construct span callee arguments types =>
      .construct span callee arguments types ::
        (callee.calls ++ exprsCalls arguments)
  | .tagged _ tag _ parts => tag.calls ++ exprsCalls parts
  | .element _ _ attributes _ children _ =>
      exprsCalls attributes ++ exprsCalls children
  | _ => []

def exprsCalls : List Expr → List Expr
  | [] => []
  | value :: rest => value.calls ++ exprsCalls rest

def Pattern.calls : Pattern → List Expr
  | .array _ parts _ | .object _ parts _ => patternsCalls parts
  | .rest _ target _ => target.calls
  | .withDefault _ target value => target.calls ++ value.calls
  | .keyed _ key target => key.calls ++ target.calls
  | .shorthand _ _ default => default.calls
  | .decorated decorators param => exprsCalls decorators ++ param.calls
  | .expression value => value.calls
  | _ => []

def patternsCalls : List Pattern → List Expr
  | [] => []
  | pattern :: rest => pattern.calls ++ patternsCalls rest

/-- The calls that making a member may make. A static block runs when its class
is made. -/
def Member.calls : Member → List Expr
  | .keyed _ key value | .field _ key value _ _ => key.calls ++ value.calls
  | .defaulted _ _ value | .spread _ value => value.calls
  | .getter _ key _ _ | .setter _ key _ _ | .method _ key _
  | .constructor _ key _ _ => key.calls
  | .staticBlock _ body => stmtsCalls body
  | _ => []

def membersCalls : List Member → List Expr
  | [] => []
  | member :: rest => member.calls ++ membersCalls rest

/-- The calls in the decorators of a function. -/
def Function.decoratorCalls : Function → List Expr
  | .mk _ decorators _ _ _ => exprsCalls decorators

/-- The calls in the decorators of a member of a class. -/
def Member.decoratorCalls : Member → List Expr
  | .method _ _ function => function.decoratorCalls
  | .field _ _ _ _ decorators => exprsCalls decorators
  | _ => []

def decoratorCalls : List Member → List Expr
  | [] => []
  | member :: rest => member.decoratorCalls ++ decoratorCalls rest

def Class.calls : Class → List Expr
  | .mk _ decorators extended _ _ members =>
      exprsCalls decorators ++ extended.calls ++ membersCalls members ++
        decoratorCalls members

def Stmt.calls : Stmt → List Expr
  | .block body | .namespace _ _ body _ => stmtsCalls body
  | .withObject value body | .while value body | .doWhile value body =>
      value.calls ++ body.calls
  | .ret value | .throw value | .expression value | .exportDefaultDecl _ value
  | .exportDefaultExpr _ value | .exportAssignment _ value => value.calls
  | .labelled _ body | .exportDecl _ body => body.calls
  | .ifElse test yes no => test.calls ++ yes.calls ++ no.calls
  | .switch value body | .case value body => value.calls ++ stmtsCalls body
  | .tryCatch body handler finalizer =>
      stmtsCalls body ++ handler.calls ++ finalizer.calls
  | .handler param body => param.calls ++ stmtsCalls body
  | .forLoop start test step body =>
      start.calls ++ test.calls ++ step.calls ++ body.calls
  | .forEach head subject body => head.calls ++ subject.calls ++ body.calls
  | .target target => target.calls
  | .classDecl _ value _ => value.calls
  | .variable _ _ declarators _ | .using _ declarators =>
      patternsCalls declarators
  | .enum _ _ values _ => exprsCalls values
  | _ => []

def stmtsCalls : List Stmt → List Expr
  | [] => []
  | stmt :: rest => stmt.calls ++ stmtsCalls rest

end

def Expr.callee : Expr → Expr
  | .call _ callee _ _ | .construct _ callee _ _ => callee
  | _ => .absent

def Expr.arguments : Expr → List Expr
  | .call _ _ arguments _ | .construct _ _ arguments _ => arguments
  | _ => []

/-! ## Marked calls -/

variable {marks : List Nat}

/-- A call that has no effect by itself, since it is marked and its arguments
have none. -/
structure Expr.IsAnnotated (marks : List Nat) (call : Expr) : Prop where
  isPure : call.isPure marks = true
  marked : marks.contains call.span.lo = true
  arguments : allPure marks call.arguments = true

/-- Every call of a list is annotated, or it is inside the callee of one that
is. -/
def Excused (marks : List Nat) (calls : List Expr) : Prop :=
  ∀ call ∈ calls, call.IsAnnotated marks ∨
    ∃ outer ∈ calls, outer.IsAnnotated marks ∧ call ∈ outer.callee.calls

theorem Excused.nil : Excused marks [] :=
  fun _ hcall => absurd hcall List.not_mem_nil

theorem Excused.append {calls others : List Expr} (h : Excused marks calls)
    (hothers : Excused marks others) : Excused marks (calls ++ others) := by
  intro call hcall
  rcases List.mem_append.mp hcall with hleft | hright
  · exact (h call hleft).imp_right fun ⟨outer, houter, hinside⟩ =>
      ⟨outer, List.mem_append_left _ houter, hinside⟩
  · exact (hothers call hright).imp_right fun ⟨outer, houter, hinside⟩ =>
      ⟨outer, List.mem_append_right _ houter, hinside⟩

/-- An annotated call excuses its callee, whatever is called there. -/
theorem Excused.cons {call : Expr} {calls : List Expr}
    (hcall : call.IsAnnotated marks) (h : Excused marks calls) :
    Excused marks (call :: (call.callee.calls ++ calls)) := by
  intro other hother
  rcases List.mem_cons.mp hother with rfl | hinside
  · exact Or.inl hcall
  rcases List.mem_append.mp hinside with hcallee | hrest
  · exact Or.inr ⟨call, List.mem_cons_self, hcall, hcallee⟩
  · exact (h other hrest).imp_right fun ⟨outer, houter, hinside⟩ =>
      ⟨outer, List.mem_cons_of_mem _ (List.mem_append_right _ houter), hinside⟩

theorem Expr.marked_of_isPure {span : Span} {callee : Expr}
    {arguments : List Expr} {types : List TypeTerm}
    (h : (Expr.call span callee arguments types).isPure marks = true) :
    marks.contains span.lo = true ∧ allPure marks arguments = true := by
  cases callee with
  | superKeyword | importKeyword => cases h
  | _ => exact Bool.and_eq_true_iff.mp h

mutual

theorem Expr.excused_calls (value : Expr) (h : value.isPure marks = true) :
    Excused marks value.calls := by
  match value with
  | .absent | .literal _ | .identifier _ _ | .this _ | .function _ _ _
  | .arrow _ _ _ _ _ =>
      exact .nil
  | .template _ parts | .array _ parts | .sequence _ parts =>
      exact excused_exprsCalls parts h
  | .object _ members => exact excused_membersCalls members h
  | .unary _ _ operand =>
      exact operand.excused_calls (Bool.and_eq_true_iff.mp h).2
  | .binary _ _ left right =>
      obtain ⟨hleft, hright⟩ := Bool.and_eq_true_iff.mp h
      exact (left.excused_calls hleft).append (right.excused_calls hright)
  | .conditional _ test yes no =>
      obtain ⟨h, hno⟩ := Bool.and_eq_true_iff.mp h
      obtain ⟨htest, hyes⟩ := Bool.and_eq_true_iff.mp h
      exact ((test.excused_calls htest).append (yes.excused_calls hyes)).append
        (no.excused_calls hno)
  | .parenthesized _ value | .ascribed _ _ value _ =>
      exact value.excused_calls h
  | .call span callee arguments types =>
      -- Nothing is known of the callee here, and nothing is asked of its calls.
      obtain ⟨hmarked, harguments⟩ := Expr.marked_of_isPure h
      exact .cons ⟨h, hmarked, harguments⟩
        (excused_exprsCalls arguments harguments)
  | .construct span callee arguments types =>
      obtain ⟨hmarked, harguments⟩ := Bool.and_eq_true_iff.mp h
      exact .cons ⟨h, hmarked, harguments⟩
        (excused_exprsCalls arguments harguments)

theorem excused_exprsCalls (values : List Expr)
    (h : allPure marks values = true) :
    Excused marks (exprsCalls values) := by
  match values with
  | [] => exact .nil
  | value :: rest =>
      obtain ⟨hvalue, hrest⟩ := Bool.and_eq_true_iff.mp h
      exact (value.excused_calls hvalue).append (excused_exprsCalls rest hrest)

theorem Member.excused_calls (member : Member)
    (h : member.isPure marks = true) :
    Excused marks member.calls := by
  match member with
  | .shorthand _ _ => exact .nil
  | .keyed _ key value =>
      obtain ⟨hkey, hvalue⟩ := Bool.and_eq_true_iff.mp h
      exact (key.excused_calls hkey).append (value.excused_calls hvalue)
  | .method _ key _ => exact key.excused_calls h

theorem excused_membersCalls (members : List Member)
    (h : membersPure marks members = true) :
    Excused marks (membersCalls members) := by
  match members with
  | [] => exact .nil
  | member :: rest =>
      obtain ⟨hmember, hrest⟩ := Bool.and_eq_true_iff.mp h
      exact (member.excused_calls hmember).append
        (excused_membersCalls rest hrest)

end

/-- A statement that is dropped drops no call that is not annotated, whatever is
marked, except inside the callees of calls that are. -/
theorem Stmt.annotated_of_isPure {stmt : Stmt} (h : stmt.isPure marks = true)
    {call : Expr} (hcall : call ∈ stmt.calls) :
    call.IsAnnotated marks ∨ ∃ outer ∈ stmt.calls,
      outer.IsAnnotated marks ∧ call ∈ outer.callee.calls := by
  cases stmt with
  | empty => cases hcall
  | expression value => exact value.excused_calls h call hcall
  | _ => cases h

/-- A marked call of what an unmarked call gives. -/
def shielded : Except Unreadable SourceFile :=
  SourceFile.read ⟨false, true⟩ "/*#__PURE__*/(f())()".toList

theorem calls_shielded :
    ∃ file item, shielded = .ok file ∧ file.items = [item] ∧
    item.stmt.isPure file.marks = true ∧
    item.stmt.calls.map (Expr.isPure file.marks) = [true, false] := by
  have hread : shielded.toOption.map (fun file => file.items.map fun item =>
      (item.stmt.isPure file.marks,
        item.stmt.calls.map (Expr.isPure file.marks))) =
        some [(true, [true, false])] := by
    decide +kernel
  obtain ⟨file, hfile, hitems⟩ := Option.map_eq_some_iff.mp hread
  obtain ⟨item, hitem, hfacts⟩ := List.map_eq_singleton_iff.mp hitems
  obtain ⟨hpure, hcalls⟩ := Prod.mk.inj hfacts
  exact ⟨file, item, ok_of_toOption hfile, hitem, hpure, hcalls⟩

theorem Stmt.annotated_of_isPure_shielded :
    ∃ file item, shielded = .ok file ∧ file.items = [item] ∧
    item.stmt.isPure file.marks = true ∧
    ∃ call ∈ item.stmt.calls, ∃ outer ∈ item.stmt.calls,
      outer.IsAnnotated file.marks ∧ call ∈ outer.callee.calls := by
  obtain ⟨file, item, hfile, hitem, hpure, hcalls⟩ := calls_shielded
  refine ⟨file, item, hfile, hitem, hpure, ?_⟩
  have hmem : false ∈ item.stmt.calls.map (Expr.isPure file.marks) := by
    rw [hcalls]
    decide
  obtain ⟨call, hcall, hunmarked⟩ := List.mem_map.mp hmem
  refine ⟨call, hcall,
    (Stmt.annotated_of_isPure hpure hcall).resolve_left fun hannotated => ?_⟩
  rw [hannotated.isPure] at hunmarked
  cases hunmarked

/-- The callee of a marked call may make a call that is not marked. -/
theorem unmarked_in_callee :
    ∃ file item, shielded = .ok file ∧ file.items = [item] ∧
    item.stmt.isPure file.marks = true ∧
    ∃ call ∈ item.stmt.calls, call.isPure file.marks = false := by
  obtain ⟨file, item, hfile, hitem, hpure, hcalls⟩ := calls_shielded
  have hmem : false ∈ item.stmt.calls.map (Expr.isPure file.marks) := by
    rw [hcalls]
    decide
  exact ⟨file, item, hfile, hitem, hpure, List.mem_map.mp hmem⟩

end Prune.Script
