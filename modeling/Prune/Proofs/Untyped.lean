import Prune.Proofs.Lexical
import Prune.Proofs.Spills

/-!
# Expressions without types

An expression binds no name in the scope in which it stands, with one exception:
an `infer` in a type that is written in it. Functions and classes are scopes of
their own, so what is written in them does not matter, and apart from them there
are few places in an expression where a type can stand: behind `as` and its
like, as arguments of a call or an element, and next to the parts of a pattern
that is assigned to.

`Expr.isUntyped` says that none of these is taken, and the law is that such an
expression leaves nothing bound (`Expr.spills_of_isUntyped`). What is walked
behind it is walked as if it were not there.
-/

namespace Prune.Script

mutual

/-- Whether no type is written in an expression. Functions and classes are not
looked into: what is written in them concerns their own scopes. -/
def Expr.isUntyped : Expr → Bool
  | .absent | .identifier _ _ | .literal _ | .this _ | .superKeyword _
  | .importKeyword _ | .metaProperty _ | .privateName _ | .invalid _
  | .function _ _ _ | .arrow _ _ _ _ _ | .classExpr _ _ _ => true
  | .spread _ value | .unary _ _ value | .update _ value | .optional _ _ value
  | .yield _ value | .await _ value | .parenthesized _ value => value.isUntyped
  | .array _ parts | .sequence _ parts | .template _ parts => exprsUntyped parts
  | .object _ members => membersUntyped members
  | .binary _ _ left right => left.isUntyped && right.isUntyped
  | .assign _ _ target value => target.isUntyped && value.isUntyped
  | .conditional _ test yes no =>
      test.isUntyped && yes.isUntyped && no.isUntyped
  | .member _ object key => object.isUntyped && key.isUntyped
  | .call _ callee arguments typeArguments
  | .construct _ callee arguments typeArguments =>
      callee.isUntyped && exprsUntyped arguments && typeArguments.isEmpty
  | .tagged _ tag typeArguments parts =>
      tag.isUntyped && typeArguments.isEmpty && exprsUntyped parts
  | .ascribed _ _ value types => value.isUntyped && types.isEmpty
  | .element _ _ attributes typeArguments children _ =>
      exprsUntyped attributes && typeArguments.isEmpty && exprsUntyped children

def exprsUntyped : List Expr → Bool
  | [] => true
  | value :: rest => value.isUntyped && exprsUntyped rest

def Pattern.isUntyped : Pattern → Bool
  | .absent | .invalid _ => true
  | .identifier _ _ type => type.isAbsent
  | .array _ parts type | .object _ parts type =>
      patternsUntyped parts && type.isAbsent
  | .rest _ target type => target.isUntyped && type.isAbsent
  | .withDefault _ target value => target.isUntyped && value.isUntyped
  | .keyed _ key target => key.isUntyped && target.isUntyped
  | .shorthand _ _ default => default.isUntyped
  | .decorated decorators param => exprsUntyped decorators && param.isUntyped
  | .expression value => value.isUntyped

def patternsUntyped : List Pattern → Bool
  | [] => true
  | pattern :: rest => pattern.isUntyped && patternsUntyped rest

def Member.isUntyped : Member → Bool
  | .shorthand _ _ | .staticBlock _ _ | .empty _ | .setter _ _ _ _
  | .constructor _ _ _ _ => true
  | .keyed _ key value => key.isUntyped && value.isUntyped
  | .defaulted _ _ value | .spread _ value => value.isUntyped
  | .getter _ key type _ => key.isUntyped && type.isAbsent
  | .method _ key _ => key.isUntyped
  | .field _ key value type decorators =>
      key.isUntyped && value.isUntyped && type.isAbsent &&
        exprsUntyped decorators
  | .index _ params type => patternsUntyped params && type.isAbsent

def membersUntyped : List Member → Bool
  | [] => true
  | member :: rest => member.isUntyped && membersUntyped rest

end

theorem TypeTerm.spills_of_isAbsent {type : TypeTerm}
    (h : type.isAbsent = true) :
    type.spills = [] := by
  rw [TypeTerm.eq_absent h]
  rfl

theorem typesSpill_of_isEmpty {types : List TypeTerm}
    (h : types.isEmpty = true) :
    typesSpill types = [] := by
  rw [List.isEmpty_iff.mp h]
  rfl

mutual

theorem Expr.spills_of_isUntyped (value : Expr) (h : value.isUntyped = true) :
    value.spills = [] := by
  match value with
  | .absent | .identifier _ _ | .literal _ | .this _ | .superKeyword _
  | .importKeyword _ | .metaProperty _ | .privateName _ | .invalid _
  | .function _ _ _ | .arrow _ _ _ _ _ | .classExpr _ _ _ => rfl
  | .spread _ value | .unary _ _ value | .update _ value | .optional _ _ value
  | .yield _ value | .await _ value
  | .parenthesized _ value => exact value.spills_of_isUntyped h
  | .array _ parts | .sequence _ parts | .template _ parts =>
      exact exprsSpill_of_untyped parts h
  | .object _ members => exact membersSpill_of_untyped members h
  | .binary _ _ left right =>
      obtain ⟨hleft, hright⟩ := Bool.and_eq_true_iff.mp h
      exact List.append_eq_nil_iff.mpr
        ⟨left.spills_of_isUntyped hleft, right.spills_of_isUntyped hright⟩
  | .assign _ _ target value =>
      obtain ⟨htarget, hvalue⟩ := Bool.and_eq_true_iff.mp h
      exact List.append_eq_nil_iff.mpr
        ⟨target.targetSpills_of_isUntyped htarget,
          value.spills_of_isUntyped hvalue⟩
  | .conditional _ test yes no =>
      obtain ⟨h, hno⟩ := Bool.and_eq_true_iff.mp h
      obtain ⟨htest, hyes⟩ := Bool.and_eq_true_iff.mp h
      exact List.append_eq_nil_iff.mpr ⟨List.append_eq_nil_iff.mpr
        ⟨test.spills_of_isUntyped htest, yes.spills_of_isUntyped hyes⟩,
        no.spills_of_isUntyped hno⟩
  | .member _ object key =>
      obtain ⟨hobject, hkey⟩ := Bool.and_eq_true_iff.mp h
      exact List.append_eq_nil_iff.mpr
        ⟨object.spills_of_isUntyped hobject, key.spills_of_isUntyped hkey⟩
  | .call _ callee arguments typeArguments
  | .construct _ callee arguments typeArguments =>
      obtain ⟨h, htypes⟩ := Bool.and_eq_true_iff.mp h
      obtain ⟨hcallee, harguments⟩ := Bool.and_eq_true_iff.mp h
      exact List.append_eq_nil_iff.mpr ⟨List.append_eq_nil_iff.mpr
        ⟨callee.spills_of_isUntyped hcallee,
          exprsSpill_of_untyped arguments harguments⟩,
        typesSpill_of_isEmpty htypes⟩
  | .tagged _ tag typeArguments parts =>
      obtain ⟨h, hparts⟩ := Bool.and_eq_true_iff.mp h
      obtain ⟨htag, htypes⟩ := Bool.and_eq_true_iff.mp h
      exact List.append_eq_nil_iff.mpr ⟨List.append_eq_nil_iff.mpr
        ⟨tag.spills_of_isUntyped htag, typesSpill_of_isEmpty htypes⟩,
        exprsSpill_of_untyped parts hparts⟩
  | .ascribed _ _ value types =>
      obtain ⟨hvalue, htypes⟩ := Bool.and_eq_true_iff.mp h
      exact List.append_eq_nil_iff.mpr
        ⟨value.spills_of_isUntyped hvalue, typesSpill_of_isEmpty htypes⟩
  | .element _ _ attributes typeArguments children _ =>
      obtain ⟨h, hchildren⟩ := Bool.and_eq_true_iff.mp h
      obtain ⟨hattributes, htypes⟩ := Bool.and_eq_true_iff.mp h
      exact List.append_eq_nil_iff.mpr ⟨List.append_eq_nil_iff.mpr
        ⟨exprsSpill_of_untyped attributes hattributes,
          typesSpill_of_isEmpty htypes⟩,
        exprsSpill_of_untyped children hchildren⟩

theorem exprsSpill_of_untyped (values : List Expr)
    (h : exprsUntyped values = true) :
    exprsSpill values = [] := by
  match values with
  | [] => rfl
  | value :: rest =>
      obtain ⟨hvalue, hrest⟩ := Bool.and_eq_true_iff.mp h
      exact List.append_eq_nil_iff.mpr
        ⟨value.spills_of_isUntyped hvalue, exprsSpill_of_untyped rest hrest⟩

theorem Pattern.spills_of_isUntyped (pattern : Pattern)
    (h : pattern.isUntyped = true) :
    pattern.spills = [] := by
  match pattern with
  | .absent | .invalid _ => rfl
  | .identifier _ _ type => exact TypeTerm.spills_of_isAbsent h
  | .array _ parts type | .object _ parts type =>
      obtain ⟨hparts, htype⟩ := Bool.and_eq_true_iff.mp h
      exact List.append_eq_nil_iff.mpr
        ⟨patternsSpill_of_untyped parts hparts,
          TypeTerm.spills_of_isAbsent htype⟩
  | .rest _ target type =>
      obtain ⟨htarget, htype⟩ := Bool.and_eq_true_iff.mp h
      exact List.append_eq_nil_iff.mpr
        ⟨target.spills_of_isUntyped htarget, TypeTerm.spills_of_isAbsent htype⟩
  | .withDefault _ target value =>
      obtain ⟨htarget, hvalue⟩ := Bool.and_eq_true_iff.mp h
      exact List.append_eq_nil_iff.mpr
        ⟨target.spills_of_isUntyped htarget, value.spills_of_isUntyped hvalue⟩
  | .keyed _ key target =>
      obtain ⟨hkey, htarget⟩ := Bool.and_eq_true_iff.mp h
      exact List.append_eq_nil_iff.mpr
        ⟨key.spills_of_isUntyped hkey, target.spills_of_isUntyped htarget⟩
  | .shorthand _ _ default => exact default.spills_of_isUntyped h
  | .decorated decorators param =>
      obtain ⟨hdecorators, hparam⟩ := Bool.and_eq_true_iff.mp h
      exact List.append_eq_nil_iff.mpr
        ⟨exprsSpill_of_untyped decorators hdecorators,
          param.spills_of_isUntyped hparam⟩
  | .expression value => exact value.spills_of_isUntyped h

theorem Pattern.targetSpills_of_isUntyped (pattern : Pattern)
    (h : pattern.isUntyped = true) :
    pattern.targetSpills = [] := by
  match pattern with
  | .absent | .invalid _ | .rest _ _ _ | .withDefault _ _ _ | .keyed _ _ _
  | .shorthand _ _ _ | .decorated _ _ => rfl
  | .identifier _ _ type => exact TypeTerm.spills_of_isAbsent h
  | .array _ parts type | .object _ parts type =>
      obtain ⟨hparts, htype⟩ := Bool.and_eq_true_iff.mp h
      exact List.append_eq_nil_iff.mpr
        ⟨patternsSpill_of_untyped parts hparts,
          TypeTerm.spills_of_isAbsent htype⟩
  | .expression value => exact value.spills_of_isUntyped h

theorem patternsSpill_of_untyped (patterns : List Pattern)
    (h : patternsUntyped patterns = true) :
    patternsSpill patterns = [] := by
  match patterns with
  | [] => rfl
  | pattern :: rest =>
      obtain ⟨hpattern, hrest⟩ := Bool.and_eq_true_iff.mp h
      exact List.append_eq_nil_iff.mpr
        ⟨pattern.spills_of_isUntyped hpattern,
          patternsSpill_of_untyped rest hrest⟩

theorem Member.spills_of_isUntyped (member : Member)
    (h : member.isUntyped = true) :
    member.spills = [] := by
  match member with
  | .shorthand _ _ | .staticBlock _ _ | .empty _ | .setter _ _ _ _
  | .constructor _ _ _ _ => rfl
  | .keyed _ key value =>
      obtain ⟨hkey, hvalue⟩ := Bool.and_eq_true_iff.mp h
      exact List.append_eq_nil_iff.mpr
        ⟨key.spills_of_isUntyped hkey, value.spills_of_isUntyped hvalue⟩
  | .defaulted _ _ value | .spread _ value => exact value.spills_of_isUntyped h
  | .getter _ key type _ =>
      obtain ⟨hkey, htype⟩ := Bool.and_eq_true_iff.mp h
      exact List.append_eq_nil_iff.mpr
        ⟨key.spills_of_isUntyped hkey, TypeTerm.spills_of_isAbsent htype⟩
  | .method _ key _ => exact key.spills_of_isUntyped h
  | .field _ key value type decorators =>
      obtain ⟨h, hdecorators⟩ := Bool.and_eq_true_iff.mp h
      obtain ⟨h, htype⟩ := Bool.and_eq_true_iff.mp h
      obtain ⟨hkey, hvalue⟩ := Bool.and_eq_true_iff.mp h
      exact List.append_eq_nil_iff.mpr
        ⟨List.append_eq_nil_iff.mpr ⟨List.append_eq_nil_iff.mpr
          ⟨key.spills_of_isUntyped hkey, value.spills_of_isUntyped hvalue⟩,
          TypeTerm.spills_of_isAbsent htype⟩,
          exprsSpill_of_untyped decorators hdecorators⟩
  | .index _ params type =>
      obtain ⟨hparams, htype⟩ := Bool.and_eq_true_iff.mp h
      exact List.append_eq_nil_iff.mpr
        ⟨patternsSpill_of_untyped params hparams,
          TypeTerm.spills_of_isAbsent htype⟩

theorem membersSpill_of_untyped (members : List Member)
    (h : membersUntyped members = true) :
    membersSpill members = [] := by
  match members with
  | [] => rfl
  | member :: rest =>
      obtain ⟨hmember, hrest⟩ := Bool.and_eq_true_iff.mp h
      exact List.append_eq_nil_iff.mpr
        ⟨member.spills_of_isUntyped hmember, membersSpill_of_untyped rest hrest⟩

end

end Prune.Script
