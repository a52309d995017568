import Prune.Script.Tree

/-!
# Purity

Which statements can be dropped when nothing refers to them: those that only
evaluate an expression without effects. Reading a variable and making a function
have none; reading a member may have some. A call may do anything, unless a mark
before it says that it does nothing, and its arguments do nothing either.
-/

namespace Prune.Script

mutual

/-- Whether evaluating an expression has no effect. `marks` holds the starts of
the expressions that are marked as free of effects. -/
def Expr.isPure (marks : List Nat) : Expr → Bool
  | .absent | .literal _ | .identifier _ _ | .this _ | .function _ _ _
  | .arrow _ _ _ _ _ => true
  | .template _ parts => allPure marks parts
  | .array _ elements => allPure marks elements
  | .object _ members => membersPure marks members
  | .unary _ op operand => op ≠ .delete && operand.isPure marks
  | .binary _ _ left right => left.isPure marks && right.isPure marks
  | .conditional _ test yes no =>
      test.isPure marks && yes.isPure marks && no.isPure marks
  | .parenthesized _ value => value.isPure marks
  | .sequence _ parts => allPure marks parts
  | .ascribed _ _ value _ => value.isPure marks
  | .call _ (.superKeyword _) _ _ | .call _ (.importKeyword _) _ _ => false
  | .call span _ arguments _ | .construct span _ arguments _ =>
      marks.contains span.lo && allPure marks arguments
  | _ => false

def allPure (marks : List Nat) : List Expr → Bool
  | [] => true
  | value :: rest => value.isPure marks && allPure marks rest

/-- Whether making a member has no effect. -/
def Member.isPure (marks : List Nat) : Member → Bool
  | .shorthand _ _ => true
  | .keyed _ key value => key.isPure marks && value.isPure marks
  | .method _ key _ => key.isPure marks
  | _ => false

def membersPure (marks : List Nat) : List Member → Bool
  | [] => true
  | member :: rest => member.isPure marks && membersPure marks rest

end

def Stmt.isPure (marks : List Nat) : Stmt → Bool
  | .empty => true
  | .expression value => value.isPure marks
  | _ => false

end Prune.Script
