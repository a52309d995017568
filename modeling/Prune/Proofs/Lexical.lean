import Prune.Scope.Binding

/-!
# Free occurrences under lexical scoping

What the free names of a piece of program are, said without a walk: the names
that are bound around a tree are given, a tree that opens a scope passes more of
them down, and nothing is passed sideways or back. `Expr.free` and its
companions list the occurrences of names that none of the names around them
binds, in the order in which the parts of a tree are looked at.

Two kinds of names are in scope before they are declared. `Stmt.varNames` are
those that `var` declares anywhere below a statement; they belong to the body of
the function. `Stmt.lexicalNames` are those of `let`, `const`, `class` and
`function`; they belong to the list of statements they stand in, or to the loop
in whose head they stand.

This is the meaning of the plain language. `isPlain` tells which trees are
written in it: no type is written, no decorator, no private name and no element
with a tag, no accessor of an object and no static block, no `switch` and no
`with`; the head of a loop declares one variable at most, and apart from `var`
declarations stand in lists of statements only.
-/

namespace Prune.Script

/-! ## What is declared -/

mutual

/-- The names that `var` declares anywhere in a statement, up to the next
function or class. -/
def Stmt.varNames : Stmt → List String
  | .variable _ .var declarators _ => patternNames declarators
  | .block body | .handler _ body => varNamesIn body
  | .labelled _ body | .while _ body | .doWhile _ body => body.varNames
  | .ifElse _ yes no => yes.varNames ++ no.varNames
  | .tryCatch body handler finalizer =>
      varNamesIn body ++ handler.varNames ++ finalizer.varNames
  | .forLoop head _ _ body | .forEach head _ body =>
      head.varNames ++ body.varNames
  | _ => []

def varNamesIn : List Stmt → List String
  | [] => []
  | stmt :: rest => stmt.varNames ++ varNamesIn rest

end

/-- The names that a statement declares for the list or the loop in which it
stands. -/
def Stmt.lexicalNames : Stmt → List String
  | .variable _ .block declarators _ => patternNames declarators
  | .function name _ _ | .classDecl name _ _ => [name]
  | _ => []

def lexicalNamesIn (body : List Stmt) : List String :=
  body.flatMap Stmt.lexicalNames

/-! ## What is free -/

/-- An occurrence of a name, unless the name is bound. -/
def occurrence (bound : List String) (name : String) : List String :=
  if name ∈ bound then [] else [name]

mutual

/-- The free occurrences in an expression around which some names are bound. -/
def Expr.free (bound : List String) : Expr → List String
  | .identifier _ name => occurrence bound name
  | .spread _ value | .unary _ _ value | .update _ value | .optional _ _ value
  | .yield _ value | .await _ value | .parenthesized _ value => value.free bound
  | .array _ parts | .sequence _ parts | .template _ parts =>
      exprsFree bound parts
  | .object _ members => membersFree bound members
  | .function _ name function => function.free (name.toList ++ bound)
  | .arrow _ _ params _ body =>
      patternsFree false (patternNames params ++ bound) params ++
        body.free (patternNames params ++ bound)
  | .classExpr _ name value => value.free (name.toList ++ bound)
  | .binary _ _ left right => left.free bound ++ right.free bound
  | .assign _ _ target value => target.free true bound ++ value.free bound
  | .conditional _ test yes no =>
      test.free bound ++ yes.free bound ++ no.free bound
  | .member _ object key => object.free bound ++ key.free bound
  | .call _ callee arguments _ | .construct _ callee arguments _ =>
      callee.free bound ++ exprsFree bound arguments
  | .tagged _ tag _ parts => tag.free bound ++ exprsFree bound parts
  | _ => []

def exprsFree (bound : List String) : List Expr → List String
  | [] => []
  | value :: rest => value.free bound ++ exprsFree bound rest

/-- The free occurrences in a pattern. The names of a target are written to and
not declared. -/
def Pattern.free (isTarget : Bool) (bound : List String) : Pattern → List String
  | .identifier _ name _ => if isTarget then occurrence bound name else []
  | .array _ parts _ | .object _ parts _ => patternsFree isTarget bound parts
  | .rest _ target _ => target.free isTarget bound
  | .withDefault _ target value =>
      target.free isTarget bound ++ value.free bound
  | .keyed _ key target => key.free bound ++ target.free isTarget bound
  | .shorthand _ name default =>
      (if isTarget then occurrence bound name else []) ++ default.free bound
  | .expression value => value.free bound
  | _ => []

def patternsFree (isTarget : Bool) (bound : List String) :
    List Pattern → List String
  | [] => []
  | pattern :: rest =>
      pattern.free isTarget bound ++ patternsFree isTarget bound rest

def Member.free (bound : List String) : Member → List String
  | .shorthand _ name => occurrence bound name
  | .keyed _ key value | .field _ key value _ _ =>
      key.free bound ++ value.free bound
  | .defaulted _ name value => occurrence bound name ++ value.free bound
  | .spread _ value => value.free bound
  | .method _ key function => key.free bound ++ function.free bound
  | .constructor _ _ params body =>
      patternsFree false (patternNames params ++ "arguments" :: bound) params ++
        body.free (patternNames params ++ "arguments" :: bound)
  | _ => []

def membersFree (bound : List String) : List Member → List String
  | [] => []
  | member :: rest => member.free bound ++ membersFree bound rest

/-- Parameters and `arguments` are bound in the defaults and in the body. -/
def Function.free (bound : List String) : Function → List String
  | .mk _ _ params _ body =>
      patternsFree false (patternNames params ++ "arguments" :: bound) params ++
        body.free (patternNames params ++ "arguments" :: bound)

def Class.free (bound : List String) : Class → List String
  | .mk _ _ extended _ _ members =>
      extended.free bound ++ membersFree bound members

def Body.free (bound : List String) : Body → List String
  | .absent => []
  | .block body =>
      stmtsFree (varNamesIn body ++ lexicalNamesIn body ++ bound) body
  | .value value => value.free bound

/-- The free occurrences in a statement. What it declares is bound around it. -/
def Stmt.free (bound : List String) : Stmt → List String
  | .block body => stmtsFree (lexicalNamesIn body ++ bound) body
  | .ret value | .throw value | .expression value
  | .exportDefaultDecl _ value => value.free bound
  | .labelled _ body => body.free bound
  | .ifElse test yes no => test.free bound ++ yes.free bound ++ no.free bound
  | .tryCatch body handler finalizer =>
      stmtsFree (lexicalNamesIn body ++ bound) body ++
        (handler.free bound ++ finalizer.free bound)
  | .handler param body =>
      param.free false (param.names ++ bound) ++
        stmtsFree (lexicalNamesIn body ++ (param.names ++ bound)) body
  | .while test body | .doWhile test body => test.free bound ++ body.free bound
  | .forLoop head test step body =>
      head.free (head.lexicalNames ++ bound) ++
        test.free (head.lexicalNames ++ bound) ++
        step.free (head.lexicalNames ++ bound) ++
        body.free (head.lexicalNames ++ bound)
  | .forEach head subject body =>
      head.free (head.lexicalNames ++ bound) ++
        subject.free (head.lexicalNames ++ bound) ++
        body.free (head.lexicalNames ++ bound)
  | .target target => target.free true bound
  | .function _ function _ => function.free bound
  | .classDecl _ value _ => value.free bound
  | .variable _ _ declarators _ => patternsFree false bound declarators
  | _ => []

def stmtsFree (bound : List String) : List Stmt → List String
  | [] => []
  | stmt :: rest => stmt.free bound ++ stmtsFree bound rest

end

/-! ## The plain language -/

def TypeTerm.isAbsent : TypeTerm → Bool
  | .absent => true
  | _ => false

def Expr.isAbsent : Expr → Bool
  | .absent => true
  | _ => false

theorem TypeTerm.eq_absent {type : TypeTerm} (h : type.isAbsent = true) :
    type = .absent := by
  cases type with
  | absent => rfl
  | _ => cases h

theorem Expr.eq_absent {value : Expr} (h : value.isAbsent = true) :
    value = .absent := by
  cases value with
  | absent => rfl
  | _ => cases h

/-- Whether an expression can stand on the left of an assignment once it is read
as a pattern. -/
def Pattern.isTarget : Pattern → Bool
  | .identifier _ _ _ | .expression _ | .array _ _ _ | .object _ _ _ => true
  | _ => false

/-- Whether a statement may stand where one statement is expected and not a
list. -/
def Stmt.mayStandAlone : Stmt → Bool
  | .function _ _ _ | .classDecl _ _ _ | .variable _ .block _ _ => false
  | _ => true

/-- Whether a statement may be the head of a loop. -/
def Stmt.isHead : Stmt → Bool
  | .absent | .expression _ | .target _ => true
  | .variable _ _ declarators _ => declarators.length ≤ 1
  | _ => false

mutual

def Expr.isPlain : Expr → Bool
  | .absent | .identifier _ _ | .literal _ | .this _ | .superKeyword _
  | .importKeyword _ | .metaProperty _ => true
  | .spread _ value | .unary _ _ value | .update _ value | .optional _ _ value
  | .yield _ value | .await _ value | .parenthesized _ value => value.isPlain
  | .array _ parts | .sequence _ parts | .template _ parts => exprsPlain parts
  | .object _ members => membersPlain members
  | .function _ _ function => function.isPlain
  | .arrow _ typeParams params result body =>
      typeParams.isEmpty && patternsPlain params && result.isAbsent &&
        body.isPlain
  | .classExpr _ _ value => value.isPlain
  | .binary _ _ left right => left.isPlain && right.isPlain
  | .assign _ _ target value =>
      target.isTarget && target.isPlain && value.isPlain
  | .conditional _ test yes no => test.isPlain && yes.isPlain && no.isPlain
  | .member _ object key => object.isPlain && key.isPlain
  | .call _ callee arguments typeArguments
  | .construct _ callee arguments typeArguments =>
      callee.isPlain && exprsPlain arguments && typeArguments.isEmpty
  | .tagged _ tag typeArguments parts =>
      tag.isPlain && typeArguments.isEmpty && exprsPlain parts
  | .privateName _ | .ascribed _ _ _ _ | .element _ _ _ _ _ _ | .invalid _ =>
      false

def exprsPlain : List Expr → Bool
  | [] => true
  | value :: rest => value.isPlain && exprsPlain rest

def Pattern.isPlain : Pattern → Bool
  | .absent => true
  | .identifier _ _ type => type.isAbsent
  | .array _ parts type | .object _ parts type =>
      patternsPlain parts && type.isAbsent
  | .rest _ target type => target.isPlain && type.isAbsent
  | .withDefault _ target value => target.isPlain && value.isPlain
  | .keyed _ key target => key.isPlain && target.isPlain
  | .shorthand _ _ default => default.isPlain
  | .expression value => value.isPlain
  | .decorated _ _ | .invalid _ => false

def patternsPlain : List Pattern → Bool
  | [] => true
  | pattern :: rest => pattern.isPlain && patternsPlain rest

def Member.isPlain : Member → Bool
  | .shorthand _ _ | .empty _ => true
  | .keyed _ key value => key.isPlain && value.isPlain
  | .defaulted _ _ value | .spread _ value => value.isPlain
  | .method _ key function => key.isPlain && function.isPlain
  | .constructor _ key params body =>
      key.isAbsent && patternsPlain params && body.isPlain
  | .field _ key value type decorators =>
      key.isPlain && value.isPlain && type.isAbsent && decorators.isEmpty
  | .getter _ _ _ _ | .setter _ _ _ _ | .index _ _ _ | .staticBlock _ _ => false

def membersPlain : List Member → Bool
  | [] => true
  | member :: rest => member.isPlain && membersPlain rest

def Function.isPlain : Function → Bool
  | .mk typeParams decorators params result body =>
      typeParams.isEmpty && decorators.isEmpty && patternsPlain params &&
        result.isAbsent &&
        body.isPlain

def Class.isPlain : Class → Bool
  | .mk typeParams decorators extended extendedArguments implemented members =>
      typeParams.isEmpty && decorators.isEmpty && extended.isPlain &&
        extendedArguments.isEmpty &&
        implemented.isEmpty && membersPlain members

def Body.isPlain : Body → Bool
  | .absent => true
  | .block body => stmtsPlain body
  | .value value => value.isPlain

def Stmt.isPlain : Stmt → Bool
  | .absent | .empty | .debugger | .jump _ => true
  | .block body => stmtsPlain body
  | .ret value | .throw value | .expression value
  | .exportDefaultDecl _ value => value.isPlain
  | .labelled _ body => body.mayStandAlone && body.isPlain
  | .ifElse test yes no =>
      test.isPlain && yes.mayStandAlone && yes.isPlain && no.mayStandAlone &&
        no.isPlain
  | .tryCatch body handler finalizer =>
      stmtsPlain body && handler.mayStandAlone && handler.isPlain &&
        finalizer.mayStandAlone &&
        finalizer.isPlain
  | .handler param body => param.isPlain && stmtsPlain body
  | .while test body | .doWhile test body =>
      test.isPlain && body.mayStandAlone && body.isPlain
  | .forLoop head test step body =>
      head.isHead && head.isPlain && test.isPlain && step.isPlain &&
        body.mayStandAlone &&
        body.isPlain
  | .forEach head subject body =>
      head.isHead && head.isPlain && subject.isPlain && body.mayStandAlone &&
        body.isPlain
  | .target target => target.isPlain
  | .function _ function _ => function.isPlain
  | .classDecl _ value _ => value.isPlain
  | .variable _ _ declarators _ => patternsPlain declarators
  | _ => false

def stmtsPlain : List Stmt → Bool
  | [] => true
  | stmt :: rest => stmt.isPlain && stmtsPlain rest

end

end Prune.Script
