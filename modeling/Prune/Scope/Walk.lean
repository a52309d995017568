import Prune.Scope.Action
import Prune.Scope.Binding
import Prune.Text.Letter

/-!
# The scopes of a tree

The actions of each kind of tree, in the order in which its parts are looked at.
`Expr.actions` and its companions say for every construct which scopes it opens,
what it binds there and when.

A function binds `arguments` and its parameters in one scope and runs its body
in a scope below, so that a default never sees a name of the body. A block binds
what is declared in it before anything in it is looked at.
-/

namespace Prune.Script

open Prune.Scope

/-- The use of the name of an element. A plain name that starts with a small
letter is no name of the program. -/
def Tag.actions : Tag → List Action
  | .plain name =>
      if (name.toList.head?).elim false Text.isSmall then [] else [.use name]
  | .dotted root => [.use root]
  | .prefixed => []

def ExportName.actions : ExportName → List Action
  | .identifier name => [.use name]
  | .text _ => []

def ImportSpecifier.actions : ImportSpecifier → List Action
  | .named localName imported =>
      .use localName :: imported.elim [] ExportName.actions
  | .default _ localName | .everything _ localName => [.use localName]

def ExportSpecifier.actions : ExportSpecifier → List Action
  | .named inner exported =>
      inner.actions ++ exported.elim [] ExportName.actions
  | .default name => [.use name]
  | .everything name => name.actions

mutual

def TypeTerm.actions : TypeTerm → List Action
  | .absent | .plain => []
  | .named root arguments => .use root :: typeActions arguments
  | .query root arguments => .use root :: typeActions arguments
  | .compound parts => typeActions parts
  | .conditional check extended yes no =>
      check.actions ++ extended.actions ++ yes.actions ++ no.actions
  | .infer param => param.actions
  | .labelled label type => .binder label :: type.actions
  | .signature typeParams params result =>
      [.scope
        (typeActions typeParams ++ patternActions params ++ result.actions)]
  | .object members => typeActions members
  | .mapped param renamed value =>
      [.scope (param.actions ++ renamed.actions ++ value.actions)]
  | .predicate subject type =>
      (subject.elim [] fun name => [.use name]) ++ type.actions
  | .parameter name constraint default =>
      .bind [name] :: constraint.actions ++ default.actions
  | .property key type => key.actions ++ type.actions
  | .setter key param => key.actions ++ param.actions
  | .method key typeParams params result =>
      [.scope
        (key.actions ++ typeActions typeParams ++ patternActions params ++
          result.actions)]
  | .index params type => patternActions params ++ type.actions

def typeActions : List TypeTerm → List Action
  | [] => []
  | type :: rest => type.actions ++ typeActions rest

def Expr.actions : Expr → List Action
  | .absent | .literal _ | .this _ | .superKeyword _ | .importKeyword _
  | .metaProperty _ | .privateName _ | .invalid _ => []
  | .identifier _ name => [.use name]
  | .spread _ value => value.actions
  | .array _ elements => exprActions elements
  | .object _ members => memberActions members
  | .function _ name function =>
      [.scope (.bind name.toList :: function.actions)]
  | .arrow _ typeParams params result body =>
      [.scope (typeActions typeParams ++ .bind (patternNames params) ::
        (patternActions params ++ result.actions ++ body.actions))]
  | .classExpr _ name value => [.scope (.bind name.toList :: value.actions)]
  | .unary _ _ operand => operand.actions
  | .update _ operand => operand.actions
  | .binary _ _ left right => left.actions ++ right.actions
  | .assign _ _ target value => target.targetActions ++ value.actions
  | .conditional _ test yes no => test.actions ++ yes.actions ++ no.actions
  | .member _ object key => object.actions ++ key.actions
  | .call _ callee arguments typeArguments =>
      callee.actions ++ exprActions arguments ++ typeActions typeArguments
  | .construct _ callee arguments typeArguments =>
      callee.actions ++ exprActions arguments ++ typeActions typeArguments
  | .optional _ _ base => base.actions
  | .sequence _ parts => exprActions parts
  | .template _ parts => exprActions parts
  | .tagged _ tag typeArguments parts =>
      tag.actions ++ typeActions typeArguments ++ exprActions parts
  | .yield _ value => value.actions
  | .await _ value => value.actions
  | .parenthesized _ value => value.actions
  | .ascribed _ _ value types => value.actions ++ typeActions types
  | .element _ tag attributes typeArguments children closed =>
      let name := tag.elim [] Tag.actions
      name ++ exprActions attributes ++ typeActions typeArguments ++
        exprActions children ++
        (if closed then name else [])

def exprActions : List Expr → List Action
  | [] => []
  | value :: rest => value.actions ++ exprActions rest

/-- A pattern as it stands: its names are binders. -/
def Pattern.actions : Pattern → List Action
  | .absent | .invalid _ => []
  | .identifier _ name type => .binder name :: type.actions
  | .array _ elements type => patternActions elements ++ type.actions
  | .object _ properties type => patternActions properties ++ type.actions
  | .rest _ target type => target.actions ++ type.actions
  | .withDefault _ target value => target.actions ++ value.actions
  | .keyed _ key target => key.actions ++ target.actions
  | .shorthand _ name default => .binder name :: default.actions
  | .decorated decorators param => exprActions decorators ++ param.actions
  | .expression value => value.actions

/-- A pattern as the target of an assignment. A lone name or expression is an
expression. -/
def Pattern.targetActions : Pattern → List Action
  | .identifier _ name type => .use name :: type.actions
  | .expression value => value.actions
  | .array _ elements type =>
      [.assigning true (patternActions elements ++ type.actions)]
  | .object _ properties type =>
      [.assigning true (patternActions properties ++ type.actions)]
  | _ => []

def patternActions : List Pattern → List Action
  | [] => []
  | pattern :: rest => pattern.actions ++ patternActions rest

/-- Variables that are declared: each binds its names before its parts are
looked at. -/
def declaratorActions : List Pattern → List Action
  | [] => []
  | pattern :: rest =>
      .bind pattern.names :: .assigning false pattern.actions ::
        declaratorActions rest

def Member.actions : Member → List Action
  | .shorthand _ name => [.use name]
  | .keyed _ key value => key.actions ++ value.actions
  | .defaulted _ name value => .use name :: value.actions
  | .spread _ value => value.actions
  | .getter _ key type body =>
      key.actions ++ type.actions ++
        [.scope (.bind (blockNames body) :: stmtActions body)]
  | .setter _ key param body =>
      [.scope (.bind param.names :: (key.actions ++ param.actions ++
        [.scope (.bind (bodyNames body) :: stmtActions body)]))]
  | .method _ key function => key.actions ++ function.actions
  | .constructor _ key params body =>
      [.scope (.bind ["arguments"] :: .bind (patternNames params) ::
        (key.actions ++ patternActions params ++ body.actions))]
  | .field _ key value type decorators =>
      key.actions ++ value.actions ++ type.actions ++ exprActions decorators
  | .index _ params type => patternActions params ++ type.actions
  | .staticBlock _ body =>
      [.scope (.bind (blockNames body) :: stmtActions body)]
  | .empty _ => []

def memberActions : List Member → List Action
  | [] => []
  | member :: rest => member.actions ++ memberActions rest

def Function.actions : Function → List Action
  | .mk typeParams decorators params result body =>
      [.scope
        (.bind ["arguments"] ::
          (typeActions typeParams ++ .bind (patternNames params) ::
            (exprActions decorators ++ patternActions params ++
              result.actions ++ body.actions)))]

def Class.actions : Class → List Action
  | .mk typeParams decorators extended extendedArguments implemented members =>
      [.scope
        (typeActions typeParams ++ exprActions decorators ++ extended.actions ++
          typeActions extendedArguments ++ exprActions implemented ++
          memberActions members)]

def Body.actions : Body → List Action
  | .absent => []
  | .block body => [.scope (.bind (bodyNames body) :: stmtActions body)]
  | .value value => value.actions

def Stmt.actions : Stmt → List Action
  | .absent | .empty | .debugger | .jump _ => []
  | .block body => [.scope (.bind (blockNames body) :: stmtActions body)]
  | .withObject object body => object.actions ++ body.actions
  | .ret value => value.actions
  | .labelled _ body => body.actions
  | .ifElse test yes no => test.actions ++ yes.actions ++ no.actions
  | .switch subject cases => subject.actions ++ stmtActions cases
  | .case test body => test.actions ++ stmtActions body
  | .throw value => value.actions
  | .tryCatch body handler finalizer =>
      .scope (.bind (blockNames body) :: stmtActions body) ::
        (handler.actions ++ finalizer.actions)
  | .handler param body =>
      [.scope (.bind param.names :: (param.actions ++
        [.scope (.bind (blockNames body) :: stmtActions body)]))]
  | .while test body => test.actions ++ body.actions
  | .doWhile test body => test.actions ++ body.actions
  | .forLoop start test step body =>
      [.scope (start.actions ++ test.actions ++ step.actions ++ body.actions)]
  | .forEach head subject body =>
      [.scope (head.actions ++ subject.actions ++ body.actions)]
  | .target target => [.assigning true target.actions]
  | .expression value => value.actions
  | .function name function _ => .bind [name] :: function.actions
  | .classDecl name value _ => .bind [name] :: value.actions
  | .variable _ _ declarators _ => declaratorActions declarators
  | .using _ declarators => declaratorActions declarators
  | .interface _ typeParams extended members _ =>
      [.scope
        (typeActions typeParams ++ exprActions extended ++ typeActions members)]
  | .typeAlias _ typeParams type _ =>
      [.scope (typeActions typeParams ++ type.actions)]
  | .enum _ memberNames values _ =>
      [.scope (.bind memberNames :: exprActions values)]
  | .namespace _ _ body _ =>
      [.scope (.bind (namespaceNames body) :: stmtActions body)]
  | .importNames _ specifiers _ attributes =>
      specifiers.flatMap ImportSpecifier.actions ++ attributes.actions
  | .exportNames _ specifiers _ attributes =>
      specifiers.flatMap ExportSpecifier.actions ++ attributes.actions
  | .exportAll _ attributes => attributes.actions
  | .exportDecl _ declaration => declaration.actions
  | .exportDefaultDecl _ value => value.actions
  | .exportDefaultInterface _ declaration => declaration.actions
  | .exportDefaultExpr _ value => value.actions
  | .importEquals _ name root =>
      .use name :: root.elim [] fun name => [.use name]
  | .exportAssignment _ value => value.actions
  | .exportNamespace _ name => [.use name]

def stmtActions : List Stmt → List Action
  | [] => []
  | stmt :: rest => stmt.actions ++ stmtActions rest

end

/-- The names a statement or declaration uses without binding them, one for each
occurrence. -/
def Stmt.freeNames (stmt : Stmt) : List String := Scope.freeNames stmt.actions

def Expr.freeNames (value : Expr) : List String := Scope.freeNames value.actions

end Prune.Script
