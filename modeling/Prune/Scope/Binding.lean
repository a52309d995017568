import Prune.Script.Tree

/-!
# Bound names

Which names a pattern, a declaration or a body introduces. A body introduces the
names that are declared directly in it; a function also those that `var`
declares anywhere below, up to the next function or class.
-/

namespace Prune.Script

mutual

/-- The names a pattern binds, in the order they are written. -/
def Pattern.names : Pattern → List String
  | .identifier _ name _ => [name]
  | .array _ elements _ => patternNames elements
  | .object _ properties _ => patternNames properties
  | .rest _ target _ => target.names
  | .withDefault _ target _ => target.names
  | .keyed _ _ target => target.names
  | .shorthand _ name _ => [name]
  | .decorated _ param => param.names
  | .absent | .expression _ | .invalid _ => []

/-- The names a list of patterns binds. -/
def patternNames : List Pattern → List String
  | [] => []
  | pattern :: rest => pattern.names ++ patternNames rest

end

/-- The names a declaration declares. -/
def Stmt.declaredNames : Stmt → List String
  | .function name _ _ | .classDecl name _ _ => [name]
  | .variable _ _ declarators _ | .using _ declarators =>
      patternNames declarators
  | .interface name _ _ _ _ | .typeAlias name _ _ _ | .enum name _ _ _ => [name]
  | .namespace _ (.identifier name) _ _ => [name]
  | _ => []

/-- The names that are declared directly in a block. -/
def blockNames (body : List Stmt) : List String :=
  body.flatMap Stmt.declaredNames

/-- The names an item of a namespace declares, whether it is exported or not. -/
def Stmt.itemNames : Stmt → List String
  | .exportDecl _ declaration => declaration.declaredNames
  | stmt => stmt.declaredNames

/-- The names that are declared directly in a namespace. -/
def namespaceNames (body : List Stmt) : List String :=
  body.flatMap Stmt.itemNames

mutual

/-- The names that `var` declares in a statement for the function around it. -/
def Stmt.hoistedNames : Stmt → List String
  | .variable _ .var declarators _ => patternNames declarators
  | .block body => hoistedIn body
  | .withObject _ body | .labelled _ body | .while _ body | .doWhile _ body =>
      body.hoistedNames
  | .ifElse _ yes no => yes.hoistedNames ++ no.hoistedNames
  | .switch _ cases => hoistedIn cases
  | .case _ body => hoistedIn body
  | .tryCatch body handler finalizer =>
      hoistedIn body ++ handler.hoistedNames ++ finalizer.hoistedNames
  | .handler _ body => hoistedIn body
  | .forLoop start _ _ body => start.hoistedNames ++ body.hoistedNames
  | .forEach head _ body => head.hoistedNames ++ body.hoistedNames
  | .namespace _ _ body _ => hoistedIn body
  | .exportDecl _ declaration => declaration.hoistedNames
  | _ => []

/-- The names that `var` declares in a list of statements for the function
around it. -/
def hoistedIn : List Stmt → List String
  | [] => []
  | stmt :: rest => stmt.hoistedNames ++ hoistedIn rest

end

/-- The names of a function body: those that `var` declares below it and those
of its block. -/
def bodyNames (body : List Stmt) : List String :=
  hoistedIn body ++ blockNames body

end Prune.Script
