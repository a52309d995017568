import Prune.Script.Grammar.Patterns

/-!
# Functions and object literals

What functions, methods and arrow functions have in common, and object
literals, whose members are keyed values, shorthands and methods.
-/

namespace Prune.Script.Parser

/-! ## Bodies -/

def block (g : Below) : Parser (List Stmt) := do
  expect "\x7b"
  (g ()).blockBody

/-- Parses with no labels around, as in a function. -/
def withoutLabels (parse : Parser α) : Parser α := do
  let { labels, arrowFrom, trailingCommas, .. } ← get
  modify fun cursor =>
    { cursor with labels := [], arrowFrom := none, trailingCommas := [] }
  let restore : Parser Unit :=
    modify fun cursor => { cursor with labels, arrowFrom, trailingCommas }
  try
    let value ← parse
    restore
    return value
  catch fault =>
    restore
    throw fault

/-- The kinds of functions that change what words mean inside. -/
structure FunctionKind where
  isAsync : Bool
  isGenerator : Bool

def FunctionKind.plain : FunctionKind := ⟨false, false⟩

def insideFunction (kind : FunctionKind) (isArrow : Bool) (parse : Parser α) :
    Parser α := do
  if (← context).ambient && (← is "\x7b") then
    note (← currentSpan) .implementationAmbient
  let change (context : Context) : Context :=
    { context with
      inAsync := kind.isAsync
      inGenerator := kind.isGenerator
      inFunction := true
      inStaticBlock := false
      breakAllowed := false
      continueAllowed := false
      ownTarget := isArrow && context.ownTarget || !isArrow }
  within change (withoutLabels parse)

/-- Whether a parameter is no more than a name. -/
def isPlainParam : Pattern → Bool
  | .identifier _ _ _ => true
  | .decorated _ param => isPlainParam param
  | _ => false

/-- The statements at the start of a body that are nothing but a string, by
their ranges. -/
def directives (text : List Char) : List Stmt → List Span
  | .expression (.literal span) :: rest =>
      match text.drop span.lo with
      | '"' :: _ | '\'' :: _ => span :: directives text rest
      | _ => []
  | _ => []

/-- Complains about a body that asks for strict code, which only plain
parameters allow. -/
def checkDirectives (isPlain : Bool) (body : List Stmt) : Parser Unit := do
  if isPlain then return
  let text := (← get).scan.text
  let asks (span : Span) : Bool :=
    ["'use strict'", "\"use strict\""].contains
      (String.ofList ((text.drop span.lo).take (span.hi - span.lo)))
  match (directives text body).find? asks with
  | some span => noteAt span .strictDirective
  | none => return

/-- The block of a function. -/
def functionBlock (g : Below) (isPlain : Bool) : Parser Body := do
  let body ← includingIn (block g)
  checkDirectives isPlain body
  return .block body

/-- The body of a function; a semicolon in its place leaves it out. -/
def functionBody (g : Below) (kind : FunctionKind) (isPlain : Bool) :
    Parser Body :=
  insideFunction kind false do
    if ← (not <$> is "\x7b") <&&> eatSemicolon then return .absent
    functionBlock g isPlain

/-- The body of an arrow function: a block or an expression. -/
def arrowBody (g : Below) (isAsync isPlain : Bool) : Parser Body :=
  insideFunction ⟨isAsync, false⟩ true do
    if ← is "\x7b" then functionBlock g isPlain
    else return .value (← (g ()).assignment)

def defaultSpan? : Pattern → Option Span
  | .withDefault span _ _ => some span
  | .decorated _ param => defaultSpan? param
  | _ => none

/-- A function from its type parameters on. -/
def functionTail (g : Below) (decorators : List Expr) (kind : FunctionKind)
    (params : Parser (List Pattern)) : Parser Function :=
  let { isAsync, isGenerator } := kind
  within
    (fun context =>
      { context with inAsync := isAsync, inGenerator := isGenerator }) do
    let typeParams ← inType do
      match ← token? with
      | some (.mark "<") => typeParameters g false true
      | some .elementStart => do
          forgetTag
          typeParameters g false true
      | _ => pure []
    expect "("
    let params ← within
        (fun context =>
          { context with inParameters := true, inFunction := false }) params
    expect ")"
    let result ← result? g
    let body ← functionBody g kind (params.all isPlainParam)
    if body.isAbsent then
      params.forM fun param =>
        match defaultSpan? param with
        | some span => noteAt span .defaultParameterForbidden
        | none => pure ()
    return .mk typeParams decorators params result body

/-- A function inside a field is no part of the field. -/
def outsideField (context : Context) : Context :=
  { context with inClassField := false }

/-- A function behind its name. -/
def functionRest (g : Below) (decorators : List Expr) (kind : FunctionKind) :
    Parser Function :=
  within (fun context => { outsideField context with expectsColon := false })
    (functionTail g decorators kind (formalParams g))

/-- A function expression from `function` on. -/
def functionValue (g : Below) (lo : Nat) (isAsync : Bool) : Parser Expr := do
  expect "function"
  let isGenerator ← eat "*"
  let name ← within
    (fun context =>
      { outsideField context with
        inAsync := isAsync, inGenerator := isGenerator })
    (bindingName? false)
  let function ← functionRest g [] ⟨isAsync, isGenerator⟩
  if function.body.isAbsent then failUnexpected "\x7b"
  return .function (← spanFrom lo) (name.map Prod.snd) function

/-- A function that is exported by default, from `function` on. It may have no
name, or no body. -/
def defaultFunction (g : Below) (lo : Nat) (decorators : List Expr)
    (isAsync : Bool) :
    Parser Expr := do
  expect "function"
  let isGenerator ← eat "*"
  let name ← within outsideField (bindingName? false)
  let function ← functionRest g decorators ⟨isAsync, isGenerator⟩
  return .function (← spanFrom lo) (name.map Prod.snd) function

/-- A function that is a declaration, from `function` on. -/
def functionDeclaration (g : Below) (decorators : List Expr) (isAsync : Bool) :
    Parser Stmt := do
  expect "function"
  let isGenerator ← eat "*"
  let (_, name) ← within outsideField (bindingName false)
  let function ← functionRest g decorators ⟨isAsync, isGenerator⟩
  return .function name function false

/-! ## Object literals -/

/-- A parameter that is not the one for `this`. -/
def isOrdinary : Pattern → Bool
  | .identifier _ name _ => name ≠ "this"
  | .decorated _ param => isOrdinary param
  | _ => true

def getterParams (g : Below) (key : Span) : Parser (List Pattern) := do
  let params ← formalParams g
  if params.any isOrdinary then noteAt key .getterParameters
  return params

/-- The parameters of a setter. A rest parameter is complained about with its
decorators, if `fromDecorators` says so. -/
def setterParams (g : Below) (key : Span) (fromDecorators : Bool) :
    Parser (List Pattern) := do
  let lo ← position
  let params ← formalParams g
  if (params.filter isOrdinary).length ≠ 1 then noteAt key .setterParameters
  match params with
  | .rest span _ _ :: _ | .decorated _ (.rest span _ _) :: _ =>
      noteAt (if fromDecorators then { span with lo } else span) .setterRest
  | _ => pure ()
  return params

/-- Parses a method. -/
def asMethod (parse : Parser α) : Parser α :=
  within outsideField parse

def bodyStatements : Body → List Stmt
  | .block body => body
  | _ => []

def resultOf : Function → TypeTerm
  | .mk _ _ _ result _ => result

def paramsOf : Function → List Pattern
  | .mk _ _ params _ _ => params

/-- The marks and words that may follow the name of a member. -/
def followsKey : Parser Bool := do
  match ← token? with
  | some (.mark text) =>
      return ["(", "[", ":", ",", "?", "=", "*", "<", "\x7d"].contains text
  | some (.word _) | some (.escapedWord _) | some (.string _ _)
  | some (.number _) => return true
  | _ => return false

/-- An accessor or an asynchronous method, behind the word that says so. -/
def specialMember (g : Below) (lo : Nat) (word : String) : Parser Member := do
  let isGenerator ← if word = "async" then eat "*" else pure false
  let key ← key g
  asMethod do
    if word = "get" then
      let function ← functionTail g [] .plain (getterParams g key.span)
      return .getter (← spanFrom lo) key.expr (resultOf function)
        (bodyStatements function.body)
    else if word = "set" then
      let function ← functionTail g [] .plain (setterParams g key.span true)
      let params := match paramsOf function with
        | _ :: second :: rest => second :: rest
        | params => params
      match params with
      | param :: _ =>
          return .setter (← spanFrom lo) key.expr (undecorated param)
            (bodyStatements function.body)
      | [] =>
          noteAt key.span .setterParameters
          return .setter (← spanFrom lo) key.expr .absent
            (bodyStatements function.body)
    else
      let function ← functionTail g [] ⟨true, isGenerator⟩ (formalParams g)
      return .method (← spanFrom lo) key.expr function

/-- A member of an object literal. -/
def objectMember (g : Below) : Parser Member := do
  let lo ← position
  if ← eat "..." then
    let value ← includingIn (g ()).assignment
    return .spread (← spanFrom lo) value
  if ← eat "*" then
    let key ← key g
    let function ← asMethod (functionTail g [] ⟨false, true⟩ (formalParams g))
    return .method (← spanFrom lo) key.expr function
  let hasModifiers ← eatParameterModifier
  let modifiers := (← get).previous
  let key ← key g
  let isWord := match key with
    | .word _ _ => true
    | _ => false
  if !(← followsKey) || (!isWord && (← is "\x7d")) then
    note (← currentSpan) .semicolonExpected
    let span ← spanFrom lo
    return .keyed span key.expr (.invalid span)
  if ← eat ":" then
    let value ← includingIn (g ()).assignment
    return .keyed (← spanFrom lo) key.expr value
  if ← isAny ["(", "<"] then
    let function ← asMethod (functionTail g [] .plain (formalParams g))
    return .method (← spanFrom lo) key.expr function
  match key with
  | .word span name =>
      if ← eat "?" then note (← get).previous .memberOptional
      if ← isAny ["=", ",", "\x7d"] then
        if ← eat "=" then
          let value ← includingIn (g ()).assignment
          return .defaulted (← spanFrom lo) name value
        return .shorthand span name
      if name = "get" || name = "set" || name = "async" then
        if hasModifiers then note modifiers .asyncForbidden
        specialMember g lo name
      else
        failUnexpected
          "... , *,  (, [, :, , ?, =, an identifier, public, protected, private, readonly, <."
  | _ => failUnexpected "identifier"

/-- Keeps where a literal had a comma behind its last item. -/
def keepTrailingComma (lo : Nat) (comma : Nat) : Parser Unit :=
  modify fun cursor =>
    { cursor with trailingCommas := (lo, comma) :: cursor.trailingCommas }

def objectLiteral (g : Below) : Parser Expr :=
  within (fun context => { context with expectsColon := false }) do
    let lo ← position
    expect "\x7b"
    let (members, comma) ← braced (objectMember g)
    match comma with
    | some comma => keepTrailingComma lo comma.1
    | none => pure ()
    return .object (← spanFrom lo) members

def arrayLiteral (g : Below) : Parser Expr :=
  within (fun context => { context with expectsColon := false }) do
    let lo ← position
    expect "["
    let elements ← repeating (fun before => do
      if ← atEnd <||> is "]" then return .over before.reverse
      if ← eat "," then return .again (.absent :: before)
      let element ← spreadOrValue g
      if !(← is "]") then
        expect ","
        if ← is "]" then keepTrailingComma lo (← get).previous.1
      return .again (element :: before)) []
    expect "]"
    return .array (← spanFrom lo) elements

/-! ## Templates -/

/-- A piece of a template; says whether the template ends behind it. -/
def templatePiece (isTagged : Bool) : Parser Bool := do
  match ← required with
  | .template _ fault =>
      bump
      match fault with
      | some fault => if !isTagged then throw fault
      | none => pure ()
      is "`"
  | _ => failUnexpected "template token"

/-- A template; the expressions in its holes. -/
def template (g : Below) (isTagged : Bool) : Parser (List Expr) := do
  expect "`"
  if ← templatePiece isTagged then
    expect "`"
    return []
  let parts ← repeating (fun before => do
    expect "$\x7b"
    let part ← includingIn (g ()).expression
    expect "\x7d"
    let before := part :: before
    if ← templatePiece isTagged then return .over before.reverse
    else return .again before) []
  expect "`"
  return parts

end Prune.Script.Parser
