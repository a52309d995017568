import Prune.Script.Grammar.Statements

/-!
# Imports, exports and modules

The items of a module or a namespace: statements, imports and exports. Which of
the words in an import or export clause are names, and which say something about
the names, is only known from how many of them there are.
-/

namespace Prune.Script.Parser

/-! ## Sources -/

/-- Attributes of the module that is imported from, if it has any. -/
def importAttributes (g : Below) : Parser Expr := do
  if ← (not <$> afterLineBreak) <&&> isAny ["assert", "with"] then
    bump
    objectLiteral g
  else return .absent

/-- Where names come from, behind `from`, and the end of the item. -/
def source (g : Below) : Parser (String × Expr) := do
  match ← required with
  | .string value _ =>
      bump
      let attributes ← importAttributes g
      expectSemicolon
      return (value, attributes)
  | _ => failUnexpected "a string literal"

/-- A name in a clause: a word or a string, with its range. -/
def clauseName : Parser (Span × ExportName) := do
  let lo ← position
  match ← token? with
  | some (.string value _) =>
      bump
      return (← spanFrom lo, .text value)
  | some (.word name) | some (.escapedWord name) =>
      bump
      return (← spanFrom lo, .identifier name)
  | _ => failUnexpected "identifier or string"

/-! ## Imports -/

/-- `import x = …` from its mark on. -/
def importEquals (start : Nat) (name : String) : Parser Stmt := do
  expect "="
  let root ← if ← is "require" <&&> nextIs "(" then do
      bump
      expect "("
      match ← required with
      | .string _ _ => bump
      | _ => failUnexpected "a string literal"
      expect ")"
      pure none
    else some <$> entityName false
  expectSemicolon
  return .importEquals (← spanFrom start) name root

/-- What an import clause says about one name. -/
def importSpecifier (typesOnly : Bool) : Parser ImportSpecifier := do
  let (span, name) ← clauseName
  match name with
  | .text text =>
      if ← eat "as" then
        let (_, localName) ← bindingName false
        return .named localName (some (.text text))
      fail (span.lo, span.hi) (.importedText text)
  | .identifier first =>
      let checkTypes : Parser Unit :=
        if typesOnly then noteAt span .typeOnTypeImport else return
      let inner ← if first = "type" && (← isAnyWord) then do
          let (_, second) ← anyWord
          if second = "as" then
            if !(← isAnyWord) then
              checkTypes
              return .named "as" none
            let (_, third) ← bindingName false
            if third ≠ "as" then return .named third (some (.identifier "type"))
            if ← isAnyWord then
              let (_, localName) ← bindingName false
              checkTypes
              return .named localName (some (.identifier "as"))
            return .named "as" (some (.identifier "type"))
          checkTypes
          pure second
        else pure first
      if ← eat "as" then
        let (_, localName) ← bindingName false
        return .named localName (some (.identifier inner))
      return .named inner none

/-- A name that an import binds. -/
def importedBinding : Parser (Span × String) :=
  within
    (fun context => { context with inAsync := false, inGenerator := false })
    (bindingName false)

/-- What the first name of an import clause turns out to be. -/
inductive ClauseHead where
  /-- `import x = …` -/
  | equals (name : String)
  /-- The name is a word about the import as a whole. -/
  | none (typesOnly : Bool)
  | default (span : Span) (name : String) (typesOnly : Bool)

/-- The first name of an import clause. -/
def clauseHead : Parser ClauseHead := do
  if !(← isName) then return .none false
  let (span, name) ← importedBinding
  let (span, name, typesOnly) ← if name = "type" then do
      if ← isAny ["*", "\x7b"] then return .none true
      if !(← isName) then pure (span, name, false)
      else if ← (not <$> is "from") <||> nextIs "from" then do
        let (span, name) ← importedBinding
        pure (span, name, true)
      else if ← nextIs "=" then do
        let (span, name) ← anyWord
        pure (span, name, true)
      else pure (span, name, false)
    else pure (span, name, false)
  if ← is "=" then return .equals name
  if name = "source" || name = "defer" then
    if ← isAny ["*", "\x7b"] then return .none typesOnly
    if ← (isName <&&> (not <$> is "from")) <||> nextIs "from" then
      let (span, name) ← importedBinding
      return .default span name typesOnly
  return .default span name typesOnly

/-- The names of an import behind the first one. -/
def clauseRest (typesOnly : Bool) : Parser (List ImportSpecifier) := do
  let lo ← position
  if ← eat "*" then
    expect "as"
    let (_, name) ← importedBinding
    return [.everything (← spanFrom lo) name]
  if ← eat "\x7b" then
    let specifiers ← repeating (fun before => do
      if ← atEnd <||> is "\x7d" then return .over before.reverse
      let specifier ← importSpecifier typesOnly
      if !(← is "\x7d") then expect ","
      return .again (specifier :: before)) []
    expect "\x7d"
    return specifiers
  return []

/-- An import. -/
def importItem (g : Below) : Parser Stmt := do
  let start ← position
  if ← nextIsAny [".", "("] then return ← importExpression g
  bump
  match ← token? with
  | some (.string value _) =>
      bump
      let attributes ← importAttributes g
      expectSemicolon
      return .importNames (← spanFrom start) [] value attributes
  | _ => pure ()
  let finish (first : List ImportSpecifier) (typesOnly : Bool) :
      Parser Stmt := do
    let rest ← clauseRest typesOnly
    expect "from"
    let (source, attributes) ← source g
    return .importNames (← spanFrom start) (first ++ rest) source attributes
  match ← clauseHead with
  | .equals name => importEquals start name
  | .none typesOnly => finish [] typesOnly
  | .default span name typesOnly =>
      if !(← is "from") then expect ","
      finish [.default span name] typesOnly

/-! ## Exports -/

/-- Words that can only be exported from elsewhere. -/
def exportReserved : List String :=
  ["break", "case", "catch", "class", "const", "continue", "debugger",
    "default", "delete", "do", "else", "enum", "export", "extends", "false",
    "finally", "for", "function", "if", "import", "in", "instanceof", "new",
    "null", "package", "return", "super", "switch", "this", "throw", "true",
    "try", "typeof", "var", "void", "while", "with"]

/-- An entry of an export clause, with the range of its first name. -/
def exportSpecifier (typesOnly : Bool) : Parser (Span × ExportSpecifier) := do
  let (span, name) ← clauseName
  let checkTypes : Parser Unit :=
    if typesOnly then noteAt span .typeOnTypeExport else return
  let (span, inner) ← match name with
    | .identifier "type" =>
        if !(← isAnyWord) then pure (span, name)
        else do
          let (secondSpan, second) ← anyWord
          if second = "as" then
            if !(← isAnyWord) then
              checkTypes
              return (secondSpan, .named (.identifier "as") none)
            let (_, third) ← anyWord
            if third ≠ "as" then
              return (span, .named name (some (.identifier third)))
            if ← isAnyWord then
              let (_, exported) ← anyWord
              checkTypes
              return (secondSpan,
                .named (.identifier "as") (some (.identifier exported)))
            return (span, .named name (some (.identifier "as")))
          checkTypes
          pure (secondSpan, .identifier second)
    | name => pure (span, name)
  if ← eat "as" then
    let (_, exported) ← clauseName
    return (span, .named inner (some exported))
  return (span, .named inner none)

/-- Complains about a name that is not one of this module. -/
def checkExported (entry : Span × ExportSpecifier) : Parser Unit := do
  match entry with
  | (span, .named (.text _) _) => noteAt span .exportedText
  | (span, .named (.identifier name) _) =>
      if exportReserved.contains name then
        noteAt span (.exportWithoutSource name)
  | _ => return

/-- An export clause with what it exports from. -/
def exportClause (g : Below) (start : Nat) (typesOnly : Bool) :
    Parser Stmt := do
  if ← is "*" <&&> (not <$> nextIs "as") then
    bump
    expect "from"
    let (_, attributes) ← source g
    return .exportAll (← spanFrom start) attributes
  if ← eat "*" then
    expect "as"
    let (_, name) ← clauseName
    expect "from"
    let (source, attributes) ← source g
    return .exportNames (← spanFrom start) [.everything name] (some source)
      attributes
  expect "\x7b"
  let specifiers ← repeating (fun before => do
    if ← atEnd <||> is "\x7d" then return .over before.reverse
    let specifier ← exportSpecifier typesOnly
    if !(← is "\x7d") then expect ","
    return .again (specifier :: before)) []
  expect "\x7d"
  let names := specifiers.map Prod.snd
  if ← eat "from" then
    let (source, attributes) ← source g
    return .exportNames (← spanFrom start) names (some source) attributes
  specifiers.forM checkExported
  let _ ← eatSemicolon
  return .exportNames (← spanFrom start) names none .absent

/-- Decorators behind `export` or `default`. They must be the only ones. -/
def lateDecorators (g : Below) (early : List Expr) : Parser (List Expr) := do
  if !(← is "@") then return early
  let lo ← position
  let late ← decorators g false
  if !early.isEmpty && !late.isEmpty then
    let span ← spanFrom lo
    fail (span.lo, span.hi) .decoratorsOnBothSides
  if late.isEmpty then return early
  return late

/-- Whether an asynchronous function starts here. -/
def startsAsyncFunction : Parser Bool :=
  is "async" <&&> nextIs "function" <&&> nextIsHere

/-- A default export, behind `default`. -/
def exportDefault (g : Below) (start : Nat) (early : List Expr) :
    Parser Stmt := do
  let decorators ← lateDecorators g early
  let here ← position
  if ← is "abstract" <&&> nextIs "class" <&&> nextIsHere then
    bump
    let value ← defaultClass g decorators here true
    return .exportDefaultDecl (← spanFrom start) value
  if ← is "abstract" <&&> nextIs "interface" then
    note (← currentSpan) .abstractForbidden
    bump
  if ← eat "interface" then
    let declaration ← interface g
    return .exportDefaultInterface (← spanFrom start) declaration
  if ← is "class" then
    let value ← defaultClass g decorators here false
    return .exportDefaultDecl (← spanFrom start) value
  if ← startsAsyncFunction then
    bump
    let value ← defaultFunction g here decorators true
    return .exportDefaultDecl (← spanFrom start) value
  if ← is "function" then
    let value ← defaultFunction g here decorators false
    return .exportDefaultDecl (← spanFrom start) value
  let value ← includingIn (g ()).assignment
  expectSemicolon
  return .exportDefaultExpr (← spanFrom start) value

/-- Whether variables are declared here. -/
def startsVariables : Parser Bool := do
  if ← isAny ["var", "const"] then return true
  if ← is "let" then return followsLet (← peek?)
  return false

/-- A declaration that is exported as it stands, if there is one here. -/
def exportedDeclaration? (g : Below) (decorators : List Expr) :
    Parser (Option Stmt) := do
  if ← is "class" then return some (← classDeclaration g decorators false)
  if ← startsAsyncFunction then
    bump
    return some (← functionDeclaration g decorators true)
  if ← is "function" then return some (← functionDeclaration g decorators false)
  if ← is "const" <&&> nextIs "enum" then
    bump
    bump
    return some (← enumeration g)
  if ← startsVariables then return some (← variableList g false)
  return none

/-- An export. -/
def exportItem (g : Below) (early : List Expr) : Parser Stmt := do
  let start ← position
  bump
  let _ ← required
  let here ← position
  if ← eat "declare" then
    match ← declared? g here early with
    | some declaration => return .exportDecl (← spanFrom start) declaration
    | none => pure ()
  let isWord ← isAnyWord
  if isWord then
    let word := (← required).wordText?.getD ""
    let at_ ← position
    match ← attempt (wordDeclaration? g at_ early word true) with
    | some declaration => return .exportDecl (← spanFrom start) declaration
    | none => pure ()
  if ← eat "import" then
    if ← is "type" <&&> nextIsName then bump
    let (_, name) ← anyWord
    return ← importEquals start name
  if ← eat "=" then
    let value ← (g ()).expression
    expectSemicolon
    return .exportAssignment (← spanFrom start) value
  if ← eat "as" then
    expect "namespace"
    let (_, name) ← identifier false
    expectSemicolon
    return .exportNamespace (← spanFrom start) name
  let typesOnly ← eat "type"
  if ← pure !typesOnly <&&> eat "default" then
    return ← exportDefault g start early
  let decorators ← lateDecorators g early
  let declaration ← if typesOnly then pure none
      else exportedDeclaration? g decorators
  match declaration with
  | some declaration => return .exportDecl (← spanFrom start) declaration
  | none => exportClause g start typesOnly

/-! ## Items -/

/-- An item of a module. -/
def moduleItem (g : Below) : Parser TopItem := do
  let start ← position
  let decorators ← decorators g true
  let (lo, stmt) ← if ← is "import" then do
      let lo ← position
      pure (lo, ← importItem g)
    else if ← is "export" then do
      let lo ← position
      pure (lo, ← exportItem g decorators)
    else statementBehind g .item start decorators
  return ⟨← spanFrom lo, start, stmt⟩

def moduleBody (g : Below) : Parser (List Stmt) := do
  return (← bodyItems (moduleItem g)).map TopItem.stmt

/-- The items of a file, up to its end. What only looks like the end at first is
none. -/
def fileItems (g : Below) : Parser (List TopItem) := do
  match ← token? with
  | some .shebang => bump
  | _ => pure ()
  collect do
    if ← atEnd <&&> atEnd then return none
    some <$> moduleItem g

end Prune.Script.Parser
