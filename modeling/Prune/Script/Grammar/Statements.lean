import Prune.Script.Grammar.Classes

/-!
# Statements

Statements and declarations, also those of types, which start with words that
are no keywords: such a statement is read as an expression first, and turns out
to be a declaration by what follows its only word.

Where a statement starts is part of the answer, since decorators belong to some
statements and not to others.
-/

namespace Prune.Script.Parser

/-- A statement and where it starts. -/
abbrev Placed := Nat × Stmt

/-! ## Bodies -/

/-- Items up to the closing brace, which is taken. Where the text seems to end,
a body is complained about and ends with the next token, if there is one after
all. -/
def bodyItems (item : Parser α) : Parser (List α) :=
  repeating (fun before => do
    if ← atEnd then
      let got ← shown
      note (← currentSpan) (.expected "\x7d" got)
      bump
      return .over before.reverse
    if ← eat "\x7d" then return .over before.reverse
    return .again ((← item) :: before)) []

/-- A body in a loop. -/
def loopBody (g : Below) : Parser Stmt :=
  within
    (fun context =>
      { context with breakAllowed := true, continueAllowed := true })
    ((g ()).statement false)

/-- An expression in parentheses, as behind a keyword. -/
def inParentheses (g : Below) : Parser Expr := do
  expect "("
  let value ← includingIn (g ()).expression
  expect ")"
  return value

/-! ## Variables -/

/-- Whether a token can follow `let` in a declaration. -/
def followsLet : Option Token → Bool
  | some (.word text) =>
      ["let", "yield", "await"].contains text ||
        !(keywords.contains text || literalWords.contains text)
  | some (.escapedWord _) => true
  | some (.mark text) => text = "\x7b" || text = "["
  | _ => false

def isPlainName : Pattern → Bool
  | .identifier _ _ _ => true
  | _ => false

/-- A pattern with the type that follows it, if one does. -/
def typed (g : Below) (name : Pattern) : Parser Pattern := do
  let type ← annotation? g
  if TypeTerm.isAbsent type then return name
  return withType type (← lastPosition) name

/-- A declared variable with its initialiser. -/
def declarator (g : Below) (inLoopHead : Bool) (word : String) :
    Parser Pattern := do
  let start ← position
  let name ← pattern g (word ≠ "var")
  if isPlainName name then let _ ← eat "!"
  let name ← typed g name
  if inLoopHead && (← isAny ["in", "of"]) then return name
  if ← eat "=" then
    let value ← (g ()).assignment
    return .withDefault (← spanFrom start) name value
  if (← context).ambient then return name
  if word = "const" then
    noteAt (← spanFrom start) .constWithoutValue
    return name
  if isPlainName name then return name
  let span ← spanFrom start
  fail (span.lo, span.hi) .patternWithoutValue

/-- The variables of a declaration, behind its keyword. -/
def declarators (item : Parser Pattern) : Parser (List Pattern) :=
  repeating (fun (before : List Pattern) => do
    if ← pure !before.isEmpty <&&> (not <$> eat ",") then
      return .over before.reverse
    if ← is ";" <||> atEnd then
      let (lo, hi) := (← get).previous
      note (if before.isEmpty then (hi, hi) else (lo, hi)) .trailingComma
      return .over before.reverse
    return .again ((← item) :: before)) []

/-- Skips to the end of a statement that goes on where it should not. -/
def skipStatement : Parser Unit :=
  repeating (fun (_ : Unit) => do
    if ← eatSemicolon then return .over ()
    bump
    match ← token? with
    | some (.fault _) => return .over ()
    | _ => return .again ()) ()

/-- The variables of a loop head are left out: `of` or `in` follows the keyword
at once. -/
def lacksVariables (g : Below) : Parser Bool := do
  if !(← isAny ["in", "of"]) then return false
  try
    lookahead do
      bump
      let _ ← (g ()).assignment
      expect ")"
      return true
  catch _ => return false

/-- A declaration of variables. -/
def variableList (g : Below) (inLoopHead : Bool) : Parser Stmt := do
  let start ← position
  let word := match ← token? with
    | some (.word text) => text
    | _ => "var"
  bump
  let kind : VariableKind := if word = "var" then .var else .block
  let (_, keywordEnd) := (← get).previous
  if inLoopHead then
    if ← lacksVariables g then
      note (keywordEnd, keywordEnd) .emptyVariableList
      return .variable (← spanFrom start) kind [] false
  let includes := word ≠ "var" || !inLoopHead
  let item :=
    within
      (fun context =>
        { context with includeIn := includes || context.includeIn })
      (declarator g inLoopHead word)
  let names ← declarators item
  if ← pure !inLoopHead <&&> (not <$> eatSemicolon) then
    note (← currentSpan) .semicolonExpected
    let _ ← try some <$> (g ()).expression catch _ => pure none
    skipStatement
  return .variable (← spanFrom start) kind names false

/-- A `using` declaration, if the next token is a name on the same line. -/
def usingVariables? (g : Below) (start : Nat) : Parser (Option Stmt) := do
  if !(← nextIsHere <&&> nextIsName) then return none
  bump
  let names ← declarators (declarator g false "var")
  let span ← spanFrom start
  for name in names do
    let (bound, hasValue) := match name with
      | .withDefault _ bound _ => (bound, true)
      | name => (name, false)
    if !isPlainName bound then noteAt span .usingName
    if !hasValue then noteAt span .usingWithoutValue
  return some (.using span names)

/-! ## Loops -/

/-- The head of a `for` loop. -/
inductive LoopHead where
  | steps (start : Stmt) (test step : Expr)
  | each (head : Stmt) (subject : Expr) (isOf : Bool)

/-- The head of a loop over a collection, from `of` or `in` on. -/
def eachHead (g : Below) (head : Stmt) : Parser LoopHead := do
  let isOf ← is "of"
  bump
  if isOf then
    return .each head (← includingIn (g ()).assignment) true
  match head with
  | .using span _ => noteAt span .usingInForIn
  | _ => pure ()
  return .each head (← includingIn (g ()).expression) false

/-- The head of a loop in steps, behind its first part. -/
def stepsHead (g : Below) (start : Stmt) : Parser LoopHead := do
  let test ← if ← eat ";" then pure Expr.absent else do
    let test ← includingIn (g ()).expression
    expect ";"
    pure test
  let step ← if ← is ")" then pure Expr.absent
      else includingIn (g ()).expression
  return .steps start test step

def patternType : Pattern → TypeTerm
  | .identifier _ _ type | .array _ _ type | .object _ _ type
  | .rest _ _ type => type
  | _ => .absent

/-- Complains about variables that a loop over a collection cannot have. -/
def checkEachVariables (names : List Pattern) : Parser Unit := do
  match names with
  | [name] =>
      let (bound, hasValue) := match name with
        | .withDefault _ bound _ => (bound, true)
        | name => (name, false)
      if hasValue then noteAt bound.span .forHeadValue
      if !TypeTerm.isAbsent (patternType bound) then
        noteAt bound.span .forHeadType
  | names =>
      for name in names.drop 1 do
        let bound := match name with
          | .withDefault _ bound _ => bound
          | name => name
        noteAt bound.span .forHeadSeveral

/-- The head of a loop whose first part is an expression. -/
def valueHead (g : Below) : Parser LoopHead := do
  let start ← position
  let value ← within (fun context => { context with includeIn := false })
      (g ()).expression
  let mayBeUsing := match value with
    | .identifier _ name => name = "using"
    | .await _ (.identifier _ name) => name = "using"
    | _ => false
  if ← pure mayBeUsing <&&> (not <$> is "of") <&&> nextIsAny ["of", "in"] then
    let (span, name) ← bindingName false
    let head : Stmt := .using (← spanFrom start) [.identifier span name .absent]
    let _ ← required
    return ← eachHead g head
  if ← isAny ["of", "in"] then
    let isIn ← is "in"
    let target ← toPattern .target value
    if isIn then
      match target with
      | .identifier _ _ _ | .expression _ => pure ()
      | target => noteAt target.span .forInPattern
    return ← eachHead g (.target target)
  expect ";"
  stepsHead g (.expression value)

def loopHead (g : Below) : Parser LoopHead := do
  let declares ← if ← isAny ["const", "var"] then pure true
    else if ← is "let" then pure (followsLet (← peek?))
    else pure false
  if declares then
    let head ← variableList g true
    if ← isAny ["of", "in"] then
      match head with
      | .variable _ _ names _ => checkEachVariables names
      | _ => pure ()
      return ← eachHead g head
    expect ";"
    return ← stepsHead g head
  if ← eat ";" then return ← stepsHead g .absent
  valueHead g

def forLoop (g : Below) : Parser Stmt := do
  bump
  let lo ← position
  let awaits ← eat "await"
  let awaitSpan := (lo, ← lastPosition)
  expect "("
  let head ← within
      (fun context =>
        { context with loopHead := true, awaitLoopHead := awaits })
    (loopHead g)
  expect ")"
  let body ← loopBody g
  match head with
  | .steps start test step =>
      if awaits then fail awaitSpan .forAwait
      return .forLoop start test step body
  | .each head subject isOf =>
      if awaits && !isOf then fail awaitSpan .forAwait
      return .forEach head subject body

def whileLoop (g : Below) : Parser Stmt := do
  bump
  let test ← inParentheses g
  return .while test (← loopBody g)

def doLoop (g : Below) : Parser Stmt := do
  bump
  let body ← loopBody g
  expect "while"
  let test ← inParentheses g
  let _ ← eatSemicolon
  return .doWhile test body

/-! ## Branches -/

/-- The test of a condition and what is done if it holds. -/
def branch (g : Below) : Parser (Expr × Stmt) := do
  bump
  expect "("
  let test ← includingIn (g ()).expression
  expect ")"
  let yes ← (g ()).statement false
  return (test, yes)

/-- A condition with all conditions behind it that are alternatives of it. -/
def condition (g : Below) : Parser Stmt := do
  let first ← branch g
  let (branches, otherwise) ← repeating (fun (before : List (Expr × Stmt)) => do
    if !(← eat "else") then return .over (before, Stmt.absent)
    if ← is "if" then return .again ((← branch g) :: before)
    return .over (before, ← (g ()).statement false)) [first]
  return branches.foldl (fun no (test, yes) => .ifElse test yes no) otherwise

def switchCases (g : Below) : Parser (List Stmt) := do
  let (cases, _) ← repeating (fun (before : List Stmt × Bool) => do
    if !(← isAny ["case", "default"]) then
      return .over (before.1.reverse, before.2)
    let isCase ← is "case"
    bump
    let test ← if isCase then includingIn (g ()).expression
      else do
        if before.2 then failHere .twoDefaults
        pure .absent
    expect ":"
    let body ← collect do
      if ← atEnd <||> isAny ["case", "default", "\x7d"] then return none
      some <$> (g ()).statement true
    return .again (.case test body :: before.1, before.2 || !isCase))
      ([], false)
  return cases

def switch (g : Below) : Parser Stmt := do
  bump
  let subject ← inParentheses g
  expect "\x7b"
  let cases ← within (fun context => { context with breakAllowed := true })
      (switchCases g)
  expect "\x7d"
  return .switch subject cases

/-! ## Leaving -/

def returnValue (g : Below) : Parser Stmt := do
  let start ← position
  bump
  let check : Parser Unit := do
    if !(← context).inFunction then noteAt (← spanFrom start) .returnOutside
  let value ← try
      let value ← if ← isSemicolon then pure Expr.absent
          else includingIn (g ()).expression
      expectSemicolon
      pure value
    catch fault =>
      check
      throw fault
  check
  return .ret value

def throwValue (g : Below) : Parser Stmt := do
  bump
  if ← afterLineBreak then failHere .throwLineBreak
  let value ← includingIn (g ()).expression
  expectSemicolon
  return .throw value

/-- A jump out of a loop or to its next round. -/
def jump (start : Nat) : Parser Stmt := do
  let isBreak ← is "break"
  bump
  let label ← if ← eatSemicolon then pure none else do
    let (_, name) ← identifierUse
    expectSemicolon
    pure (some name)
  let span ← spanFrom start
  let labels := (← get).labels
  let isLost := label.elim false fun name => !labels.contains name
  let context ← context
  if isBreak then
    if isLost then noteAt span .breakLabel
    else if !context.breakAllowed then noteAt span .breakOutside
  else if !context.continueAllowed then noteAt span .continueOutside
  else if isLost then noteAt span .jumpAcrossFunction
  return .jump label

/-! ## Guarded blocks -/

/-- What catches the fault of a block, if anything does. -/
def handler? (g : Below) : Parser Stmt := do
  if !(← eat "catch") then return .absent
  let param ← if ← eat "(" then do
      let param ← typed g (← pattern g false)
      expect ")"
      pure param
    else pure .absent
  return .handler param (← block g)

def finalizer? (g : Below) : Parser Stmt := do
  if ← eat "finally" then return .block (← block g)
  else return .absent

def guarded (g : Below) : Parser Stmt := do
  bump
  let body ← block g
  let lo ← position
  let handler ← handler? g
  let finalizer ← finalizer? g
  match handler, finalizer with
  | .absent, .absent => note (lo, lo) .semicolonExpected
  | _, _ => pure ()
  return .tryCatch body handler finalizer

/-- A handler without a block before it. -/
def strayHandler (g : Below) : Parser Stmt := do
  let (lo, hi) ← currentSpan
  note (lo, hi) .semicolonExpected
  let _ ← try handler? g catch _ => pure .absent
  let _ ← try finalizer? g catch _ => pure .absent
  return .expression (.invalid ⟨lo, hi⟩)

def withObject (g : Below) : Parser Stmt := do
  let span ← currentSpan
  note span .withUnsupported
  noteStrict ⟨span.1, span.2⟩ .strictWith
  bump
  let object ← inParentheses g
  let body ← within (fun context => { context with inFunction := true })
      ((g ()).statement false)
  return .withObject object body

/-! ## Labels -/

/-- What a label is on, from behind its colon. -/
def labelled (g : Below) (span : Span) (name : String) : Parser Stmt :=
  within (fun context => { context with breakAllowed := true }) do
    let outer := (← get).labels
    modify fun cursor => { cursor with labels := name :: outer }
    let body ← if ← is "function" then do
        let lo ← position
        let isGenerator ← nextIs "*"
        let function ← functionDeclaration g [] false
        let whole ← spanFrom lo
        noteAt whole .labelledFunction
        if isGenerator then noteAt whole .labelledGenerator
        pure function
      else (g ()).statement false
    for _ in outer.filter (· = name) do
      noteAt span (.labelTwice name)
    modify fun cursor => { cursor with labels := outer }
    return .labelled name body

/-! ## Declarations that start with a word -/

/-- The same declaration, only declared. -/
def asAmbient : Stmt → Stmt
  | .function name function _ => .function name function true
  | .classDecl name value _ => .classDecl name value true
  | .variable span kind names _ => .variable span kind names true
  | .interface name params extended members _ =>
      .interface name params extended members true
  | .typeAlias name params type _ => .typeAlias name params type true
  | .enum name memberNames values _ => .enum name memberNames values true
  | .namespace span name body _ => .namespace span name body true
  | stmt => stmt

/-- The body of a namespace or module. -/
def namespaceBody (g : Below) : Parser (List Stmt) := do
  expect "\x7b"
  (g ()).moduleBody

/-- A namespace from its name on. Of a dotted name only the first part is a name
here. -/
def namespaceFrom (g : Below) (start : Nat) : Parser Stmt := do
  let (_, name) ← anyWord
  repeating (fun (_ : Unit) => do
    if ← eat "." then
      let _ ← anyWord
      return .again ()
    else return .over ()) ()
  let body ← namespaceBody g
  return .namespace (← spanFrom start) (.identifier name) body false

/-- The part of a declared module behind its name. -/
def ambientModule (g : Below) (start : Nat) : Parser Stmt := do
  let name ← match ← required with
    | .string value _ =>
        bump
        pure (ExportName.text value)
    | .word "global" =>
        bump
        pure (ExportName.identifier "global")
    | _ => failUnexpected "global or a string literal"
  let body ← if ← is "\x7b" then namespaceBody g
    else do
      expectSemicolon
      pure []
  return .namespace (← spanFrom start) name body false

/-- A declaration that starts with `word`. With `isCurrent` the word itself is
still to be taken, and then nothing but a declaration can follow. -/
def wordDeclaration? (g : Below) (start : Nat) (decorators : List Expr)
    (word : String) (isCurrent : Bool) : Parser (Option Stmt) := do
  let take : Parser Unit := if isCurrent then bump else return
  match word with
  | "abstract" =>
      if ← pure isCurrent <||> (is "class" <&&> (not <$> afterLineBreak)) then
        take
        return some (← classDeclaration g decorators true)
      return none
  | "enum" =>
      if ← pure isCurrent <||> isName then
        take
        return some (← enumeration g)
      return none
  | "interface" =>
      if ← pure isCurrent <||> isName then
        take
        return some (← interface g)
      return none
  | "module" =>
      if ← afterLineBreak then return none
      take
      match ← required with
      | .string _ _ => return some (← ambientModule g start)
      | _ =>
          if ← pure isCurrent <||> isName then
            return some (← namespaceFrom g start)
          return none
  | "namespace" =>
      if ← pure isCurrent <||> isName then
        take
        return some (← namespaceFrom g start)
      return none
  | "type" =>
      if ← pure isCurrent <||> ((not <$> afterLineBreak) <&&> isName) then
        take
        return some (← typeAlias g)
      return none
  | _ => return none

/-- What follows `declare`, if that starts a declaration. -/
def declared? (g : Below) (start : Nat) (decorators : List Expr) :
    Parser (Option Stmt) := do
  if (← context).ambient then noteAt (← spanFrom start) .declareInAmbient
  within (fun context => { context with ambient := true }) do
    if ← is "function" then
      return some (asAmbient (← functionDeclaration g decorators false))
    if ← is "class" then
      return some (asAmbient (← classDeclaration g decorators false))
    if ← is "const" <&&> nextIs "enum" then
      bump
      bump
      return some (asAmbient (← enumeration g))
    if ← isAny ["const", "var", "let"] then
      match ← variableList g false with
      | .variable span kind names _ =>
          return some (.variable ⟨start, span.hi⟩ kind names true)
      | other => return some (asAmbient other)
    if ← is "global" then return some (asAmbient (← ambientModule g start))
    match ← token? with
    | some (.word word) =>
        return (← wordDeclaration? g start decorators word true).map asAmbient
    | some (.escapedWord word) =>
        return (← wordDeclaration? g start decorators word true).map asAmbient
    | _ => return none

/-- A declaration whose first word has been read as an expression. -/
def declarationBehind? (g : Below) (start : Nat) (decorators : List Expr)
    (word : String) :
    Parser (Option Stmt) := do
  if word = "declare" then declared? g start decorators
  else if word = "global" then
    if ← is "\x7b" then
      let body ← namespaceBody g
      return some
        (.namespace (← spanFrom start) (.identifier "global") body false)
    return none
  else wordDeclaration? g start decorators word false

/-! ## Statements -/

/-- The end of a statement that is an expression. -/
def expressionEnd (g : Below) (start : Nat) (value : Expr) : Parser Placed := do
  if ← eatSemicolon then return (start, .expression value)
  if (← token?).elim false Token.isBinary then
    note (← currentSpan) .semicolonExpected
    let value ← operations g value 0
    return (start, .expression value)
  failHere .statementEndExpected

/-- A statement that starts with an expression. -/
def expressionStatement (g : Below) (start : Nat) (decorators : List Expr) :
    Parser Placed := do
  let value ← includingIn (g ()).expression
  match value with
  | .identifier span name =>
      if ← eat ":" then return (span.lo, ← labelled g span name)
      if name = "interface" && (← afterLineBreak) then
        noteStrict span (.strictName name)
        let _ ← eat ";"
        return (start, .expression value)
      match ← declarationBehind? g span.lo decorators name with
      | some declaration => return (span.lo, declaration)
      | none => pure ()
      if name = "enum" || name = "interface" then
        noteStrict span (.strictName name)
      if ["public", "static", "abstract"].contains name then
        if ← eat "interface" then
          noteAt span .interfaceName
          return (start, ← interface g)
      expressionEnd g start value
  | value => expressionEnd g start value

/-- Where a statement stands, which decides whether it may be a declaration. -/
inductive StatementPlace where
  /-- The statement is a part of another one. -/
  | part
  | block
  /-- The statement is an item of a module or a namespace. -/
  | item
deriving DecidableEq

/-- A statement that starts with `await`, unless it is an expression like any
other. If what follows the word only looked like variables to be disposed of,
the word is taken and forgotten. -/
def awaitStatement? (g : Below) (place : StatementPlace) (start : Nat) :
    Parser (Option Stmt) := do
  let here ← position
  let isUsing ← nextIs "using"
  if isUsing then
    bump
    match ← usingVariables? g start with
    | some stmt => return some stmt
    | none => pure ()
  if place ≠ .item then return none
  if !isUsing then bump
  let value ← awaited g here
  let value ← includingIn (operations g value 0)
  let _ ← eat ";"
  return some (.expression value)

/-- A statement that its first token tells. -/
def keywordStatement? (g : Below) (place : StatementPlace) (start : Nat)
    (decorators : List Expr) :
    Parser (Option Placed) := do
  let includeDecl := place != .part
  let here ← position
  let placed (parse : Parser Stmt) : Parser (Option Placed) := do
    return some (here, ← parse)
  match ← required with
  | .mark "\x7b" => placed (.block <$> block g)
  | .mark ";" =>
      bump
      return some (start, .empty)
  | .word "await" =>
      if !includeDecl then return none
      return (← awaitStatement? g place start).map fun stmt => (start, stmt)
  | .word "break" | .word "continue" => return some (start, ← jump start)
  | .word "debugger" =>
      bump
      expectSemicolon
      return some (start, .debugger)
  | .word "do" => placed (doLoop g)
  | .word "for" => placed (forLoop g)
  | .word "function" =>
      if !includeDecl then note (← currentSpan) .declarationForbidden
      placed (functionDeclaration g decorators false)
  | .word "class" =>
      if !includeDecl then note (← currentSpan) .declarationForbidden
      return some (start, ← classDeclaration g decorators false)
  | .word "if" => placed (condition g)
  | .word "return" => placed (returnValue g)
  | .word "switch" => placed (switch g)
  | .word "throw" => placed (throwValue g)
  | .word "catch" | .word "finally" => placed (strayHandler g)
  | .word "try" => placed (guarded g)
  | .word "with" => placed (withObject g)
  | .word "while" => placed (whileLoop g)
  | .word "var" => placed (variableList g false)
  | .word "const" =>
      if ← nextIs "enum" then
        bump
        bump
        return some (start, ← enumeration g)
      if includeDecl then placed (variableList g false) else return none
  | .word "let" =>
      if ← pure includeDecl <&&> followsLet <$> peek? then
        placed (variableList g false) else return none
  | .word "using" =>
      if !includeDecl then return none
      return (← usingVariables? g start).map fun stmt => (start, stmt)
  | .word "interface" =>
      if !(← nextIsAnyWord <&&> nextIsHere) then return none
      bump
      placed (interface g)
  | .word "type" =>
      if !(← nextIsAnyWord <&&> nextIsHere) then return none
      bump
      placed (typeAlias g)
  | .word "enum" =>
      if !(← nextIsAnyWord <&&> nextIsHere) then return none
      bump
      placed (enumeration g)
  | .word "async" =>
      if !(← nextIsHere <&&> nextIs "function") then return none
      bump
      placed (functionDeclaration g decorators true)
  | _ => return none

/-- A statement behind its decorators. -/
def statementBehind (g : Below) (place : StatementPlace) (start : Nat)
    (decorators : List Expr) :
    Parser Placed :=
  within (fun context => { context with expectsColon := false }) do
    match ← keywordStatement? g place start decorators with
    | some stmt => return stmt
    | none => expressionStatement g start decorators

/-- A call or a property of `import` as a statement. -/
def importExpression (g : Below) : Parser Stmt := do
  let value ← (g ()).expression
  let _ ← eatSemicolon
  return .expression value

/-- A statement that is no item of a module. -/
def statement (g : Below) (includeDecl : Bool) : Parser Stmt := do
  let start ← position
  let decorators ← decorators g true
  if ← isAny ["import", "export"] then
    if ← is "import" <&&> nextIsAny ["(", "."] then return ← importExpression g
    failHere .importExportInBlock
  let place := if includeDecl then StatementPlace.block else .part
  return (← statementBehind g place start decorators).2

def blockBody (g : Below) : Parser (List Stmt) :=
  bodyItems ((g ()).statement true)

end Prune.Script.Parser
