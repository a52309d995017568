import Prune.Script.Cursor

/-!
# Names

The parts of the grammar that the rest calls back into, and the several ways a
name can be read: as any word, as the use of a variable, as a new variable, or
as the private name of a member.

`Grammar` closes the recursion of the language. A parser for one kind of tree
takes the parsers of all other kinds from it; the parser of the whole language
is built by handing each level the level below, with a budget that a text
cannot use up.
-/

namespace Prune.Script

/-- The parsers that the parts of the grammar share. -/
structure Grammar where
  type : Parser TypeTerm
  unconditionalType : Parser TypeTerm
  operatorType : Parser TypeTerm
  pattern : Parser Pattern
  formalParams : Parser (List Pattern)
  expression : Parser Expr
  assignment : Parser Expr
  unary : Parser Expr
  operations : Expr → Nat → Parser Expr
  construct : Bool → Parser Expr
  callOrConstruct : Parser Expr
  subscripts : Expr → Bool → Bool → Parser Expr
  template : Bool → Parser (List Expr)
  element : Parser Expr
  classExpr : List Expr → Nat → Parser Expr
  functionExpr : Parser Expr
  statement : Bool → Parser Stmt
  blockBody : Parser (List Stmt)
  moduleBody : Parser (List Stmt)

/-- The level of the grammar below the current one. -/
abbrev Below := Unit → Grammar

namespace Parser

/-- Any word. -/
def anyWord : Parser (Span × String) := do
  let lo ← position
  match ← required with
  | .word text | .escapedWord text =>
      bump
      return (← spanFrom lo, text)
  | .elementName text =>
      if (← context).forcedElement then
        bump
        return (← spanFrom lo, text)
      failHere .identifierExpected
  | _ => failHere .identifierExpected

/-- Words that strict code keeps from being names although they are no
keywords. -/
def strictWords : List String :=
  ["static", "implements", "interface", "package", "private", "protected",
    "public", "yield", "let"]

/-- Complains about a word that strict code keeps from being a name. -/
def noteStrictWord (span : Span) (text : String) : Parser Unit := do
  if text = "enum" then noteAt span (.strictName text)
  if strictWords.contains text then noteStrict span (.strictName text)

/-- Whether a word that is a keyword may be a name here. -/
def checkKeyword (span : Nat × Nat) (text : String) (includeYield : Bool) :
    Parser Unit := do
  let context ← context
  if text = "await" then
    if context.ambient then return
    if context.inStaticBlock then fail span .identifierExpected
    fail span .awaitName
  if text = "this" || text = "let" || (text = "yield" && includeYield) then
    return
  if keywords.contains text || literalWords.contains text then
    fail span .identifierExpected

/-- A name of a variable. -/
def identifier (includeYield : Bool) : Parser (Span × String) := do
  let lo ← position
  let token ← required
  match token.wordText? with
  | none => failHere .identifierExpected
  | some text =>
      bump
      let span ← spanFrom lo
      if token.isWord text then
        noteStrictWord span text
        checkKeyword (span.lo, span.hi) text includeYield
      if text = "arguments" && (← context).inClassField then
        noteAt span .argumentsInField
      return (span, text)

/-- The use of a variable. -/
def identifierUse : Parser (Span × String) := do
  let context ← context
  identifier (!context.inGenerator)

/-- A new variable. -/
def bindingName (disallowLet : Bool) : Parser (Span × String) := do
  if disallowLet && (← is "let") then
    failUnexpected "let is reserved in const, let, class declaration"
  let (span, name) ← identifier true
  if name = "eval" || name = "arguments" then noteStrict span .strictBinding
  let context ← context
  if (context.inAsync || context.inStaticBlock) && name = "await" then
    noteAt span .identifierExpected
  if context.inGenerator && name = "yield" then noteAt span .identifierExpected
  return (span, name)

/-- A new variable, or `this`, if one comes next. -/
def bindingName? (disallowLet : Bool) : Parser (Option (Span × String)) := do
  if ← isName <||> is "this" then some <$> bindingName disallowLet
  else return none

/-- A private name, with its sign. -/
def privateName : Parser (Span × String) := do
  let lo ← position
  expect "#"
  let signEnd ← lastPosition
  if signEnd < (← position) then
    fail (lo, ← position) .spaceInPrivateName
  let (_, name) ← anyWord
  return (← spanFrom lo, name)

/-- Parses inside a type. -/
def inType (parse : Parser α) : Parser α :=
  within (fun context => { context with inType := true }) parse

/-- Parses with nothing open around, and restores what was open also after a
fault. -/
def withoutNesting (parse : Parser α) : Parser α := do
  let nesting := (← get).scan.nesting
  modify fun cursor =>
    { cursor with
      scan := { cursor.scan with nesting := [nesting.getLast?.getD .block] } }
  let restore : Parser Unit :=
    modify fun cursor => { cursor with scan := { cursor.scan with nesting } }
  try
    let value ← parse
    restore
    return value
  catch fault =>
    restore
    throw fault

/-- Forgets the tag and the element that an angle seemed to open. -/
def forgetTag : Parser Unit :=
  modify fun cursor =>
    match cursor.scan.nesting with
    | .openTag :: .element :: rest =>
        { cursor with scan := { cursor.scan with nesting := rest } }
    | _ => cursor

/-- Replaces the current token. -/
def replaceCurrent (change : Lexeme → Lexeme) : Parser Unit :=
  modify fun cursor =>
    let cursor := cursor.load
    { cursor with current := cursor.current.map change }

/-- Splits `<<` and leaves its second half. -/
def splitShift : Parser Unit :=
  replaceCurrent fun lexeme =>
    ⟨.mark "<", (lexeme.span.1 + 1, lexeme.span.2), false⟩

/-- The mark that two adjacent marks make up. -/
def joined : Token → Token → Option Token
  | .mark ">", .mark ">" => some (.mark ">>")
  | .mark ">", .mark "=" => some (.mark ">=")
  | .mark ">", .mark ">>" => some (.mark ">>>")
  | .mark ">", .mark ">=" => some (.mark ">>=")
  | .mark ">", .mark ">>=" => some (.mark ">>>=")
  | .mark "<", .mark "<" => some (.mark "<<")
  | .mark "<", .mark "=" => some (.mark "<=")
  | .mark "<", .mark "<=" => some (.mark "<<=")
  | _, _ => none

/-- Joins an angle that was read inside a type with the mark behind it. -/
def joinAngles : Parser Unit := do
  if ← isAny ["<", ">"] then
    modify fun cursor =>
      let cursor := cursor.loadFollowing
      match cursor.current, cursor.following with
      | some left, some right =>
          if left.span.2 = right.span.1 then
            match joined left.token right.token with
            | some token =>
                { cursor with
                  current :=
                    some
                      ⟨token, (left.span.1, right.span.2), left.afterLineBreak⟩
                  following := none }
            | none => cursor
          else cursor
      | _, _ => cursor

/-- Items with commas between them, up to `close`, which is not taken. -/
def commaList (close : String) (item : Parser α) : Parser (List α) :=
  repeating (fun before => do
    if ← is close then return .over before.reverse
    let value ← item
    let before := value :: before
    if ← eat "," then return .again before
    if ← is close then return .over before.reverse
    expect ","
    return .again before) []

end Parser

end Prune.Script
