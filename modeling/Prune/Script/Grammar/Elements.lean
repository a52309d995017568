import Prune.Script.Grammar.Functions

/-!
# Elements

Elements in angles with their attributes and children. The scanner knows when
it is inside a tag and when between tags; the grammar here only follows it.
-/

namespace Prune.Script.Parser

def isElementMark (mark : Token → Bool) : Parser Bool :=
  return (← token?).elim false mark

def isElementStart : Parser Bool := isElementMark fun token => match token with
  | .elementStart => true
  | _ => false

def isElementEnd : Parser Bool := isElementMark fun token => match token with
  | .elementEnd => true
  | _ => false

def eatElementEnd : Parser Bool := do
  if ← isElementEnd then
    bump
    return true
  return false

/-- A name inside a tag. -/
def tagName : Parser String := do
  match ← required with
  | .elementName name =>
      bump
      return name
  | _ =>
      if (← context).forcedElement then return (← identifierUse).2
      failUnexpected "jsx identifier"

/-- The name of an element and its text as a whole. -/
def tag : Parser (Tag × String) := do
  let first ← tagName
  if ← eat ":" then
    let second ← tagName
    if ← eat "." then
      let _ ← tagName
      abandon .memberOfPrefixed
    let text := first ++ ":" ++ second
    return (.prefixed, text)
  let parts ← collect do
    if ← eat "." then some <$> tagName
    else return none
  let text := String.intercalate "." (first :: parts)
  return (if parts.isEmpty then .plain first else .dotted first, text)

/-- An expression in braces, which dots may stand before, or nothing in
braces. -/
def container (g : Below) : Parser Expr := do
  bump
  if ← is "\x7d" then
    expect "\x7d"
    return .absent
  let _ ← eat "..."
  let value ← (g ()).expression
  expect "\x7d"
  return value

def attributeValue (g : Below) : Parser Expr := do
  let lo ← position
  match ← required with
  | .mark "\x7b" =>
      match ← container g with
      | .absent =>
          let span ← spanFrom lo
          fail (span.lo, span.hi) .emptyAttribute
      | value => return value
  | .string _ _ =>
      bump
      return .literal (← spanFrom lo)
  | .elementStart => (g ()).element
  | _ => failHere .attributeValue

def tagAttribute (g : Below) : Parser Expr := do
  if ← eat "\x7b" then
    let lo ← position
    expect "..."
    let value ← (g ()).assignment
    let span ← spanFrom lo
    expect "\x7d"
    return .spread span value
  let _ ← tagName
  if ← eat ":" then let _ ← tagName
  if ← eat "=" then
    within
      (fun context =>
        { context with inConditional := false, expectsColon := false })
      (attributeValue g)
  else return .absent

/-- What an opening tag holds. -/
structure Opening where
  tag : Option (Tag × String)
  typeArguments : List TypeTerm
  attributes : List Expr
  isClosed : Bool

def opening (g : Below) : Parser Opening := do
  if ← eatElementEnd then return ⟨none, [], [], false⟩
  let tag ← tag
  let types ← if ← is "<" then attempt (some <$> typeArguments g) else pure none
  let attributes ← collect do
    if ← atEnd <||> is "/" <||> isElementEnd then return none
    some <$> tagAttribute g
  let isClosed ← eat "/"
  if !(← eatElementEnd) then
    if !(← Context.forcedElement <$> context <&&> eat ">") then
      failUnexpected "> (jsx closing tag)"
  return ⟨some tag, types.getD [], attributes, isClosed⟩

/-- What stands between two tags, and what closes it. -/
def contents (g : Below) : Parser (List Expr × Option String × Span) :=
  repeating (fun before => do
    match ← required with
    | .elementStart =>
        if ← nextIs "/" then
          let lo ← position
          bump
          bump
          if ← eatElementEnd then
            return .over (before.reverse, none, ← spanFrom lo)
          let (_, name) ← tag
          if !(← eatElementEnd) then
            failHere (.expected "> (jsx tag end)" (← shown))
          return .over (before.reverse, some name, ← spanFrom lo)
        return .again ((← (g ()).element) :: before)
    | .elementText _ =>
        bump
        return .again before
    | .mark "\x7b" =>
        if ← nextIs "..." then
          bump
          bump
          let value ← (g ()).expression
          expect "\x7d"
          return .again (value :: before)
        return .again ((← container g) :: before)
    | _ => failUnexpected "< (jsx tag start), jsx text or \x7b") []

/-- An element from its opening angle on. -/
def element (g : Below) : Parser Expr := do
  let lo ← position
  let isForced ← is "<"
  bump
  let change (context : Context) : Context :=
    { context with
      forcedElement := isForced, plainAngles := false, expectsColon := false }
  within change do
    let opening ← opening g
    let tag := opening.tag.map Prod.fst
    if opening.isClosed then
      return .element (← spanFrom lo) tag opening.attributes
        opening.typeArguments [] false
    let (children, closing, closingSpan) ← contents g
    let span ← spanFrom lo
    let closingRange := (closingSpan.lo, closingSpan.hi)
    match opening.tag, closing with
    | none, some _ => fail closingRange .openFragment
    | some (_, name), closing =>
        if closing ≠ some name then fail closingRange (.openElement name)
    | none, none => pure ()
    return .element span tag opening.attributes opening.typeArguments
      children true

end Prune.Script.Parser
