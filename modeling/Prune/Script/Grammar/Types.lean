import Prune.Script.Grammar.Names

/-!
# Types

The grammar of types, type parameters and type arguments. What a parenthesis or
a brace in a type starts is found out by looking ahead.
-/

namespace Prune.Script.Parser

/-! ## Modifiers -/

/-- Whether the word before the current token can be a modifier of what
follows. -/
def followsModifier : Parser Bool := do
  if ← afterLineBreak then return false
  match ← token? with
  | some (.mark text) => return ["[", "\x7b", "*", "...", "#"].contains text
  | some (.word _) | some (.escapedWord _) | some (.string _ _)
  | some (.number _) | some (.bigInt _ _) => return true
  | _ => return false

/-- Takes one of some words if it is a modifier here. -/
def modifier? (allowed : List String) (stopAtStaticBlock : Bool) :
    Parser (Option String) := do
  let token ← required
  match token.wordText?.filter allowed.contains with
  | none => return none
  | some text =>
      if ← pure (stopAtStaticBlock && token.isWord "static") <&&>
          nextIs "\x7b" then return none
      attempt do
        bump
        if ← followsModifier then return some text
        return none

/-- Takes a modifier that only a parameter can have. -/
def eatParameterModifier : Parser Bool := do
  let modifiers := ["public", "protected", "private", "readonly"]
  if ← isAny modifiers <&&> (nextIsAnyWord <||> nextIsAny ["\x7b", "["]) then
    let _ ← try modifier? modifiers false catch _ => pure none
    return true
  return false

/-! ## Lists -/

/-- Type arguments in angles. -/
def typeArguments (g : Below) : Parser (List TypeTerm) := do
  let arguments ← inType do
    withoutNesting do
      if ← is "<<" then splitShift
      else expect "<"
      commaList ">" (g ()).type
  modify fun cursor =>
    { cursor with scan := { cursor.scan with allowsExpression := false } }
  expect ">"
  return arguments

def eatThenType (g : Below) (text : String) : Parser TypeTerm :=
  inType do
    if ← eat text then (g ()).type
    else return .absent

/-- How a complaint shows a token that may be missing. -/
def shownOptional : Parser Shown := do
  let source := (← get).scan.text
  return (← token?).elim (Shown.text "None") fun token =>
    .present (token.describe source)

def expectThenType (g : Below) (text : String) : Parser TypeTerm :=
  inType do
    if ← eat text then (g ()).type
    else
      let got ← shownOptional
      failHere (.unexpected got text)

/-- Takes the current token and reads the type behind it. An angle behind the
type, or where there is none, is no longer one of a type. -/
def nextType (g : Below) : Parser TypeTerm := do
  let leave : Parser Unit := do
    if !(← context).inType then joinAngles
  try
    let type ← inType do
      bump
      (g ()).type
    leave
    return type
  catch fault =>
    leave
    throw fault

/-- A type behind a colon, if there is one. -/
def annotation? (g : Below) : Parser TypeTerm := do
  if ← is ":" then inType do
    bump
    (g ()).type
  else return .absent

/-- A type parameter. -/
def typeParameter (g : Below) (allowsVariance allowsConst : Bool) :
    Parser TypeTerm := do
  let modifiers :=
    ["public", "private", "protected", "readonly", "abstract", "const",
      "override", "in", "out"]
  repeating (fun (seen : List String) => do
    match ← modifier? modifiers false with
    | none => return .over ()
    | some word =>
        let previous := (← get).previous
        if word = "const" then
          if !allowsConst then note previous (.constOnTypeParameter "const")
        else if word = "in" || word = "out" then
          if !allowsVariance then note previous (.varianceOnTypeParameter word)
          else if seen.contains word then note previous (.modifierTwice word)
          else if word = "in" && seen.contains "out" then
            note previous (.modifierOrder "in" "out")
        else note previous (.modifierOnTypeParameter word)
        return .again (word :: seen)) []
  let (_, name) ← inType anyWord
  let constraint ← eatThenType g "extends"
  let default ← eatThenType g "="
  return .parameter name constraint default

/-- Type parameters in angles, each read by `param`. -/
def typeParameterList (param : Parser α) : Parser (List α) :=
  inType do
    withoutNesting do
      match ← token? with
      | some (.mark "<") | some .elementStart => bump
      | _ => failUnexpected "< (jsx tag start)"
      let params ← commaList ">" param
      expect ">"
      return params

def typeParameters (g : Below) (allowsVariance allowsConst : Bool) :
    Parser (List TypeTerm) :=
  typeParameterList (typeParameter g allowsVariance allowsConst)

/-- Where type parameters stand that nothing can be done with. -/
def typeParameterSpans (g : Below) : Parser (List Span) :=
  typeParameterList do
    let lo ← position
    let _ ← typeParameter g false true
    spanFrom lo

def typeParameters? (g : Below) (allowsVariance allowsConst : Bool) :
    Parser (List TypeTerm) := do
  if ← is "<" then typeParameters g allowsVariance allowsConst
  else return []

/-! ## Signatures -/

/-- Whether a parameter can be used in a type. -/
def isTypeParam : Pattern → Bool
  | .identifier _ _ _ | .array _ _ _ | .object _ _ _ | .rest _ _ _ => true
  | .decorated _ param => isTypeParam param
  | _ => false

/-- A parameter without its decorators. -/
def undecorated : Pattern → Pattern
  | .decorated _ param => param
  | param => param

/-- The parameters of a signature, with the closing parenthesis. -/
def signatureParams (g : Below) : Parser (List Pattern) := do
  let params ← (g ()).formalParams
  if params.all isTypeParam then
    expect ")"
    return params.map undecorated
  failUnexpected
    "an identifier, [ for an array pattern, \x7b for an object patter or ... for a rest pattern"

/-- The result of a signature behind `mark`: a type or a predicate on a
parameter. -/
def resultBehind (g : Below) (mark : String) : Parser TypeTerm :=
  inType do
    if !(← eat mark) then
      let got ← shownOptional
      failHere (.expected mark got)
    let asserts ← is "asserts" <&&> nextIsName
    if asserts then bump
    let isPredicate ← isName <&&> nextIs "is" <&&> nextIsHere
    if asserts || isPredicate then
      let (_, subject) ← anyWord
      let type ← if isPredicate then do
          bump
          inType (g ()).type
        else pure .absent
      return .predicate (some subject) type
    inType (g ()).type

def result? (g : Below) : Parser TypeTerm := do
  if ← is ":" then resultBehind g ":"
  else return .absent

/-- The end of a member of an object type. -/
def memberEnd : Parser Unit := do
  if !(← eat ",") then expectSemicolon

def signatureMember (g : Below) : Parser TypeTerm := do
  let typeParams ← typeParameters? g false true
  expect "("
  let params ← signatureParams g
  let result ← result? g
  memberEnd
  return .signature typeParams params result

/-- The name of a member of an object type; only a computed name holds an
expression. -/
def typeKey (g : Below) : Parser Expr := do
  if ← eat "[" then
    let key ← (g ()).assignment
    expect "]"
    return key
  within (fun context => { context with inPropertyName := true }) do
    match ← required with
    | .number _ | .string _ _ =>
        let _ ← (g ()).construct false
    | .mark "#" =>
        let (span, _) ← privateName
        noteAt span .privateNameInInterface
    | _ =>
        let _ ← anyWord
    return .absent

/-- An index signature, if one comes next. -/
def indexSignature? (g : Below) :
    Parser (Option (List Pattern × TypeTerm)) := do
  if !(← is "[") then return none
  let isIndex ← lookahead do
    bump
    if ← isName then
      bump
      isAny [":", ","]
    else return false
  if !isIndex then return none
  expect "["
  let (span, name) ← anyWord
  if ← eat "," then noteAt span .indexParameters
  else expect ":"
  let type ← inType (g ()).type
  let whole ← spanFrom span.lo
  expect "]"
  let value ← annotation? g
  memberEnd
  return some ([.identifier whole name type], value)

def accessorMember (g : Below) (isReadonly : Bool) : Parser (Option TypeTerm) :=
  attempt do
    if isReadonly then failHere .modifierForbidden
    let isGetter ← eat "get"
    if !isGetter then expect "set"
    let key ← typeKey g
    expect "("
    if isGetter then
      expect ")"
      let type ← annotation? g
      memberEnd
      return some (.property key type)
    else
      match ← signatureParams g with
      | [] => failHere .setterParameters
      | param :: _ =>
          memberEnd
          return some (.setter key param)

def propertyOrMethod (g : Below) (isReadonly : Bool) : Parser TypeTerm := do
  let key ← typeKey g
  let _ ← eat "?"
  if ← isAny ["(", "<"] then
    if isReadonly then failHere .readonlyMethod
    let typeParams ← typeParameters? g false true
    expect "("
    let params ← signatureParams g
    let result ← result? g
    memberEnd
    return .method key typeParams params result
  else
    let type ← annotation? g
    memberEnd
    return .property key type

/-- A member of an object type. -/
def typeMember (g : Below) : Parser TypeTerm := do
  if ← isAny ["(", "<"] then signatureMember g
  else
    let isConstruct ← if ← is "new" then
        lookahead do
          bump
          isAny ["(", "<"]
      else pure false
    if isConstruct then
      expect "new"
      signatureMember g
    else
      let isReadonly := (← modifier? ["readonly"] false).isSome
      match ← indexSignature? g with
      | some (params, type) => return .index params type
      | none =>
          match ← accessorMember g isReadonly with
          | some member => return member
          | none => propertyOrMethod g isReadonly

/-- The members of an object type, with their braces. -/
def typeMembers (g : Below) : Parser (List TypeTerm) := do
  expect "\x7b"
  let members ← collect do
    if ← is "\x7d" then return none
    some <$> typeMember g
  expect "\x7d"
  return members

/-! ## Simple types -/

/-- A dotted name, by its first word. -/
def entityName (allowReserved : Bool) : Parser String := do
  let (_, root) ← anyWord
  if root = "void" then
    let here ← position
    note (← lastPosition, here) .semicolonExpected
  repeating (fun (_ : Unit) => do
    if ← eat "." then
      let here ← position
      if ← (not <$> is "#") <&&> (not <$> isAnyWord) then
        note (here, here) .nameExpected
        return .over ()
      if allowReserved then let _ ← anyWord
      else let _ ← identifier false
      return .again ()
    else return .over ()) ()
  return root

def plainAngles (g : Below) : Parser (List TypeTerm) :=
  within (fun context => { context with plainAngles := false })
    (typeArguments g)

/-- The name of a type with its arguments. -/
def typeReference (g : Below) : Parser TypeTerm := do
  let lo ← position
  let hasModifier ← eatParameterModifier
  let root ← entityName true
  let arguments ← if ← (not <$> afterLineBreak) <&&>
      isAny ["<", "<<"] then plainAngles g else pure []
  if hasModifier then noteAt (← spanFrom lo) .parameterProperty
  return .named root arguments

/-- An import in a type, by the first word of its qualifier. -/
def importType (g : Below) : Parser (Option String × List TypeTerm) := do
  bump
  expect "("
  let _ ← token?
  let span ← currentSpan
  match ← required with
  | .string _ _ => bump
  | _ =>
      bump
      note span .importedTypeText
  expect ")"
  let root ← if ← eat "." then some <$> entityName false else pure none
  let arguments ← if ← is "<" then plainAngles g else pure []
  return (root, arguments)

def importTerm : Option String × List TypeTerm → TypeTerm
  | (some root, arguments) => .named root arguments
  | (none, arguments) => .compound arguments

def typeQuery (g : Below) : Parser TypeTerm := do
  expect "typeof"
  if ← is "import" then
    let imported := importTerm (← importType g)
    let arguments ← if ← (not <$> afterLineBreak) <&&>
        is "<" then plainAngles g else pure []
    return .compound (imported :: arguments)
  else
    let root ← entityName true
    let arguments ← if ← (not <$> afterLineBreak) <&&>
        is "<" then plainAngles g else pure []
    return .query root arguments

def thisPredicate (g : Below) : Parser TypeTerm := do
  if ← eat "is" then return .predicate none (← inType (g ()).type)
  return .predicate none .absent

def templateType (g : Below) : Parser TypeTerm := do
  expect "`"
  let piece : Parser Bool := do
    match ← required with
    | .template _ fault =>
        bump
        match fault with
        | some fault => throw fault
        | none => pure ()
        is "`"
    | _ => failUnexpected "template token"
  if ← piece then
    expect "`"
    return .compound []
  let types ← repeating (fun before => do
    expect "$\x7b"
    let type ← (g ()).type
    expect "\x7d"
    let before := type :: before
    if ← piece then return .over before.reverse
    else return .again before) []
  expect "`"
  return .compound types

/-- An element of a tuple, and whether it may be left out. -/
inductive TupleElement where
  | rest (type : TypeTerm)
  | optional (type : TypeTerm)
  | plain (type : TypeTerm)

def TupleElement.type : TupleElement → TypeTerm
  | rest type | optional type | plain type => type

def tupleElement (g : Below) : Parser TupleElement := do
  let label ← attempt do
    let _ ← eat "..."
    let (_, name) ← anyWord
    let _ ← eat "?"
    expect ":"
    return some name
  let labelled (type : TypeTerm) : TypeTerm := match label with
    | some label => .labelled label type
    | none => type
  if ← eat "..." then return .rest (labelled (← (g ()).type))
  let type ← (g ()).type
  if ← eat "?" then return .optional (labelled type)
  return .plain (labelled type)

/-- Whether an element that must be there comes after one that may be left
out. -/
def requiredAfterOptional : Bool → List TupleElement → Bool
  | _, [] => false
  | seen, .rest _ :: elements => requiredAfterOptional seen elements
  | _, .optional _ :: elements => requiredAfterOptional true elements
  | seen, .plain _ :: elements => seen || requiredAfterOptional seen elements

def tupleType (g : Below) : Parser TypeTerm := do
  let lo ← position
  expect "["
  let elements ← commaList "]" (tupleElement g)
  expect "]"
  if requiredAfterOptional false elements then
    let span ← spanFrom lo
    fail (span.lo, span.hi) .requiredAfterOptional
  return .compound (elements.map TupleElement.type)

/-- Whether a brace starts a mapped type. -/
def startsMappedType : Parser Bool :=
  lookahead do
    bump
    if ← eat "+" <||> eat "-" then is "readonly"
    else
      let _ ← eat "readonly"
      if !(← eat "[") then return false
      if !(← isName) then return false
      bump
      is "in"

def mappedType (g : Below) : Parser TypeTerm := do
  expect "\x7b"
  if ← isAny ["+", "-"] then
    bump
    expect "readonly"
  else let _ ← eat "readonly"
  expect "["
  let (_, name) ← anyWord
  let constraint ← expectThenType g "in"
  let renamed ← if ← eat "as" then (g ()).type else pure .absent
  expect "]"
  if ← isAny ["+", "-"] then
    bump
    expect "?"
  else let _ ← eat "?"
  let value ← eatThenType g ":"
  expectSemicolon
  expect "\x7d"
  return .mapped (.parameter name constraint .absent) renamed value

/-- Words for types that name nothing. -/
def typeWords : List String :=
  ["void", "null", "any", "boolean", "bigint", "never", "number", "object",
    "string", "symbol", "unknown", "undefined", "intrinsic"]

/-- Keywords that a type may start with, as `void` does. -/
def typeKeywords : List String := ["void", "yield", "null", "await", "break"]

def primaryTypes : String :=
  "an identifier, void, yield, null, await, break, a string literal, a numeric literal, true, false, `, -, import, this, typeof, \x7b, [, ("

def primaryType (g : Below) : Parser TypeTerm := do
  match ← required with
  | .word "true" | .word "false" | .string _ _ | .number _ | .bigInt _ _ =>
      bump
      return .plain
  | .word "import" => return importTerm (← importType g)
  | .word "this" =>
      bump
      if ← (not <$> afterLineBreak) <&&> is "is" then thisPredicate g
      else return .plain
  | .word "typeof" => typeQuery g
  | .word text =>
      if keywords.contains text && !typeKeywords.contains text then
        failUnexpected primaryTypes
      if ← is "asserts" <&&> nextIs "this" then
        bump
        bump
        thisPredicate g
      else if ← (not <$> nextIs ".") <&&> pure (typeWords.contains text) then
        bump
        return .plain
      else typeReference g
  | .escapedWord _ => typeReference g
  | .mark "`" => templateType g
  | .mark "-" =>
      bump
      match ← required with
      | .number _ | .bigInt _ _ =>
          bump
          return .plain
      | _ => failUnexpected "numeric literal or bigint literal"
  | .mark "\x7b" =>
      if ← startsMappedType then mappedType g
      else return .object (← typeMembers g)
  | .mark "[" => tupleType g
  | .mark "(" =>
      bump
      let type ← (g ()).type
      expect ")"
      return type
  | _ => failUnexpected primaryTypes

/-- A type followed by brackets. -/
def arrayType (g : Below) : Parser TypeTerm := do
  let first ← primaryType g
  repeating (fun type => do
    if ← (not <$> afterLineBreak) <&&> eat "[" then
      if ← eat "]" then return .again (.compound [type])
      let index ← (g ()).type
      expect "]"
      return .again (.compound [type, index])
    else return .over type) first

/-- A type behind operators on types. -/
def operatorType (g : Below) : Parser TypeTerm := do
  if ← isAny ["keyof", "unique", "readonly"] then
    bump
    return .compound [← (g ()).operatorType]
  if ← eat "infer" then
    let (_, name) ← anyWord
    let constraint ← attempt do
      expect "extends"
      let constraint ← (g ()).unconditionalType
      if (← context).plainTypesOnly || !(← is "?") then return some constraint
      return none
    return .infer (.parameter name (constraint.getD .absent) .absent)
  let _ ← modifier? ["readonly"] false
  within (fun context => { context with plainTypesOnly := false }) (arrayType g)

/-- Types with an operator between them, which may also stand before the
first. -/
def joinedTypes (mark : String) (item : Parser TypeTerm) : Parser TypeTerm := do
  let _ ← eat mark
  let first ← item
  if ← is mark then
    repeating (fun before => do
      if ← eat mark then return .again ((← item) :: before)
      else return .over (.compound before.reverse)) [first]
  else return first

/-! ## Types -/

/-- Whether the current token starts the type of a function. -/
def startsFunctionType (g : Below) : Parser Bool := do
  if ← is "<" then return true
  if !(← is "(") then return false
  lookahead do
    bump
    if ← isAny [")", "..."] then return true
    let _ ← eatParameterModifier
    let skipped ← if ← isAnyWord then do
        bump
        pure true
      else if ← isAny ["\x7b", "["] then
        try
          let _ ← (g ()).pattern
          pure true
        catch _ => pure false
      else pure false
    if !skipped then return false
    if ← isAny [":", ",", "?", "="] then return true
    if ← eat ")" then is "=>"
    else return false

/-- The type of a function, in whose parts conditional types may stand
anywhere. -/
def functionType (g : Below) : Parser TypeTerm :=
  within (fun context => { context with plainTypesOnly := false }) do
    let typeParams ← typeParameters? g false true
    expect "("
    let params ← signatureParams g
    let result ← resultBehind g "=>"
    return .signature typeParams params result

/-- A type that is not conditional. -/
def unconditionalType (g : Below) : Parser TypeTerm := do
  if ← startsFunctionType g then functionType g
  else if ← is "new" <||> (is "abstract" <&&> nextIs "new") then
    let _ ← eat "abstract"
    expect "new"
    functionType g
  else joinedTypes "|" (joinedTypes "&" (operatorType g))

/-- A type. -/
def type (g : Below) : Parser TypeTerm := do
  let check ← unconditionalType g
  if (← context).plainTypesOnly || (← afterLineBreak) then return check
  if !(← eat "extends") then return check
  let extended ← within (fun context => { context with plainTypesOnly := true })
      (unconditionalType g)
  expect "?"
  let conditional :=
    within fun context => { context with plainTypesOnly := false }
  let yes ← conditional (g ()).type
  expect ":"
  let no ← conditional (g ()).type
  return .conditional check extended yes no

/-! ## Declarations of types -/

/-- The names of the built-in types, which no interface may take. -/
def builtinTypes : List String :=
  ["string", "null", "number", "object", "any", "unknown", "boolean", "bigint",
    "symbol", "void", "never", "intrinsic"]

/-- A name with arguments in the head of an interface or class. -/
def heritage (g : Below) : Parser Expr := do
  let (span, name) ← anyWord
  let value ← (g ()).subscripts (.identifier span name) true true
  match value with
  | .ascribed _ .instantiation _ _ => return value
  | value =>
      match value with
      | .identifier _ _ | .member _ _ _ => pure ()
      | value => noteAt value.span .heritageForm
      if !(← is "<") then return value
      let types ← typeArguments g
      return .ascribed (← spanFrom span.lo) .instantiation value types

/-- The clauses of a heritage list, up to the brace or the next list. -/
def heritageList (g : Below) : Parser (List Expr) :=
  repeating (fun before => do
    if ← isAny ["\x7b", "implements", "extends"] then
      return .over before.reverse
    let value ← heritage g
    let before := value :: before
    if ← eat "," then return .again before
    if ← isAny ["\x7b", "implements", "extends"] then
      return .over before.reverse
    expect ","
    return .again before) []

/-- Skips to the next brace. -/
def skipToBrace : Parser Unit :=
  repeating (fun (_ : Unit) => do
    if ← atEnd <||> is "\x7b" then return .over ()
    bump
    return .again ()) ()

/-- An interface from its name on. -/
def interface (g : Below) : Parser Stmt := do
  let (span, name) ← anyWord
  if builtinTypes.contains name then noteAt span .interfaceName
  let typeParams ← typeParameters? g true false
  let extended ← if ← eat "extends" then heritageList g else pure []
  if ← is "extends" then
    note (← currentSpan) .extendsTwice
    skipToBrace
  let members ← inType (typeMembers g)
  return .interface name typeParams extended members false

/-- A type alias from its name on. -/
def typeAlias (g : Below) : Parser Stmt := do
  let (_, name) ← anyWord
  let typeParams ← typeParameters? g true false
  let value ← expectThenType g "="
  expectSemicolon
  return .typeAlias name typeParams value false

/-- The name of a member of an enumeration. -/
def enumName (g : Below) : Parser String := do
  let lo ← position
  match ← required with
  | .string value _ =>
      bump
      return value
  | .number raw =>
      bump
      noteAt (← spanFrom lo) .numericEnumName
      return raw
  | .mark "[" =>
      bump
      let _ ← (g ()).expression
      noteAt (← spanFrom lo) .computedEnumName
      expect "]"
      return ""
  | _ => return (← anyWord).2

/-- A member of an enumeration and its value. -/
def enumMember (g : Below) : Parser (String × Expr) := do
  let name ← enumName g
  if ← eat "=" then return (name, ← (g ()).assignment)
  if ← isAny [",", "\x7d"] then return (name, .absent)
  if ← atEnd then abandon .endInEnum
  let lo ← position
  replaceCurrent fun lexeme => ⟨.mark ",", lexeme.span, lexeme.afterLineBreak⟩
  note (lo, lo) .semicolonExpected
  return (name, .absent)

/-- An enumeration from its name on. -/
def enumeration (g : Below) : Parser Stmt := do
  let (_, name) ← anyWord
  expect "\x7b"
  let members ← repeating (fun before => do
    if ← is "\x7d" then return .over before.reverse
    let member ← enumMember g
    let before := member :: before
    if ← eat "," then return .again before
    if ← is "\x7d" then return .over before.reverse
    let got ← if ← atEnd then pure (.text "EOF") else shown
    note (← currentSpan) (.expected "," got)
    return .again before) []
  expect "\x7d"
  return .enum name (members.map Prod.fst) (members.map Prod.snd) false

end Prune.Script.Parser
