import Prune.Script.Grammar.Elements

/-!
# Expressions

Expressions from the loosest to the tightest: sequences, assignments,
conditions, operators, operands with what follows them, and the operands
themselves. Parentheses may turn out to hold the parameters of an arrow
function, and angles may turn out to hold type arguments.
-/

namespace Prune.Script

def Expr.isArrow : Expr → Bool
  | arrow _ _ _ _ _ => true
  | _ => false

def Expr.isOptional : Expr → Bool
  | optional _ _ _ => true
  | ascribed _ .nonNull value _ => value.isOptional
  | _ => false

/-- An expression without the parentheses around it. -/
def Expr.unwrapped : Expr → Expr
  | parenthesized _ value => value.unwrapped
  | value => value

def Expr.isNamed (text : String) : Expr → Bool
  | identifier _ name => name = text
  | _ => false

namespace Parser

/-! ## Where arrow functions may start -/

def mayBeArrow (lo : Nat) : Parser Bool := return (← get).arrowFrom = some lo

def setArrowFrom (lo : Option Nat) : Parser Unit :=
  modify fun cursor => { cursor with arrowFrom := lo }

/-! ## Type arguments in expressions -/

/-- Keywords that start an expression behind type arguments. -/
def operandWords : List String :=
  ["await", "function", "new", "super", "this", "class", "typeof", "void",
    "delete", "yield"]

/-- Whether an expression starts here, so that what seemed to be type arguments
were comparisons. -/
def startsOperand : Parser Bool := do
  match ← required with
  | .word "import" => nextIsAny ["(", "<", "."]
  | .word text =>
      return !isReserved text || literalWords.contains text ||
        operandWords.contains text
  | .mark text =>
      return ["!", "(", "\x7b", "[", "`", "++", "--", "~", "<", "+",
        "-"].contains text
  | .escapedWord _ | .string _ _ | .number _ | .bigInt _ _ | .regexp _ _
  | .elementStart =>
      return true
  | _ => return false

/-- Type arguments behind an expression that is not called. -/
def freeTypeArguments? (g : Below) : Parser (Option (List TypeTerm)) :=
  attempt do
    let types ← typeArguments g
    if ← isAny ["<", ">", "<<", ">>", ">=", "+", "-", "(", "`"] then return none
    if ← afterLineBreak then return some types
    if (← required).isBinary || !(← startsOperand) then return some types
    return none

/-- An expression with type arguments that are not those of a call, if they
follow it. -/
def instantiated (g : Below) (lo : Nat) (value : Expr) : Parser Expr := do
  if ← is "<" then
    match ← freeTypeArguments? g with
    | some types => return .ascribed (← spanFrom lo) .instantiation value types
    | none => return value
  else return value

/-! ## Arrow functions -/

/-- An asynchronous arrow function with type parameters, from these on. -/
def genericAsyncArrow (g : Below) (lo : Nat) : Parser (Option Expr) := do
  let opens := match ← token? with
    | some (.mark "<") | some .elementStart => true
    | _ => false
  if !opens then return none
  let head ← attempt do
    let typeParams ← typeParameters g false false
    expect "("
    let params ← formalParams g
    expect ")"
    let result ← result? g
    expect "=>"
    return some (typeParams, params.map undecorated, result)
  match head with
  | none => return none
  | some (typeParams, params, result) =>
      within
        (fun context =>
          { context with inAsync := true, inGenerator := false }) do
        let body ← arrowBody g true (params.all isPlainParam)
        return some (.arrow (← spanFrom lo) typeParams params result body)

/-- What stands in parentheses: an expression, or something that can only be a
parameter. -/
inductive ParenItem where
  | value (value : Expr)
  | param (param : Pattern)

def ParenItem.isParam : ParenItem → Bool
  | .value _ => false
  | .param _ => true

/-- A condition whose test has been read, from the question mark on. -/
def conditionTail (g : Below) (includeIn : Bool) (lo : Nat) (test : Expr) :
    Parser Expr := do
  let yes ← within
    (fun context =>
      { context with
        inConditional := true
        expectsColon := true
        includeIn := includeIn || context.includeIn })
    (g ()).assignment
  expect ":"
  let no ← within
      (fun context =>
        { context with inConditional := true, expectsColon := false })
    (g ()).assignment
  return .conditional ⟨lo, no.span.hi⟩ test yes no

/-- An assignment whose left side has been read. -/
def assignmentTail (g : Below) (lo : Nat) (left : Expr) : Parser Expr := do
  match ← token? with
  | some (.mark text) =>
      if !assignmentMarks.contains text then return left
      let isPlain := text = "="
      let target ← if isPlain then do
          let target ← toPattern .target left
          match target with
          | .expression value =>
              if !value.isTarget then
                fail (value.span.lo, value.span.hi) .notAssignable
          | _ => pure ()
          pure target
        else do
          if !left.isSimpleTarget then noteAt left.span .assignmentTarget
          match left with
          | .identifier span name =>
              if name = "eval" || name = "arguments" then
                noteStrict span .strictArguments
          | _ => pure ()
          if !left.isTarget then
            fail (left.span.lo, left.span.hi) .notAssignable
          pure (targetOf left)
      bump
      let value ← (g ()).assignment
      return .assign (← spanFrom lo) isPlain target value
  | _ => return left

/-! ## Operators -/

def binaryOp (text : String) : BinaryOp :=
  if text = "??" then .coalesce
  else if text = "&&" then .conjunction
  else if text = "||" then .disjunction
  else if text = "**" then .power
  else .other

def isLogical : Expr → Bool
  | .binary _ .conjunction _ _ | .binary _ .disjunction _ _ => true
  | _ => false

/-- One more operator on an operand, if one binds tighter than `floor`;
`satisfies` always does. -/
def operation (g : Below) (left : Expr) (floor : Nat) :
    Parser (Expr × Option Nat) := do
  let lo := left.span.lo
  if ← pure (decide (floor < 7)) <&&> (not <$> afterLineBreak) <&&> is "as" then
    if ← nextIs "const" then
      bump
      bump
      return (.ascribed (← spanFrom lo) .constAssertion left [], some floor)
    let type ← nextType g
    return (.ascribed (← spanFrom lo) .asType left [type], some floor)
  if ← (not <$> afterLineBreak) <&&> is "satisfies" then
    let type ← nextType g
    return (.ascribed (← spanFrom lo) .satisfiesType left [type], some floor)
  let includeIn := (← context).includeIn
  let found := match ← token? with
    | some (.word "in") => if includeIn then some ("in", 7) else none
    | some (.word "instanceof") => some ("instanceof", 7)
    | some (.mark text) =>
        (binaryPrecedence text).map fun precedence => (text, precedence)
    | _ => none
  match found with
  | none => return (left, none)
  | some (text, precedence) =>
      if precedence ≤ floor then return (left, none)
      bump
      let op := binaryOp text
      match op, left with
      | .power, .unary _ _ _ | .power, .await _ _ => failHere .unaryPower
      | _, _ => pure ()
      let operand ← (g ()).unary
      let right ← (g ()).operations operand
          (if op = .power then precedence - 1 else precedence)
      if op = .coalesce then
        if isLogical left then noteAt left.span .mixedCoalesce
        if isLogical right then noteAt right.span .mixedCoalesce
      return (.binary ⟨lo, right.span.hi⟩ op left right, some floor)

/-- All operators that bind tighter than `floor` on an operand. A logical
operator on an operand of another kind is complained about each time it is
looked at. -/
def operations (g : Below) (left : Expr) (floor : Nat) : Parser Expr :=
  repeating (fun left => do
    let (value, next) ← operation g left floor
    match value with
    | .binary span .conjunction (.binary _ .coalesce _ _) _
    | .binary span .disjunction (.binary _ .coalesce _ _) _ =>
        noteAt span .mixedCoalesce
    | _ => pure ()
    match next with
    | some _ => return .again value
    | none => return .over value) left

/-- An expression of operators. -/
def binary (g : Below) : Parser Expr := do
  let left ← try (g ()).unary
    catch fault => do
      let opens ← match ← required with
        | .word "in" => pure (← context).includeIn
        | .word "instanceof" => pure true
        | token => pure token.isBinary
      if !opens then throw fault
      note (← currentSpan) .expressionExpected
      pure (.invalid ⟨fault.lo, fault.hi⟩)
  if left.isArrow then return left
  operations g left 0

/-- An expression with a condition. -/
def conditional (g : Below) : Parser Expr := do
  let lo ← position
  let test ← binary g
  if test.isArrow then return test
  if ← eat "?" then conditionTail g true lo test
  else return test

/-! ## Parentheses -/

/-- Parts in parentheses become parameters. -/
def toParams (comma : Option (Nat × Nat)) :
    List ParenItem → Parser (List Pattern)
  | [] => return []
  | [item] => do
      let noteComma : Parser Unit := match comma with
        | some comma => note comma .commaAfterRest
        | none => return
      match item with
      | .value (.spread span value) =>
          match value with
          | .assign _ _ _ _ => noteAt span .restWithDefault
          | _ => pure ()
          noteComma
          return [.rest span (← toPattern .binding value) .absent]
      | .value value => return [← toPattern .binding value]
      | .param param =>
          match param with
          | .rest _ _ _ => noteComma
          | _ => pure ()
          return [param]
  | item :: items => do
      match item with
      | .value (.spread span _) | .param (.rest span _ _) =>
          noteAt span .restNotLast
          toParams comma items
      | .value value =>
          let param ← toPattern .binding value
          return param :: (← toParams comma items)
      | .param param => return param :: (← toParams comma items)

def arrowParams (items : List ParenItem) (comma : Option (Nat × Nat)) :
    Parser (List Pattern) := do
  let params ← toParams comma items
  checkAllBound params
  return params

/-- A part that can only be a parameter, whose pattern has been read as an
expression. -/
def paramTail (g : Below) (lo : Nat) (value : Expr) : Parser Pattern := do
  let pattern ← match value with
    | .spread _ value => do
        let target ← toPattern .binding value
        pure (Pattern.rest (← spanFrom lo) target .absent)
    | value => toPattern .binding value
  let typed ← match pattern with
    | .withDefault _ _ _ | .invalid _ => pure pattern
    | pattern => do
        let type ← annotation? g
        if TypeTerm.isAbsent type then pure pattern
        else pure (withType type (← lastPosition) pattern)
  if ← eat "=" then
    let value ← (g ()).assignment
    return .withDefault (← spanFrom lo) typed value
  return typed

/-- A part in parentheses. -/
def parenItem (g : Below) : Parser ParenItem := do
  let start ← position
  setArrowFrom (some start)
  let hasModifier ← eatParameterModifier
  let lo ← position
  let isSpreadName ← is "..." <&&> nextIsName
  let value ← if (← isName) || isSpreadName then
      if ← eat "..." then do
        let value ← binary g
        pure (Expr.spread (← spanFrom lo) value)
      else do
        let value ← binary g
        match ← token? with
        | some (.mark text) =>
            if assignmentMarks.contains text then assignmentTail g start value
            else pure value
        | _ => pure value
    else spreadOrValue g
  let isSpread := match value with
    | .spread _ _ => true
    | _ => false
  let (value, isOptional) ← if ← is "?" then
      if ← nextIsAny [",", ":", ")", "="] then do
        bump
        if isSpread then note (← get).previous .restOptional
        match value with
        | .identifier _ _ | .spread _ (.identifier _ _) => pure ()
        | value => fail (value.span.lo, value.span.hi) .bindingOptional
        pure (value, true)
      else if isSpread then pure (value, false)
      else do
        expect "?"
        pure (← conditionTail g false start value, false)
    else pure (value, false)
  let item ← if isOptional || (← is ":") then
      ParenItem.param <$> paramTail g lo value
    else pure (ParenItem.value value)
  if hasModifier then noteAt (← spanFrom start) .parameterProperty
  return item

/-- Whether a part is no more than a name, or dots and a name. -/
def ParenItem.isName : ParenItem → Bool
  | .value (.identifier _ _) | .value (.spread _ (.identifier _ _))
  | .param (.identifier _ _ _) =>
      true
  | _ => false

/-- An arrow may stand right behind the first part if that is a name. It is
taken, and the arrow function that it makes of the parts so far is a part of its
own. The parts come latest first. -/
def withArrowBehind (g : Below) (lo : Nat) (items : List ParenItem) :
    Parser (List ParenItem) := do
  if !(← eat "=>") then return items
  if !(items.getLast?.elim false ParenItem.isName) then return items
  let params ← arrowParams items.reverse none
  let body ← arrowBody g false (params.all isPlainParam)
  return .value (.arrow (← spanFrom lo) [] params .absent body) :: items

/-- The parts in parentheses, and the position of a comma behind the last
one. -/
def parenItems (g : Below) : Parser (List ParenItem × Option (Nat × Nat)) := do
  expect "("
  let items ← repeating
      (fun (before : List ParenItem × Option (Nat × Nat)) => do
        if ← atEnd <||> is ")" then return .over (before.1.reverse, before.2)
        let lo ← position
        let item ← parenItem g
        let items ← withArrowBehind g lo (item :: before.1)
        if ← is ")" then return .again (items, none)
        expect ","
        let comma := (← get).previous
        let isLast ← is ")"
        return .again (items, if isLast then some comma else none)) ([], none)
  expect ")"
  return items

/-- A member with a default only makes sense in a pattern. -/
def noteInitializers : ParenItem → Parser Unit
  | .value (.object _ members) | .value (.spread _ (.object _ members)) =>
      members.forM fun member =>
        match member with
        | .defaulted span _ _ => noteAt span .strayInitializer
        | _ => pure ()
  | _ => return

/-- The expressions of parts that are no parameters. -/
def parenValues : List ParenItem → Parser (List Expr)
  | [] => return []
  | .value value :: items => do
      return value :: (← parenValues items)
  | .param param :: _ => fail (param.span.lo, param.span.hi) .notAnExpression

def isBlockBody : Body → Bool
  | .block _ => true
  | _ => false

/-- An arrow function from its arrow on. -/
def arrowTail (g : Below) (lo : Nat) (isAsync : Bool) (result : TypeTerm)
    (items : List ParenItem) (comma : Option (Nat × Nat)) : Parser Expr := do
  let params ← arrowParams items comma
  let body ← arrowBody g isAsync (params.all isPlainParam)
  return .arrow (← spanFrom lo) [] params result body

/-- An expression in parentheses, or an arrow function. -/
def parenthesized (g : Below) (canBeArrow : Bool) (asyncSpan : Option Span) :
    Parser Expr := do
  let lo ← match asyncSpan with
    | some span => pure span.lo
    | none => position
  let isAsync := asyncSpan.isSome
  let (items, comma) ← within
    (fun context => { context with expectsColon := false, includeIn := true })
    (parenItems g)
  let hasParam := items.any ParenItem.isParam
  let inside ← context
  let guarded ← if inside.inConditional && (← is ":") then
      attempt do
        let result ← resultBehind g ":"
        expect "=>"
        let arrow ← arrowTail g lo isAsync result items comma
        if inside.expectsColon && !(← is ":") then failUnexpected "fail"
        return some arrow
    else pure none
  match guarded with
  | some arrow => return arrow
  | none => pure ()
  let result ← if !inside.expectsColon && (← is ":") then
      attempt do
        let result ← resultBehind g ":"
        if !(← is "=>") then failUnexpected "fail"
        return some result
    else pure none
  if hasParam || result.isSome || (← is "=>") then
    let span ← spanFrom lo
    if ← afterLineBreak then fail (span.lo, span.hi) .arrowLineBreak
    if !canBeArrow then fail (span.lo, span.hi) .arrowForbidden
    expect "=>"
    let arrow ← arrowTail g lo isAsync (result.getD .absent) items comma
    let isBlock := match arrow with
      | .arrow _ _ _ _ body => isBlockBody body
      | _ => false
    if isBlock && (← token?).elim false Token.isBinary then
      note (← currentSpan) .semicolonExpected
      let value ← operations g arrow 0
      if !(← isSemicolon) then note (← currentSpan) .semicolonExpected
      return value
    return arrow
  items.forM noteInitializers
  let values ← parenValues items
  match asyncSpan with
  | some span =>
      return .call (← spanFrom span.lo) (.identifier span "async") values []
  | none =>
      if values.isEmpty then fail (lo, ← lastPosition) .emptyParentheses
      for value in values do
        match value with
        | .spread _ value =>
            fail (value.span.lo, value.span.hi) .spreadInParentheses
        | _ => pure ()
      match values with
      | [value] => return .parenthesized (← spanFrom lo) value
      | values =>
          let first := (values.head?.map Expr.span).getD ⟨lo, lo⟩
          let last := (values.getLast?.map Expr.span).getD ⟨lo, lo⟩
          return .parenthesized (← spanFrom lo)
            (.sequence ⟨first.lo, last.hi⟩ values)

/-! ## Operands -/

/-- A regular expression, from its slash on. A slash that starts none is left
with its fault. -/
def regexp? (lo : Nat) : Parser (Option Expr) := do
  bump
  modify fun cursor =>
    { cursor with scan := { cursor.scan with regexpFrom := some lo } }
  match ← token? with
  | some (.regexp _ flags) =>
      modify fun cursor =>
        { cursor with scan := { cursor.scan with regexpFrom := none } }
      bump
      let span ← spanFrom lo
      let known := ['d', 'g', 'i', 'm', 's', 'u', 'v', 'y']
      if flags.toList.any (!known.contains ·) then noteAt span .unknownFlags
      match known.find? fun flag => 1 < flags.toList.count flag with
      | some flag => noteAt span (.repeatedFlag (String.singleton flag))
      | none => pure ()
      return some (.literal span)
  | _ => return none

/-- An operand that starts with `async`, if it is a function. -/
def asyncOperand? (g : Below) (lo : Nat) (canBeArrow : Bool) :
    Parser (Option Expr) := do
  let sameLine := !((← peekLexeme?).elim true Lexeme.afterLineBreak)
  if (← nextIs "function") && sameLine then
    bump
    return some (← functionValue g lo true)
  let generic ← if ← pure canBeArrow <&&> nextIs "<" then
      attempt do
        bump
        genericAsyncArrow g lo
    else pure none
  if generic.isSome then return generic
  if ← pure (canBeArrow && sameLine) <&&> nextIs "(" then
    bump
    let span ← spanFrom lo
    return some (← parenthesized g canBeArrow (some span))
  return none

/-- A name, or the arrow function whose only parameter it is. -/
def nameOperand (g : Below) (lo : Nat) (canBeArrow : Bool) : Parser Expr := do
  let (span, name) ← identifierUse
  if strictWords.contains name || (name = "await" && !(← context).ambient) then
    noteStrict span (.strictName name)
  let use : Expr := .identifier span name
  if !canBeArrow || (← afterLineBreak) then return use
  if name = "async" && (← isName) then
    let context ← context
    if ← pure context.loopHead <&&> is "of" <&&> (not <$> nextIs "=>") then
      if !context.awaitLoopHead then note (← get).previous .asyncInForOf
      return use
    let (argumentSpan, argument) ← bindingName false
    if argument = "as" && !(← is "=>") then
      let type ← inType (g ()).type
      return .ascribed (← spanFrom lo) .asType use [type]
    expect "=>"
    let body ← arrowBody g true true
    return .arrow (← spanFrom lo) [] [.identifier argumentSpan argument .absent]
      .absent body
  if ← eat "=>" then
    if name = "eval" || name = "arguments" then noteStrict span .strictBinding
    let body ← arrowBody g false true
    return .arrow (← spanFrom lo) [] [.identifier span name .absent]
      .absent body
  return use

/-- An operand with nothing behind it. -/
def operand (g : Below) : Parser Expr := do
  let lo ← position
  let canBeArrow ← mayBeArrow lo
  let known ← match ← token? with
    | some (.word "this") =>
        bump
        pure (some (.this (← spanFrom lo)))
    | some (.word "async") => asyncOperand? g lo canBeArrow
    | some (.mark "[") => some <$> arrayLiteral g
    | some (.mark "\x7b") => some <$> objectLiteral g
    | some (.word "function") => some <$> functionValue g lo false
    | some (.word "null") | some (.word "true") | some (.word "false")
    | some (.number _) | some (.bigInt _ _) | some (.string _ _) =>
        bump
        pure (some (.literal (← spanFrom lo)))
    | some (.mark "/") | some (.mark "/=") => regexp? lo
    | some (.mark "`") =>
        let parts ← within
            (fun context => { context with expectsColon := false })
          ((g ()).template false)
        pure (some (.template (← spanFrom lo) parts))
    | some (.mark "(") => some <$> parenthesized g canBeArrow none
    | _ => pure none
  match known with
  | some value => return value
  | none => pure ()
  let decorators ← decorators g false
  if ← is "class" then return ← (g ()).classExpr decorators lo
  if ← isAny ["let", "await"] <||> isName then
    return ← nameOperand g lo canBeArrow
  if ← eat "#" then
    let _ ← anyWord
    return .privateName (← spanFrom lo)
  failHere .expressionExpected

/-! ## What follows an operand -/

/-- Whether an expression is `super` or `import`, which cannot stand alone. -/
def isHead : Expr → Bool
  | .superKeyword _ | .importKeyword _ => true
  | _ => false

/-- A member of an expression. -/
def memberOf (span : Span) (object key : Expr) (isOptional : Bool) : Expr :=
  if isOptional || object.isOptional then
    .optional span isOptional (.member span object key)
  else .member span object key

/-- A member of `super` is always there, and never private. -/
def checkSuper (object : Expr) (isOptional isPrivate noCall : Bool) :
    Parser Unit := do
  match object with
  | .superKeyword _ =>
      if isOptional then failHere (if noCall then .superCall else .superOutside)
      if isPrivate then failHere .superCall
  | _ => return

def callOf (span : Span) (callee : Expr) (arguments : List Expr)
    (types : List TypeTerm) (isOptional : Bool) : Expr :=
  if isOptional || callee.isOptional then
    .optional span isOptional (.call span callee arguments types)
  else .call span callee arguments types

/-- A tagged template. -/
def taggedTemplate (g : Below) (lo : Nat) (tag : Expr) (types : List TypeTerm) :
    Parser Expr := do
  let parts ← (g ()).template true
  let span ← spanFrom lo
  match tag with
  | .optional _ _ _ => noteAt span .optionalTemplate
  | _ => pure ()
  return .tagged span tag types parts

/-- Type arguments with the call or the template that they belong to. In front
of `=` or `as` they belong to the expression, and nothing more follows it. -/
def typedSubscript (g : Below) (lo : Nat) (object : Expr) (noCall : Bool) :
    Parser (Option (Round Expr Expr)) :=
  within (fun context => { context with plainAngles := false }) do
    attempt do
      let generic ← if !noCall && object.isNamed "async" &&
          (← mayBeArrow object.span.lo) then
          genericAsyncArrow g lo
        else pure none
      match generic with
      | some arrow => return some (.again arrow)
      | none => pure ()
      let types ← typeArguments g
      if !noCall && (← is "(") then
        let arguments ← callArguments g
        return some
          (.again (callOf (← spanFrom lo) object arguments types false))
      else if ← is "`" then
        return some (.again (← taggedTemplate g lo object types))
      else if ← isAny ["=", "as"] then
        return some
          (.over (.ascribed (← spanFrom lo) .instantiation object types))
      else return none

/-- One thing behind an expression, if there is one. Type arguments in front of
it are dropped; without it they belong to the expression. -/
def subscript (g : Below) (lo : Nat) (object : Expr)
    (noCall noComputed : Bool) :
    Parser (Round Expr Expr) := do
  if ← (not <$> afterLineBreak) <&&> is "!" then
    modify fun cursor =>
      { cursor with scan := { cursor.scan with allowsExpression := false } }
    bump
    match object with
    | .superKeyword _ => failHere (.nonNullWith "super")
    | .importKeyword _ => failHere (.nonNullWith "import")
    | _ => return .again (.ascribed (← spanFrom lo) .nonNull object [])
  if !isHead object && (← is "<") then
    match ← typedSubscript g lo object noCall with
    | some round => return round
    | none => pure ()
  let types ← if ← is "<" then freeTypeArguments? g else pure none
  match object with
  | .importKeyword _ =>
      if !(← isAny [".", "("]) then failUnexpected "`.` or `(`"
  | _ => pure ()
  let isOptional ← is "?" <&&> nextIs "."
  if isOptional then
    bump
  let opensComputed ← if noComputed then pure false
    else if ← pure isOptional <&&> nextIs "[" then do
      bump
      eat "["
    else if !isOptional then eat "["
    else pure false
  if opensComputed then
    let key ← includingIn (g ()).expression
    expect "]"
    let member :=
      memberOf ⟨object.span.lo, ← lastPosition⟩ object key isOptional
    let value ← instantiated g lo member
    checkSuper object isOptional false noCall
    return .again (if isHead object then member else value)
  let opensCall ← if ← pure isOptional <&&> nextIsAny ["(", "<"] then do
      bump
      pure true
    else if !noCall then is "("
    else pure false
  if opensCall then
    let types ← if ← is "<" then typeArguments g else pure []
    let arguments ← callArguments g
    if (isOptional || object.isOptional) && isHead object then
      failHere .superCallOptional
    return .again (callOf (← spanFrom lo) object arguments types isOptional)
  if ← eat "." then
    let isPrivate ← is "#"
    let (_, name) ← if isPrivate then privateName else anyWord
    match object with
    | .importKeyword span =>
        if isPrivate then failUnexpected "meta"
        if name = "meta" then return .again (.metaProperty (← spanFrom span.lo))
        let arguments ← callArguments g
        return .again (.call (← spanFrom span.lo) object arguments [])
    | _ => pure ()
    let member := memberOf (← spanFrom object.span.lo) object .absent isOptional
    let value ← instantiated g lo member
    checkSuper object isOptional isPrivate noCall
    return .again (if isHead object then member else value)
  match object with
  | .importKeyword _ => failHere .importForbidden
  | .superKeyword _ => failHere (if noCall then .superCall else .superOutside)
  | _ => pure ()
  let value : Expr ← match types with
    | some types => pure (.ascribed (← spanFrom lo) .instantiation object types)
    | none => pure object
  if ← is "`" then
    return .again
      (← within (fun context => { context with expectsColon := false })
        (taggedTemplate g lo value []))
  return .over value

/-- All that follows an expression. -/
def subscripts (g : Below) (object : Expr) (noCall noComputed : Bool) :
    Parser Expr :=
  repeating (fun value => subscript g object.span.lo value noCall noComputed)
    object

/-- What starts with `import` in an expression, behind the word. -/
def importOperand (g : Below) (lo : Nat) (noCall : Bool) : Parser Expr := do
  if ← eat "." then
    let (_, name) ← anyWord
    let span ← spanFrom lo
    if name = "meta" then subscripts g (.metaProperty span) noCall false
    else if name = "source" || name = "defer" then
      subscripts g (.importKeyword span) noCall false
    else failUnexpected "meta"
  else subscripts g (.importKeyword (← spanFrom lo)) noCall false

/-- An operand with its members, or a construction. With `allowBare`, a
construction need not have arguments. -/
def construct (g : Below) (allowBare : Bool) : Parser Expr :=
  within (fun context => { context with plainAngles := true }) do
    let lo ← position
    if ← eat "new" then
      if ← eat "." then
        if ← eat "target" then
          let span ← spanFrom lo
          let { ownTarget, inParameters, inClass, .. } ← context
          if !(ownTarget || inParameters || inClass) then
            noteAt span .newTargetOutside
          return ← subscripts g (.metaProperty span) true false
        failUnexpected "target"
      let callee ← (g ()).construct allowBare
      if callee.isArrow then return callee
      if allowBare then
        match callee with
        | .optional span true _ => fail (span.lo, span.hi) .optionalConstruction
        | _ => pure ()
      let types ← if ← is "<" then
          attempt do
            let types ← plainAngles g
            if ← is "(" then return some types
            return none
        else pure none
      if !allowBare || (← is "(") then
        let arguments ← callArguments g
        let value : Expr :=
          .construct (← spanFrom lo) callee arguments (types.getD [])
        return ← subscripts g value true false
      return .construct (← spanFrom lo) callee [] (types.getD [])
    if ← eat "super" then
      return ← subscripts g (.superKeyword (← spanFrom lo)) true false
    if ← eat "import" then return ← importOperand g lo true
    let value ← operand g
    if value.isArrow then return value
    let value ← instantiated g lo value
    subscripts g value true false

/-- An operand with its members and calls. -/
def callOrConstruct (g : Below) : Parser Expr := do
  let lo ← position
  if (← context).elements then
    let token ← required
    match token with
    | .elementText _ =>
        bump
        return .literal (← spanFrom lo)
    | .elementStart => return ← (g ()).element
    | .mark "<" => if !(← nextIs "!") then return ← (g ()).element
    | _ => pure ()
  if ← eat "super" then
    return ← subscripts g (.superKeyword (← spanFrom lo)) false false
  if ← eat "import" then return ← importOperand g lo false
  let callee ← (g ()).construct true
  if callee.isArrow then return callee
  let types ← if ← isAny ["<", "<<"] then
      attempt do
        let types ← typeArguments g
        if ← is "(" then return some types
        return none
    else pure none
  match callee with
  | .construct span inner _ _ =>
      if span.hi = inner.span.hi then
        if types.isSome then expect "("
        return .construct span inner [] (types.getD [])
  | _ => pure ()
  if ← is "(" then
    let arguments ← callArguments g
    let value := callOf (← spanFrom lo) callee arguments (types.getD []) false
    return ← subscripts g value false false
  return callee

/-! ## Operators before an operand -/

/-- What is awaited, behind the word. -/
def awaited (g : Below) (lo : Nat) : Parser Expr := do
  let word := (← get).previous
  if ← is "*" then failHere .awaitStar
  let context ← context
  let span ← spanFrom lo
  if !context.inAsync && ((← isAny [")", "]", ","]) || (← isSemicolon)) then
    noteAt span .awaitName
    return .identifier span "await"
  if context.inFunction && !context.inAsync then note word .awaitOutside
  if context.inParameters && !context.inFunction then
    noteAt span .awaitParameter
  let value ← (g ()).unary
  return .await (← spanFrom lo) value

def awaitExpr (g : Below) : Parser Expr := do
  let lo ← position
  bump
  awaited g lo

def unaryWords : List String := ["delete", "void", "typeof", "+", "-", "~", "!"]

/-- An operand with the operators before and behind it. -/
def unary (g : Below) : Parser Expr := do
  let lo ← position
  if ← (not <$> Context.elements <$> context) <&&> eat "<" then
    if ← eat "const" then
      expect ">"
      let value ← (g ()).unary
      return .ascribed (← spanFrom lo) .constAssertion value []
    let type ← inType (g ()).type
    expect ">"
    let value ← (g ()).unary
    return .ascribed (← spanFrom lo) .assertion value [type]
  if ← isAny ["++", "--"] then
    bump
    let value ← (g ()).unary
    checkTarget false value
    return .update ⟨lo, value.span.hi⟩ value
  if ← isAny unaryWords then
    let op : UnaryOp := if ← is "delete" then .delete else .other
    bump
    let operandLo ← position
    let (value, isMissing) ← try
        pure (← (g ()).unary, false)
      catch fault => do
        noteFault fault
        pure (.invalid ⟨operandLo, operandLo⟩, true)
    if op = .delete then
      match value with
      | .identifier span _ => noteStrict span .strictDelete
      | _ => pure ()
      match value.unwrapped with
      | .member _ _ _ | .optional _ _ (.member _ _ _) => pure ()
      | value =>
          noteAt value.span
            (if isMissing then .deleteNothing else .deleteOperand)
    return .unary ⟨lo, value.span.hi⟩ op value
  if ← is "await" then return ← awaitExpr g
  let value ← callOrConstruct g
  if value.isArrow then return value
  if ← afterLineBreak then return value
  if ← isAny ["++", "--"] then
    checkTarget false value
    bump
    return .update (← spanFrom value.span.lo) value
  return value

/-! ## Assignments and sequences -/

/-- Keywords that start what a generator yields. -/
def yieldedWords : List String :=
  ["await", "function", "throw", "new", "super", "this", "class", "import",
    "yield", "typeof", "void", "delete"]

/-- Whether a token starts what a generator yields. -/
def startsYielded : Token → Bool
  | .word text => !keywords.contains text || yieldedWords.contains text
  | .mark text =>
      ["!", "(", "\x7b", "[", "`", "$\x7b", "++", "--", "~", "+", "-", "*", "/",
        "/="].contains text
  | .escapedWord _ | .string _ _ | .number _ | .bigInt _ _ | .regexp _ _
  | .elementStart => true
  | _ => false

def yieldExpr (g : Below) : Parser Expr := do
  let lo ← position
  bump
  let context ← context
  if context.inParameters && !context.inFunction then
    fail (← get).previous .yieldParameter
  if (← isSemicolon) || !((← token?).elim true startsYielded) then
    return .yield (← spanFrom lo) .absent
  let _ ← eat "*"
  let value ← (g ()).assignment
  return .yield (← spanFrom lo) value

def plainAssignment (g : Below) : Parser Expr := do
  if (← context).inGenerator && (← is "yield") then return ← yieldExpr g
  let lo ← position
  let mayStart := match ← required with
    | .word text => !keywords.contains text || text = "yield"
    | .escapedWord _ => true
    | .mark "(" => true
    | _ => false
  setArrowFrom (if mayStart then some lo else none)
  let value ← conditional g
  if value.isArrow then return value
  match value with
  | .conditional _ _ _ _ | .binary _ _ _ _ | .unary _ _ _ | .update _ _ =>
      return value
  | value => assignmentTail g lo value

/-- An arrow function with type parameters. -/
def genericArrow (g : Below) : Parser (Option Expr) :=
  within (fun context => { context with expectsColon := false }) do
    attempt do
      if ← isElementStart then forgetTag
      let lo ← position
      let typeParams ← typeParameters g false true
      match ← plainAssignment g with
      | .arrow span _ params result body =>
          return some (.arrow ⟨lo, span.hi⟩ typeParams params result body)
      | _ => failUnexpected "("

/-- An expression without commas. -/
def assignment (g : Below) : Parser Expr := do
  let element ← if (← context).elements && (← isElementStart) then do
      match ← attempt (some <$> plainAssignment g) with
      | some value => pure (some value)
      | none =>
          forgetTag
          pure none
    else pure none
  match element with
  | some value => return value
  | none => pure ()
  let opensAngle := (← is "<") || (← isElementStart)
  let nextNames ← if opensAngle then
      pure (match ← peek? with
        | some (.word _) | some (.escapedWord _) | some (.elementName _) => true
        | _ => false)
    else pure false
  if opensAngle && nextNames then
    match ← genericArrow g with
    | some value => return value
    | none => pure ()
  plainAssignment g

/-- An expression. -/
def expression (g : Below) : Parser Expr := do
  let first ← (g ()).assignment
  if ← is "," then
    let more ← collect do
      if ← eat "," then some <$> (g ()).assignment
      else return none
    return .sequence (← spanFrom first.span.lo) (first :: more)
  return first

end Parser

end Prune.Script
