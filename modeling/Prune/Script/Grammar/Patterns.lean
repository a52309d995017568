import Prune.Script.Grammar.Types

/-!
# Patterns

Patterns in declarations and parameters, the names of members, and the reading
of an expression as the pattern it turns out to be once `=` or `=>` is seen.
-/

namespace Prune.Script

/-- The name of a member. -/
inductive Key where
  | word (span : Span) (name : String)
  | text (span : Span) (value : String)
  | number (span : Span)
  | computed (span : Span) (key : Expr)
  | hidden (span : Span) (name : String)

/-- What is evaluated to get a name. -/
def Key.expr : Key → Expr
  | computed _ key => key
  | _ => .absent

def Key.span : Key → Span
  | word span _ | text span _ | number span | computed span _ | hidden span _ =>
      span

/-- Whether an expression can be assigned to as it stands. -/
def Expr.isSimpleTarget : Expr → Bool
  | identifier _ name => name ≠ "eval" && name ≠ "arguments"
  | parenthesized _ value => value.isSimpleTarget
  | member _ (.member span base key) _ => isSimpleTarget (.member span base key)
  | member _ (.optional _ _ _) _ => false
  | member _ _ _ => true
  | ascribed _ .constAssertion _ _ => false
  | ascribed _ _ value _ => value.isSimpleTarget
  | _ => false

/-- Whether an expression has the form of something that can be assigned to. -/
def Expr.isTarget : Expr → Bool
  | identifier _ _ | member _ _ _ | optional _ _ _ | parenthesized _ _
  | invalid _ => true
  | ascribed _ .constAssertion _ _ => false
  | ascribed _ _ _ _ => true
  | _ => false

/-- Whether a wrong target gets a second complaint. A call gets one only where
`=` assigns. -/
def Expr.isWrongTwice (assigns : Bool) : Expr → Bool
  | literal _ | binary _ _ _ _ => false
  | call _ _ _ _ => assigns
  | parenthesized _ value => value.isWrongTwice assigns
  | _ => true

/-- Which place a pattern is read for. -/
inductive PatternPlace where
  | binding
  | target
  | targetElement
deriving DecidableEq

def PatternPlace.element : PatternPlace → PatternPlace
  | binding => binding
  | _ => targetElement

namespace Parser

/-! ## Names of members -/

def includingIn (parse : Parser α) : Parser α :=
  within (fun context => { context with includeIn := true }) parse

/-- The name of a member. -/
def key (g : Below) : Parser Key :=
  within (fun context => { context with inPropertyName := true }) do
    let lo ← position
    match ← required with
    | .string value _ =>
        bump
        return .text (← spanFrom lo) value
    | .number _ | .bigInt _ _ =>
        bump
        return .number (← spanFrom lo)
    | .word name | .escapedWord name =>
        bump
        return .word (← spanFrom lo) name
    | .mark "[" =>
        bump
        let inner ← position
        let first ← includingIn (g ()).assignment
        let more ← collect do
          if ← eat "," then some <$> includingIn (g ()).assignment
          else return none
        let value ← if more.isEmpty then pure first else do
          let span ← spanFrom inner
          noteAt span .commaInKey
          pure (.sequence span (first :: more))
        expect "]"
        return .computed (← spanFrom lo) value
    | _ =>
        failUnexpected
          "identifier, string literal, numeric literal or [ for the computed key"

/-! ## Binding patterns -/

/-- The parts of a list in brackets or parentheses: a rest part should be the
last, and no comma should follow it. -/
def bindingList (close : String) (afterRest : Complaint)
    (item : Parser (α × Option Span)) :
    Parser (List α) :=
  repeating (fun (before : List α × Option Span) => do
    if ← atEnd <||> is close then return .over before.1.reverse
    match before.2 with
    | some span => noteAt span afterRest
    | none => pure ()
    let (part, rest) ← item
    let after := (part :: before.1, rest <|> before.2)
    if !(← is close) then
      expect ","
      if rest.isSome && (← is close) then note (← get).previous .commaAfterRest
    return .again after) ([], none)

/-- A pattern with an optional default. -/
def bindingElement (g : Below) : Parser Pattern := do
  let lo ← position
  let left ← (g ()).pattern
  if ← eat "=" then
    let value ← includingIn (g ()).assignment
    if (← context).ambient then
      noteAt (← spanFrom lo) .defaultParameterForbidden
    return .withDefault (← spanFrom lo) left value
  return left

def eatAmbientMark : Parser Unit := do
  if (← context).ambient then let _ ← eat "?"

def arrayPattern (g : Below) : Parser Pattern := do
  let lo ← position
  expect "["
  let elements ← repeating (fun (before : List Pattern × Option Span) => do
    if ← atEnd <||> is "]" then return .over before.1.reverse
    match before.2 with
    | some span => noteAt span .restElementNotLast
    | none => pure ()
    if ← eat "," then return .again (.absent :: before.1, before.2)
    let start ← position
    if ← eat "..." then
      let target ← (g ()).pattern
      let span ← spanFrom start
      if !(← is "]") then
        expect ","
        if ← is "]" then note (← get).previous .commaAfterRest
      return .again (.rest span target .absent :: before.1, some span)
    else
      let element ← bindingElement g
      if !(← is "]") then expect ","
      return .again (element :: before.1, before.2)) ([], none)
  expect "]"
  let span ← spanFrom lo
  eatAmbientMark
  return .array span elements .absent

/-- A property of an object pattern. -/
def propertyPattern (g : Below) : Parser Pattern := do
  let lo ← position
  if ← eat "..." then
    let target ← (g ()).pattern
    return .rest (← spanFrom lo) target .absent
  let key ← key g
  if ← eat ":" then
    let target ← bindingElement g
    return .keyed (← spanFrom lo) key.expr target
  match key with
  | .word _ name =>
      if ← eat "=" then
        let value ← includingIn (g ()).assignment
        return .shorthand (← spanFrom lo) name value
      return .shorthand (← spanFrom lo) name .absent
  | _ => failUnexpected "an identifier"

/-- The items between braces, and the position of a comma behind the last
one. -/
def braced (item : Parser α) : Parser (List α × Option (Nat × Nat)) :=
  repeating (fun (before : List α × Option (Nat × Nat)) => do
    if ← eat "\x7d" then return .over (before.1.reverse, before.2)
    let value ← item
    if ← is "\x7d" then return .again (value :: before.1, none)
    expect ","
    let comma := (← get).previous
    if ← is "\x7d" then return .again (value :: before.1, some comma)
    return .again (value :: before.1, none)) ([], none)

/-- Checks where rest properties stand. -/
def checkRests (comma : Option (Nat × Nat)) : List Pattern → Parser Unit
  | [] => return
  | [.rest span target _] => do
      match target with
      | .identifier _ _ _ =>
          match comma with
          | some comma => note comma .commaAfterRest
          | none => return
      | _ => fail (span.lo, span.hi) .dotsWithoutName
  | .rest span _ _ :: properties => do
      noteAt span .restElementNotLast
      checkRests comma properties
  | _ :: properties => checkRests comma properties

def objectPattern (g : Below) : Parser Pattern :=
  within (fun context => { context with expectsColon := false }) do
    let lo ← position
    expect "\x7b"
    let (properties, comma) ← braced (propertyPattern g)
    let span ← spanFrom lo
    checkRests comma properties
    eatAmbientMark
    return .object span properties .absent

/-- A name or a pattern. -/
def pattern (g : Below) (disallowLet : Bool) : Parser Pattern := do
  match ← required with
  | .word _ | .escapedWord _ =>
      let (span, name) ← bindingName disallowLet
      return .identifier span name .absent
  | .mark "[" => arrayPattern g
  | .mark "\x7b" => objectPattern g
  | _ => failUnexpected "yield, an identifier, [ or \x7b"

/-! ## Parameters -/

/-- A pattern with another type. -/
def withType (type : TypeTerm) (hi : Nat) : Pattern → Pattern
  | .identifier span name _ => .identifier ⟨span.lo, hi⟩ name type
  | .array span elements _ => .array ⟨span.lo, hi⟩ elements type
  | .object span properties _ => .object ⟨span.lo, hi⟩ properties type
  | .rest span target _ => .rest ⟨span.lo, hi⟩ target type
  | pattern => pattern

def TypeTerm.isAbsent : TypeTerm → Bool
  | .absent => true
  | _ => false

/-- A parameter that is no rest parameter. -/
def formalParam (g : Below) : Parser Pattern := do
  let lo ← position
  let hasModifier ← eatParameterModifier
  let patternLo ← position
  let bound ← bindingElement g
  let isOptional ← if ← eat "?" then do
      match bound with
      | .identifier _ _ _ | .array _ _ _ | .object _ _ _ => pure true
      | _ =>
          if !(← context).ambient then
            fail (← get).previous .bindingOptional
          pure false
    else pure false
  let type ← annotation? g
  let typed ← if TypeTerm.isAbsent type then pure bound else do
    match bound with
    | .withDefault _ _ _ =>
        noteAt (← spanFrom patternLo) .annotationAfterDefault
        pure bound
    | bound => pure (withType type (← lastPosition) bound)
  let param ← if ← eat "=" then do
      if isOptional then noteAt typed.span .parameterOptionalDefault
      let value ← (g ()).assignment
      if (← context).ambient then
        noteAt (← spanFrom lo) .defaultParameterForbidden
      pure (.withDefault (← spanFrom lo) typed value)
    else pure typed
  if hasModifier then noteAt (← spanFrom lo) .parameterProperty
  return param

/-- An element of a list of elements or arguments. -/
def spreadOrValue (g : Below) : Parser Expr := do
  let lo ← position
  if ← eat "..." then
    let value ← includingIn (g ()).assignment
    return .spread (← spanFrom lo) value
  includingIn (g ()).assignment

/-- Arguments in parentheses. -/
def callArguments (g : Below) : Parser (List Expr) :=
  within (fun context => { context with expectsColon := false }) do
    expect "("
    let arguments ← repeating (fun before => do
      if ← atEnd <||> is ")" then return .over before.reverse
      if !before.isEmpty then
        expect ","
        if ← is ")" then return .over before.reverse
      return .again ((← spreadOrValue g) :: before)) []
    expect ")"
    return arguments

/-- A decorator: an expression behind its sign. Type arguments before its own
arguments are read and forgotten. -/
def decorator (g : Below) : Parser Expr := do
  expect "@"
  let head ← if ← eat "(" then do
      let value ← (g ()).expression
      expect ")"
      pure value
    else do
      let (span, name) ← identifier false
      (g ()).subscripts (.identifier span name) false true
  let isTyped ← is "<"
  if isTyped then let _ ← typeArguments g
  if !isTyped && !(← is "(") then return head
  let arguments ← callArguments g
  return .call (← spanFrom head.span.lo) head arguments []

/-- The decorators that come next. With decorators switched off there are none.
Only those of an item may stand before `export`. -/
def decorators (g : Below) (ofItem : Bool) : Parser (List Expr) := do
  if !(← context).decorators then return []
  let decorators ← collect do
    if ← is "@" then some <$> decorator g
    else return none
  let { inClass, inFunction, .. } ← context
  if ← pure (!decorators.isEmpty && !inClass && !inFunction && !ofItem) <&&>
      is "export" then
    failHere .exportForbidden
  return decorators

def decorated (decorators : List Expr) (param : Pattern) : Pattern :=
  if decorators.isEmpty then param else .decorated decorators param

/-- The parameters up to the closing parenthesis. -/
def formalParams (g : Below) : Parser (List Pattern) :=
  bindingList ")" .restNotLast do
    let decorators ← decorators g false
    let lo ← position
    if ← eat "..." then
      let target ← pattern g false
      let target ← if ← eat "=" then do
          let value ← (g ()).assignment
          noteAt target.span .restWithDefault
          pure (Pattern.withDefault (← spanFrom lo) target value)
        else pure target
      let type ← annotation? g
      let span ← spanFrom lo
      if ← eat "?" then note (← get).previous .restOptional
      return (decorated decorators (.rest span target type), some span)
    else return (decorated decorators (← formalParam g), none)

/-- The word that says who may use a member, if there is one. -/
def accessModifier? : Parser (Option String) := do
  match ← modifier? ["public", "protected", "private", "in", "out"] false with
  | some word =>
      if word = "in" || word = "out" then
        note (← get).previous (.varianceOnTypeParameter word)
        return none
      return some word
  | none => return none

/-- A parameter of a constructor. One with modifiers also declares a
property. -/
structure ConstructorParam where
  pattern : Pattern
  property : Option Span

def constructorParams (g : Below) : Parser (List ConstructorParam) :=
  bindingList ")" .restNotLast do
    let start ← position
    let decorators ← decorators g false
    let lo ← position
    if ← eat "..." then
      let target ← pattern g false
      let type ← annotation? g
      let span ← spanFrom lo
      return (⟨decorated decorators (.rest span target type), none⟩, some span)
    let access ← accessModifier?
    let isOverride := (← modifier? ["override"] false).isSome
    let isReadonly := (← modifier? ["readonly"] false).isSome
    let param ← formalParam g
    let pattern := decorated decorators param
    if !(access.isSome || isOverride || isReadonly) then
      return (⟨pattern, none⟩, none)
    match param with
    | .identifier _ _ _ | .withDefault _ _ _ =>
        return (⟨pattern, some (← spanFrom start)⟩, none)
    | param => fail (param.span.lo, param.span.hi) .parameterPropertyPattern

/-! ## Expressions as patterns -/

/-- Complains about an expression that cannot be assigned to, by `=` or by
another operator. -/
def checkTarget (assigns : Bool) (value : Expr) : Parser Unit := do
  if !value.isSimpleTarget then noteAt value.span .assignmentTarget
  let isStrictName := match value with
    | .identifier _ name => name = "eval" || name = "arguments"
    | _ => false
  if isStrictName then noteStrict value.span .strictArguments
  else if !value.isSimpleTarget && value.isWrongTwice assigns then
    noteAt value.span .assignmentTarget

def invalidPattern (span : Span) : Parser Pattern := do
  noteAt span .notAPattern
  return .invalid span

/-- A target that is no pattern. -/
def targetOf : Expr → Pattern
  | .identifier span name => .identifier span name .absent
  | value => .expression value

def isPatternLike : Expr → Bool
  | .array _ _ | .object _ _ => true
  | _ => false

/-- Elements behind the last written one are dropped from the end of a list. -/
def trailingHoles (elements : List Expr) : Nat :=
  (elements.reverse.takeWhile fun e => match e with
    | .absent => true
    | _ => false).length

def trailingComma? (lo : Nat) : Parser (Option Nat) := do
  return ((← get).trailingCommas.find? fun entry => entry.1 = lo).map Prod.snd

def noteTrailingComma (lo : Nat) : Parser Unit := do
  match ← trailingComma? lo with
  | some comma => note (comma, comma + 1) .commaAfterRest
  | none => return

/-- What must be looked at before an expression becomes a pattern: whether it is
settled already. -/
def settled? (place : PatternPlace) (value : Expr) :
    Parser (Option Pattern) := do
  match value with
  | .invalid span => return some (.invalid span)
  | _ => pure ()
  match place with
  | .binding => return none
  | .target =>
      if isPatternLike value then return none
      checkTarget true value
      return some (targetOf value)
  | .targetElement =>
      match value with
      | .array _ _ | .object _ _ | .assign _ _ _ _ => return none
      | .member _ _ _ | .call _ _ _ _ | .construct _ _ _ _ | .literal _
      | .identifier _ _ | .function _ _ _ | .classExpr _ _ _
      | .parenthesized _ _ | .template _ _ | .ascribed _ .asType _ _ =>
          if !value.isSimpleTarget then noteAt value.span .notSimpleTarget
          return some (targetOf value)
      | _ =>
          noteAt value.span .notAPattern
          return none

mutual

/-- Reads an expression as a pattern. -/
def toPattern (place : PatternPlace) : Expr → Parser Pattern
  | .assign span isPlain target value => do
      match ← settled? place (.assign span isPlain target value) with
      | some pattern => return pattern
      | none =>
          if isPlain then
            return .withDefault span (← toTarget place target) value
          else invalidPattern span
  | .object span members => do
      match ← settled? place (.object span members) with
      | some pattern => return pattern
      | none =>
          return .object span (← toProperties place span.lo members) .absent
  | .array span elements => do
      match ← settled? place (.array span elements) with
      | some pattern => return pattern
      | none =>
          return .array span
            (← toElements place span.lo (trailingHoles elements) elements)
            .absent
  | .identifier span name => do
      match ← settled? place (.identifier span name) with
      | some pattern => return pattern
      | none => return .identifier span name .absent
  | .yield span value => do
      match ← settled? place (.yield span value) with
      | some pattern => return pattern
      | none =>
          if (← context).inGenerator then
            noteAt span .yieldParameter
            return .invalid span
          invalidPattern span
  | value => do
      match ← settled? place value with
      | some pattern => return pattern
      | none => invalidPattern value.span

/-- Reads the target of an assignment as the target of a default. -/
def toTarget (place : PatternPlace) : Pattern → Parser Pattern
  | .expression value => toPattern place value
  | .identifier span name type => do
      match ← settled? place (.identifier span name) with
      | some pattern => return pattern
      | none => return .identifier span name type
  | pattern => return pattern

/-- Reads elements of an array as patterns; `holes` of them at the end are not
written. -/
def toElements (place : PatternPlace) (lo : Nat) (holes : Nat) :
    List Expr → Parser (List Pattern)
  | [] => return []
  | .absent :: rest =>
      if holes = rest.length + 1 then return []
      else do
        return .absent :: (← toElements place lo holes rest)
  | [.spread span value] => do
      match value with
      | .assign _ _ _ _ => noteAt span .restWithDefault
      | _ => pure ()
      noteTrailingComma lo
      return [.rest value.span (← toPattern place.element value) .absent]
  | .spread span _ :: rest => do
      noteAt span .restElementNotLast
      toElements place lo holes rest
  | value :: rest => do
      let first ← toPattern place.element value
      return first :: (← toElements place lo holes rest)

/-- Reads members of an object as patterns. -/
def toProperties (place : PatternPlace) (lo : Nat) :
    List Member → Parser (List Pattern)
  | [] => return []
  | member :: rest => do
      let first ← toProperty place lo rest.isEmpty member
      return first :: (← toProperties place lo rest)

def toProperty (place : PatternPlace) (lo : Nat) (isLast : Bool) :
    Member → Parser Pattern
  | .shorthand span name => return .shorthand span name .absent
  | .keyed span key value =>
      return .keyed span key (← toPattern place.element value)
  | .defaulted span name value => return .shorthand span name value
  | .spread span value => do
      if isLast then noteTrailingComma lo
      else noteAt span .restElementNotLast
      match place with
      | .binding =>
          match value with
          | .identifier nameSpan name =>
              return .rest span (.identifier nameSpan name .absent) .absent
          | _ =>
              noteAt span .dotsWithoutName
              return .rest span (.invalid span) .absent
      | _ =>
          let target ← toPattern place.element value
          match target with
          | .withDefault _ _ _ => noteAt span .restWithDefault
          | _ => pure ()
          return .rest span target .absent
  | member => do fail (member.span.lo, member.span.hi) .notAPattern

end

mutual

/-- Complains about names that strict code keeps from being bound. -/
def checkBound : Pattern → Parser Unit
  | .identifier span name _ => do
      if name = "eval" || name = "arguments" then noteStrict span .strictBinding
  | .array _ elements _ => checkAllBound elements
  | .object _ properties _ => checkAllBound properties
  | .rest _ target _ => checkBound target
  | .withDefault _ target _ => checkBound target
  | .keyed _ _ target => checkBound target
  | .shorthand span name _ => do
      if name = "eval" || name = "arguments" then noteStrict span .strictBinding
  | _ => return

def checkAllBound : List Pattern → Parser Unit
  | [] => return
  | pattern :: rest => do
      checkBound pattern
      checkAllBound rest

end

end Parser

end Prune.Script
