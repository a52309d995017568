import Prune.Script.Grammar.Expressions

/-!
# Classes

The head of a class and its members. Most words that may stand before a member
may also be its name, which is decided by what follows them.
-/

namespace Prune.Script.Parser

/-- What has been said about a member before its name. -/
structure MemberModifiers where
  lo : Nat
  decorators : List Expr
  access : Option String
  declared : Option Span
  isStatic : Bool
  staticSpan : Option Span
  isAccessor : Bool
  isAbstract : Bool
  isOverride : Bool
  readonly : Option Span
  last : Option Span

def isConstructorKey : Key → Bool
  | .word _ name => name = "constructor"
  | .text _ value => value = "constructor"
  | _ => false

/-- Whether a method goes on here. -/
def startsMethod : Parser Bool := do
  match ← token? with
  | some (.mark "(") | some (.mark "<") | some .elementStart => return true
  | _ => return false

/-- Whether a field goes on here; with `mayEnd` a line end also ends one. -/
def startsField (mayEnd : Bool) : Parser Bool := do
  if ← isAny ["!", ":", "=", "\x7d"] then return true
  if mayEnd then isSemicolon else is ";"

/-- The name of a member of a class. -/
def memberKey (g : Below) : Parser Key := do
  if ← is "#" then
    let (span, name) ← privateName
    if name = "constructor" then noteAt span .privateConstructor
    return .hidden span name
  key g

def isHidden : Key → Bool
  | .hidden _ _ => true
  | _ => false

/-- A method or an accessor from its type parameters on. -/
def method (g : Below) (modifiers : MemberModifiers) (key : Key)
    (kind : FunctionKind) (params : Parser (List Pattern)) : Parser Member := do
  let function ← asMethod (functionTail g modifiers.decorators kind params)
  let span ← spanFrom modifiers.lo
  if isHidden key then
    if modifiers.access.isSome then noteAt span .privateAccess
  else if modifiers.isAbstract && !function.body.isAbsent then
    noteAt span .abstractBody
  return .method span key.expr function

/-- A field from behind its name on. -/
def field (g : Below) (modifiers : MemberModifiers) (key : Key)
    (isOptional : Bool) :
    Parser Member := do
  if isConstructorKey key then fail (key.span.lo, key.span.hi) .fieldConstructor
  if isHidden key then
    if modifiers.declared.isSome then
      noteAt key.span (.modifierPrivate "declare")
    if modifiers.isAbstract then noteAt key.span (.modifierPrivate "abstract")
  if !isOptional then let _ ← eat "!"
  let type ← annotation? g
  within
    (fun context => { context with includeIn := true, inClassField := true }) do
    let hasValue ← eat "="
    let value ← if hasValue then (g ()).assignment else pure .absent
    if !(← eatSemicolon) then note (← currentSpan) .semicolonExpected
    let span ← spanFrom modifiers.lo
    if !modifiers.isAccessor then
      if isHidden key then
        if modifiers.access.isSome then noteAt span .privateAccess
      else if modifiers.isAbstract && hasValue then noteAt span .abstractValue
    return .field span key.expr value type modifiers.decorators

/-- A word that turns out to be the name of a member. -/
def memberNamed (g : Below) (modifiers : MemberModifiers) (mayEnd : Bool)
    (name : String) :
    Parser (Option Member) := do
  let (lo, hi) := (← get).previous
  let key := Key.word ⟨lo, hi⟩ name
  if ← startsMethod then
    return some (← method g modifiers key .plain (formalParams g))
  if (← startsField mayEnd) || (← is "?") then
    let isOptional ← eat "?"
    return some (← field g modifiers key isOptional)
  return none

/-- The words before the name of a member. -/
def memberModifiers (start : MemberModifiers) : Parser MemberModifiers :=
  repeating (fun (modifiers : MemberModifiers) => do
    match ← modifier? ["abstract", "readonly", "override", "static"] true with
    | none => return .over modifiers
    | some word =>
        let previous := (← get).previous
        let span : Span := ⟨previous.1, previous.2⟩
        let modifiers := { modifiers with last := some span }
        let hasSuperClass := (← context).hasSuperClass
        if word = "abstract" then
          if modifiers.isAbstract then note previous (.modifierTwice "abstract")
          else if modifiers.isOverride then
            note previous (.modifierOrder "abstract" "override")
          return .again { modifiers with isAbstract := true }
        else if word = "override" then
          if modifiers.isOverride then note previous (.modifierTwice "override")
          else if modifiers.readonly.isSome then
            note previous (.modifierOrder "override" "readonly")
          else if modifiers.declared.isSome then
            note previous (.modifierConflict "override" "declare")
          else if !hasSuperClass then note previous .overrideOutside
          return .again { modifiers with isOverride := true }
        else if word = "readonly" then
          if modifiers.readonly.isSome then
            note previous (.modifierTwice "readonly")
            return .again modifiers
          return .again { modifiers with readonly := some span }
        else
          if modifiers.isOverride then
            note previous (.modifierOrder "static" "override")
          return .again
            { modifiers with isStatic := true, staticSpan := some span }) start

/-- A constructor from its type parameters on. -/
def constructorMember (g : Below) (modifiers : MemberModifiers) (key : Key) :
    Parser Member := do
  if modifiers.isOverride then
    noteAt (← spanFrom modifiers.lo) (.constructorModifier "override")
  if ← is "<" then
    let lo ← position
    if ← nextIs ">" then
      bump
      let second ← position
      bump
      noteAt (← spanFrom lo) .emptyTypeParameters
      noteAt (← spanFrom second) .constructorTypeParameters
    else
      for span in ← typeParameterSpans g do
        noteAt span .constructorTypeParameters
  expect "("
  let params ← constructorParams g
  expect ")"
  if ← is ":" then
    let lo ← inType do
      bump
      let lo ← position
      let _ ← (g ()).type
      return lo
    noteAt (← spanFrom lo) .constructorResult
  let body ← functionBody g .plain
    (params.all fun param => param.property.isSome ||
      isPlainParam param.pattern)
  if body.isAbsent then
    for span in params.filterMap ConstructorParam.property do
      noteAt span .parameterProperty
    for span in params.filterMap fun param => defaultSpan? param.pattern do
      noteAt span .defaultParameterForbidden
  match modifiers.staticSpan with
  | some span => noteAt span (.constructorModifier "static")
  | none => pure ()
  match modifiers.last with
  | some span => if modifiers.isAbstract then noteAt span .abstractForbidden
  | none => pure ()
  return .constructor (← spanFrom modifiers.lo) key.expr
    (params.map ConstructorParam.pattern) body

def staticBlock (g : Below) (lo : Nat) : Parser Member := do
  let body ← within
    (fun context =>
      { context with inStaticBlock := true, inClassField := true }) (block g)
  return .staticBlock (← spanFrom lo) body

/-- The words `get` and `set` in front of another name. -/
def isAccessorWord : Key → Bool
  | .word _ name => name = "get" || name = "set"
  | _ => false

/-- Whether a member with a name is left to the classes that extend this one. -/
def isLeftOpen (modifiers : MemberModifiers) (key : Key) : Bool :=
  modifiers.isAbstract && !modifiers.isAccessor && !isHidden key

/-- Complains about the modifiers of a static block; it can have none. -/
def noteBlockModifiers (spans : List (Option Span)) (access : Option String) :
    Parser Unit := do
  for span in spans.filterMap id do
    noteAt span .modifierForbidden
  if access.isSome then note (← currentSpan) .modifierForbidden

/-- A member whose modifiers have been read, and whether it is abstract. -/
def memberTail (g : Below) (modifiers : MemberModifiers) :
    Parser (Member × Bool) := do
  let lo := modifiers.lo
  let isAccessor ← if modifiers.isAccessor then pure true
    else if modifiers.readonly.isSome then pure false
    else eat "accessor"
  let modifiers := { modifiers with isAccessor }
  if modifiers.isStatic && (← is "\x7b") then
    noteBlockModifiers [modifiers.declared] modifiers.access
    return (← staticBlock g lo, false)
  if ← is "static" <&&> nextIs "\x7b" then
    noteBlockModifiers [modifiers.last, modifiers.staticSpan] none
    bump
    return (← staticBlock g lo, false)
  if !modifiers.isAbstract && !modifiers.isOverride &&
      modifiers.access.isNone then
    match ← indexSignature? g with
    | some (params, type) => return (.index (← spanFrom lo) params type, false)
    | none => pure ()
  let methodOf (key : Key) (kind : FunctionKind)
      (params : Parser (List Pattern)) :
      Parser (Member × Bool) := do
    return (← method g modifiers key kind params, isLeftOpen modifiers key)
  let refuseReadonly : Parser Unit := do
    if modifiers.readonly.isSome then fail (lo, ← lastPosition) .readonlyMethod
  if ← eat "*" then
    let key ← memberKey g
    if modifiers.readonly.isSome then noteAt (← spanFrom lo) .readonlyMethod
    if isConstructorKey key then noteAt (← spanFrom lo) .generatorConstructor
    return ← methodOf key ⟨false, true⟩ (formalParams g)
  let key ← match modifiers.readonly, ← isAny ["!", ":"] with
    | some span, true => pure (Key.word span "readonly")
    | _, _ => memberKey g
  let isOptional ← eat "?"
  if ← startsMethod then
    match modifiers.declared with
    | some span => noteAt span .modifierOnClassElement
    | none => pure ()
    refuseReadonly
    if isConstructorKey key then
      return (← constructorMember g modifiers key, false)
    return ← methodOf key .plain (formalParams g)
  let generatorFollows := (← afterLineBreak) && (← is "*")
  let isAccessor :=
    isAccessorWord key && !(← startsField false) && !generatorFollows
  if !isAccessor && (← startsField true) then
    return (← field g modifiers key isOptional, isLeftOpen modifiers key)
  match key with
  | .word _ "async" =>
      if !(← afterLineBreak) then
        if (← modifier? ["override"] false).isSome then
          note (← get).previous (.modifierOrder "override" "async")
        let isGenerator ← eat "*"
        let key ← memberKey g
        if isConstructorKey key then
          fail (key.span.lo, key.span.hi) .asyncConstructor
        refuseReadonly
        if !isOptional then let _ ← eat "?"
        return ← methodOf key ⟨true, isGenerator⟩ (formalParams g)
  | .word span name =>
      if isAccessor then
        let key ← memberKey g
        if modifiers.readonly.isSome then noteAt span .readonlyAccessor
        if isConstructorKey key then noteAt span .accessorConstructor
        let params := if name = "get" then getterParams g span
          else setterParams g span false
        return ← methodOf key .plain params
  | _ => pure ()
  failUnexpected "* for generator, private key, identifier or async"

/-- A member of a class, and whether it is abstract. -/
def classMember (g : Below) : Parser (Member × Bool) := do
  let lo ← position
  let decorators ← decorators g false
  let none_ : MemberModifiers :=
    ⟨lo, decorators, none, none, false, none, false, false, false, none, none⟩
  let declaredEarly ← eat "declare"
  let access ← accessModifier?
  let modifiers := { none_ with access }
  let isDeclared ← if declaredEarly then pure true else eat "declare"
  let declaredSpan := (← get).previous
  if isDeclared then
    match ← memberNamed g modifiers true "declare" with
    | some member => return (member, false)
    | none => pure ()
  let modifiers := if isDeclared then
      { modifiers with declared := some ⟨lo, declaredSpan.2⟩ }
    else modifiers
  let isStatic ← eat "static"
  let staticSpan := (← get).previous
  if isStatic && !(← is "\x7b") then
    match ← memberNamed g modifiers false "static" with
    | some member => return (member, false)
    | none => pure ()
  let modifiers := if isStatic then
      { modifiers with
        isStatic, staticSpan := some ⟨staticSpan.1, staticSpan.2⟩ }
    else modifiers
  let isAccessor ← eat "accessor"
  if isAccessor then
    match ← memberNamed g modifiers true "accessor" with
    | some member => return (member, false)
    | none => pure ()
  memberTail g (← memberModifiers { modifiers with isAccessor })

def hasBody : Member → Bool
  | .constructor _ _ _ body => !body.isAbsent
  | _ => false

/-- The members of a class that have been read, the latest first. -/
structure ClassBody where
  members : List Member
  abstractSpans : List Span
  hasConstructor : Bool

/-- The members of a class, up to the closing brace. -/
def classMembers (g : Below) : Parser ClassBody :=
  repeating (fun (before : ClassBody) => do
    if ← atEnd <||> is "\x7d" then return .over before
    if ← eat ";" then
      let (lo, hi) := (← get).previous
      return .again { before with members := .empty ⟨lo, hi⟩ :: before.members }
    let (member, isAbstract) ← classMember g
    let isConstructor := hasBody member && !(← context).ambient
    if isConstructor && before.hasConstructor then
      noteAt member.span .constructorTwice
    return .again
      { members := member :: before.members
        abstractSpans :=
          if isAbstract then member.span :: before.abstractSpans
          else before.abstractSpans
        hasConstructor :=
          before.hasConstructor || isConstructor }) ⟨[], [], false⟩

/-- What a class extends, with the type arguments of it. -/
def superClass (g : Below) : Parser (Expr × List TypeTerm) := do
  let value ← (g ()).callOrConstruct
  match value with
  | .ascribed _ .instantiation value types => return (value, types)
  | value =>
      if ← is "<" then return (value, ← typeArguments g)
      return (value, [])

/-- A class from `class` on: its name, if it has one, and the rest. -/
def classTail (g : Below) (decorators : List Expr)
    (needsName isAbstract : Bool) :
    Parser (Option String × Class) :=
  within (fun context => { context with inClass := true }) do
    expect "class"
    let name ← if needsName then some <$> bindingName true
        else bindingName? true
    match name with
    | some (span, name) =>
        if builtinTypes.contains name then noteAt span .className
    | none => pure ()
    let typeParams ← typeParameters? g true true
    let (extended, arguments) ← if ← eat "extends" then do
        let extended ← superClass g
        if ← eat "," then
          for value in ← heritageList g do
            noteAt value.span .extendsSeveral
        pure extended
      else pure (.absent, [])
    if ← eat "extends" then
      note (← get).previous .extendsTwice
      let _ ← superClass g
    let implemented ← if ← eat "implements" then heritageList g else pure []
    if ← eat "implements" then
      note (← get).previous .implementsTwice
      let _ ← heritageList g
    let (extended, arguments) ← if ← eat "extends" then do
        note (← get).previous .extendsAfterImplements
        let late ← superClass g
        match extended with
        | .absent => pure late
        | extended => pure (extended, arguments)
      else pure (extended, arguments)
    expect "\x7b"
    let hasSuperClass := match extended with
      | .absent => false
      | _ => true
    let body ← within (fun context => { context with hasSuperClass })
        (classMembers g)
    if ← atEnd then
      let got ← shown
      note (← currentSpan) (.expected "\x7d" got)
    else expect "\x7d"
    if !isAbstract then
      body.abstractSpans.reverse.forM fun span => noteAt span .abstractOutside
    return (name.map Prod.snd,
      .mk typeParams decorators extended arguments implemented
        body.members.reverse)

def classExpr (g : Below) (decorators : List Expr) (lo : Nat) :
    Parser Expr := do
  let (name, value) ← classTail g decorators false false
  return .classExpr (← spanFrom lo) name value

/-- A class that is a declaration. -/
def classDeclaration (g : Below) (decorators : List Expr) (isAbstract : Bool) :
    Parser Stmt := do
  let (name, value) ← classTail g decorators true isAbstract
  return .classDecl (name.getD "") value false

/-- A class that is exported by default, from `class` on. -/
def defaultClass (g : Below) (decorators : List Expr) (lo : Nat)
    (isAbstract : Bool) :
    Parser Expr := do
  let (name, value) ← classTail g decorators false isAbstract
  return .classExpr (← spanFrom lo) name value

end Prune.Script.Parser
