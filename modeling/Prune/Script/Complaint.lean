/-!
# Complaints

Why a source text is no module. A complaint is a cause; its wording is in
`Complaint.message` alone. A fault is a complaint with the range of positions it
is about: some faults are noted while reading goes on, and one may end it.

A complaint may show a token. One that cannot be read has no text of its own and
is shown by its range, which is counted in bytes through all texts that have
been read so far, so the wording depends on how many bytes came before this
text.

A few texts are not complained about: their reading is given up at the first
place of such a kind, whatever else is wrong with them (`Abandonment`).
-/

namespace Prune.Script

/-- What a complaint shows where a token is. -/
inductive Shown where
  | text (text : String)
  /-- A token that cannot be read, by its range in bytes from the start of its
  text. -/
  | unreadable (lo hi : Nat) (cause : String)
  /-- A token in a place where there may be none. -/
  | present (token : Shown)
deriving Repr, DecidableEq, Inhabited

/-- How a token is shown in a text that comes after a number of bytes. Positions
are counted from one. -/
def Shown.words (bytesBefore : Nat) : Shown → String
  | .text plain => plain
  | .unreadable lo hi cause =>
      "<lexing error: Error \x7b error: (" ++
        toString (bytesBefore + lo + 1) ++ ".." ++
        toString (bytesBefore + hi + 1) ++ ", " ++ cause ++ ") \x7d>"
  | .present token => "Some(" ++ token.words bytesBefore ++ ")"

/-- Why a source text is no module. -/
inductive Complaint where
  /-- The text ends too early. -/
  | endOfText
  /-- One certain token had to come. -/
  | expected (wanted : String) (got : Shown)
  /-- One of several things had to come. -/
  | unexpected (got : Shown) (wanted : String)
  | unexpectedChar (shown : String)
  | suggestion (wanted : String)
  | expressionExpected
  | identifierExpected
  | nameExpected
  | importedTypeText
  | semicolonExpected
  | statementEndExpected
  | digitExpected (radix : Nat)
  | exponentExpected
  | looseSeparator
  | nameAfterNumber
  | oldDecimal
  | oldOctal
  | oldOctalLiteral
  | oldComment
  | openComment
  | mergeMarker
  | openText
  | openRegexp
  | openTemplate
  | openElementText
  | unknownFlags
  | repeatedFlag (flag : String)
  | badEscape (wanted : String)
  | lostEscape
  | noUnicodeEscape
  | openUnicodeEscape
  | escapedNameChar
  | escapedKeyword (word : String)
  | strictName (word : String)
  | awaitName
  | strictBinding
  | strictArguments
  | strictDelete
  | strictWith
  | withUnsupported
  | deleteOperand
  /-- What is to be deleted is missing. -/
  | deleteNothing
  | assignmentTarget
  | notAssignable
  | notSimpleTarget
  | restElementNotLast
  | notAPattern
  | notAnExpression
  | unaryPower
  | mixedCoalesce
  | spaceInPrivateName
  | privateNameInInterface
  | superOutside
  | superCall
  | importForbidden
  | superCallOptional
  | optionalConstruction
  | optionalTemplate
  | newTargetOutside
  | spreadInParentheses
  | emptyParentheses
  | strayInitializer
  | awaitStar
  | awaitParameter
  | yieldParameter
  | awaitOutside
  | arrowForbidden
  | arrowLineBreak
  | restNotLast
  | commaAfterRest
  | dotsWithoutName
  | restOptional
  | restWithDefault
  | parameterOptionalDefault
  | bindingOptional
  | requiredAfterOptional
  | parameterProperty
  | parameterPropertyPattern
  | annotationAfterDefault
  | nonNullWith (word : String)
  | constWithoutValue
  | patternWithoutValue
  | emptyVariableList
  | usingName
  | usingWithoutValue
  | usingInForIn
  | asyncInForOf
  | forHeadSeveral
  | forHeadValue
  | forHeadType
  | forInPattern
  | forAwait
  | declarationForbidden
  | importExportInBlock
  | returnOutside
  | breakOutside
  | breakLabel
  | continueOutside
  | jumpAcrossFunction
  | labelTwice (label : String)
  | labelledFunction
  | labelledGenerator
  | throwLineBreak
  | twoDefaults
  | implementationAmbient
  | strictDirective
  | asyncForbidden
  | declareInAmbient
  | defaultParameterForbidden
  | getterParameters
  | setterParameters
  | setterRest
  | asyncConstructor
  | generatorConstructor
  | accessorConstructor
  | constructorTwice
  | privateConstructor
  | privateAccess
  | constructorResult
  | readonlyAccessor
  | fieldConstructor
  | constructorTypeParameters
  | constructorModifier (word : String)
  | readonlyMethod
  | abstractOutside
  | abstractForbidden
  | abstractBody
  | abstractValue
  | overrideOutside
  | modifierForbidden
  | modifierOrder (first second : String)
  | modifierTwice (word : String)
  | modifierConflict (first second : String)
  | modifierPrivate (word : String)
  | modifierOnClassElement
  | modifierOnTypeParameter (word : String)
  | varianceOnTypeParameter (word : String)
  | constOnTypeParameter (word : String)
  | memberOptional
  | argumentsInField
  | heritageForm
  | extendsTwice
  | extendsAfterImplements
  | extendsSeveral
  | implementsTwice
  | className
  | interfaceName
  | emptyTypeParameters
  | indexParameters
  | computedEnumName
  | numericEnumName
  | commaInKey
  | trailingComma
  | decoratorsOnBothSides
  | importedText (text : String)
  | exportedText
  | exportForbidden
  | typeOnTypeImport
  | typeOnTypeExport
  | exportWithoutSource (word : String)
  | attributeValue
  | emptyAttribute
  | openFragment
  | openElement (name : String)
deriving Repr, DecidableEq, Inhabited

/-- The wording of a complaint about a text that comes after a number of
bytes. -/
def Complaint.message (bytesBefore : Nat) : Complaint → String
  | endOfText => "Unexpected eof"
  | expected wanted got =>
      "Expected '" ++ wanted ++ "', got '" ++ got.words bytesBefore ++ "'"
  | unexpected got wanted =>
      "Unexpected token `" ++ got.words bytesBefore ++ "`. Expected " ++ wanted
  | unexpectedChar shown => "Unexpected character " ++ shown
  | suggestion wanted => "Unexpected token. Did you mean " ++ wanted ++ "?"
  | expressionExpected => "Expression expected"
  | identifierExpected => "Expected ident"
  | nameExpected => "Expected an identifier"
  | importedTypeText => "literal in an import type should be string literal"
  | semicolonExpected => "Expected a semicolon"
  | statementEndExpected => "Expected ';', '\x7d' or <eof>"
  | digitExpected radix =>
      if radix = 2 then "Expected a binary digit"
      else if radix = 8 then "Expected an octal digit"
      else if radix = 10 then "Expected a decimal digit"
      else "Expected a hexadecimal digit"
  | exponentExpected => "Expected +, - or decimal digit after e"
  | looseSeparator => "A numeric separator is only allowed between two digits"
  | nameAfterNumber => "Identifier cannot follow number"
  | oldDecimal => "Legacy decimal escape is not permitted in strict mode"
  | oldOctal => "Legacy octal escape is not permitted in strict mode"
  | oldOctalLiteral =>
      "Legacy octal literals are not available when targeting ECMAScript 5 and higher"
  | oldComment => "Legacy comments cannot be used in module code"
  | openComment => "Unterminated block comment"
  | mergeMarker => "Merge conflict marker encountered."
  | openText => "Unterminated string constant"
  | openRegexp => "Unterminated regexp literal"
  | openTemplate => "Unterminated template"
  | openElementText => "Unterminated JSX contents"
  | unknownFlags => "Unknown regular expression flags."
  | repeatedFlag flag => "Duplicated regular expression flag '" ++ flag ++ "'."
  | badEscape wanted => "Bad character escape sequence, expected " ++ wanted
  | lostEscape => "Invalid string escape"
  | noUnicodeEscape => "Expected unicode escape"
  | openUnicodeEscape => "Invalid unicode escape"
  | escapedNameChar => "Invalid character in identifier"
  | escapedKeyword word =>
      "Unexpected escape sequence in reserved word: " ++ word
  | strictName word =>
      "`" ++ word ++ "` cannot be used as an identifier in strict mode"
  | awaitName => "`await` cannot be used as an identifier in an async context"
  | strictBinding =>
      "'eval' and 'arguments' cannot be used as a binding identifier in strict mode"
  | strictArguments => "Invalid use of 'arguments' in strict mode"
  | strictDelete => "'delete' cannot be called on an identifier in strict mode"
  | strictWith => "With statement are not allowed in strict mode"
  | withUnsupported =>
      "The 'with' statement is not supported. All symbols in a 'with' block will have type 'any'."
  | deleteOperand | deleteNothing =>
      "The operand of a delete operator must be a property reference."
  | assignmentTarget =>
      "The left-hand side of an assignment expression must be a variable or a property access."
  | notAssignable => "Invalid assignment target"
  | notSimpleTarget => "Cannot assign to this"
  | restElementNotLast => "Rest element must be final element"
  | notAPattern => "Not a pattern"
  | notAnExpression => "Not an expression"
  | unaryPower => "'**' cannot be applied to unary/await expression."
  | mixedCoalesce =>
      "Nullish coalescing operator(??) requires parens when mixing with logical operators"
  | spaceInPrivateName => "Unexpected space between # and identifier"
  | privateNameInInterface => "private names are not allowed in interface"
  | superOutside => "Invalid access to super"
  | superCall => "Invalid `super()`"
  | importForbidden => "Import is not allowed here"
  | superCallOptional => "Super call cannot be optional"
  | optionalConstruction =>
      "Constructor in/after an optional chaining is not allowed."
  | optionalTemplate =>
      "Tagged template literal is not allowed in optional chain"
  | newTargetOutside =>
      "'new.target' is only allowed in the body of a function declaration, function expression, or class."
  | spreadInParentheses =>
      "Parenthesized expression cannot contain spread operator"
  | emptyParentheses => "Parenthesized expression cannot be empty"
  | strayInitializer => "assignment property is invalid syntax"
  | awaitStar =>
      "await* has been removed from the async functions proposal. Use Promise.all() instead."
  | awaitParameter =>
      "`await` expressions cannot be used in a parameter initializer."
  | yieldParameter => "'yield' cannot be used as a parameter within generator"
  | awaitOutside => "await isn't allowed in non-async function"
  | arrowForbidden => "An arrow function is not allowed here"
  | arrowLineBreak => "Unexpected line break between arrow head and arrow"
  | restNotLast => "A rest parameter must be last in a parameter list"
  | commaAfterRest => "Trailing comma isn't permitted after a rest element"
  | dotsWithoutName =>
      "`...` must be followed by an identifier in declaration contexts"
  | restOptional => "A rest parameter cannot be optional"
  | restWithDefault => "A rest parameter cannot have an initializer"
  | parameterOptionalDefault =>
      "Parameter cannot have question mark and initializer"
  | bindingOptional =>
      "A binding pattern parameter cannot be optional in an implementation signature."
  | requiredAfterOptional =>
      "A required element cannot follow an optional element."
  | parameterProperty =>
      "A parameter property is only allowed in a constructor implementation"
  | parameterPropertyPattern =>
      "Typescript parameter property must be an identifier or assignment pattern"
  | annotationAfterDefault =>
      "Type annotations must come before default assignments"
  | nonNullWith word =>
      "Typescript non-null assertion operator is not allowed with '" ++
        word ++ "'"
  | constWithoutValue => "'const' declarations must be initialized"
  | patternWithoutValue => "Destructuring bindings require initializers"
  | emptyVariableList => "Variable declaration list cannot be empty"
  | usingName => "Invalid name in using declaration"
  | usingWithoutValue => "Using declaration requires initializer"
  | asyncInForOf =>
      "The left-hand side of a `for...of` statement may not be `async`"
  | usingInForIn => "Using declaration is not allowed in for-in loop"
  | forHeadSeveral => "Expected one variable binding"
  | forHeadValue => "Unexpected initializer in for in/of loop"
  | forHeadType =>
      "The left-hand side of a 'for...of' statement cannot use a type annotation"
  | forInPattern =>
      "The left-hand side of a 'for...in' statement cannot be a destructuring pattern"
  | forAwait => "for await syntax is valid only for for-of statement"
  | declarationForbidden => "Declaration is not allowed"
  | importExportInBlock =>
      "'import', and 'export' cannot be used outside of module code"
  | returnOutside => "Return statement is not allowed here"
  | breakOutside =>
      "A 'break' statement can only be used within an enclosing iteration or switch statement"
  | breakLabel =>
      "A 'break' statement can only jump to a label of an enclosing statement"
  | continueOutside =>
      "A 'continue' statement can only jump to a label of an enclosing iteration statement"
  | jumpAcrossFunction => "Jump target cannot cross function boundary"
  | labelTwice label => "Label " ++ label ++ " is already declared"
  | labelledFunction => "Function cannot be labelled in strict mode"
  | labelledGenerator => "Generator or async function cannot be labelled"
  | throwLineBreak => "LineBreak cannot follow 'throw'"
  | twoDefaults => "A switch block cannot have multiple defaults"
  | implementationAmbient =>
      "An implementation cannot be declared in ambient contexts"
  | strictDirective =>
      "Illegal 'use strict' directive in function with non-simple parameter list."
  | asyncForbidden => "`async` modifier cannot be used here"
  | declareInAmbient =>
      "`declare` modifier not allowed for code already in an ambient context"
  | defaultParameterForbidden =>
      "A parameter initializer is only allowed in a function or constructor implementation"
  | getterParameters => "A `get` accessor cannot have parameters"
  | setterParameters => "A `set` accessor must have exactly one parameter"
  | setterRest => "Rest pattern is not allowed in setter"
  | asyncConstructor => "Constructor can't be an async function"
  | generatorConstructor => "A constructor cannot be generator"
  | accessorConstructor => "Class constructor can't be an accessor."
  | constructorTwice => "A class can only have one constructor"
  | privateConstructor =>
      "Classes can't have a private field named '#constructor'."
  | privateAccess =>
      "An accessibility modifier cannot be used with a private identifier."
  | constructorResult =>
      "Type annotation cannot appear on a constructor declaration."
  | readonlyAccessor => "A getter or a setter cannot be readonly"
  | fieldConstructor =>
      "Classes may not have a non-static field named 'constructor'"
  | constructorTypeParameters =>
      "Type parameters cannot appear on a constructor declaration"
  | constructorModifier word =>
      "'" ++ word ++ "' modifier cannot appear on a constructor declaration"
  | readonlyMethod => "A method cannot be readonly"
  | abstractOutside =>
      "Abstract methods can only appear within an abstract class."
  | abstractForbidden =>
      "`abstract` modifier can only appear on a class or method declaration"
  | abstractBody => "Abstract method cannot have an implementation."
  | abstractValue => "Abstract property cannot have an initializer."
  | overrideOutside =>
      "This member cannot have an 'override' modifier because its containing class does not extend another class."
  | modifierForbidden => "Modifiers cannot appear here"
  | modifierOrder first second =>
      "'" ++ first ++ "' modifier must precede '" ++ second ++ "' modifier."
  | modifierTwice word => "'" ++ word ++ "' modifier already seen."
  | modifierConflict first second =>
      "'" ++ first ++ "' modifier cannot be used with '" ++ second ++
        "' modifier."
  | modifierPrivate word =>
      "'" ++ word ++ "' modifier cannot be used with a private identifier"
  | modifierOnClassElement =>
      "`declare` modifier cannot appear on class elements of this kind"
  | modifierOnTypeParameter word =>
      "'" ++ word ++ "' modifier cannot appear on a type parameter"
  | varianceOnTypeParameter word =>
      "'" ++ word ++
        "' modifier can only appear on a type parameter of a class, interface or type alias"
  | constOnTypeParameter word =>
      "'" ++ word ++
        "' modifier can only appear on a type parameter of a function, method or class"
  | memberOptional => "An object member cannot be declared optional"
  | argumentsInField =>
      "'arguments' is only allowed in functions and class methods"
  | heritageForm =>
      "An interface can only extend an identifier/qualified-name with optional type arguments."
  | extendsTwice => "`extends` clause already seen."
  | extendsAfterImplements =>
      "'extends' clause must precede 'implements' clause."
  | extendsSeveral => "Classes can only extend a single class"
  | implementsTwice => "`implements` clause already seen"
  | className => "Invalid class name"
  | interfaceName => "interface name is invalid"
  | emptyTypeParameters => "Type parameter list cannot be empty"
  | indexParameters => "An index signature must have exactly one parameter"
  | computedEnumName => "Computed property names are not allowed in enums"
  | numericEnumName => "An enum member cannot have a numeric name"
  | commaInKey =>
      "A comma expression is not allowed in a computed property name"
  | trailingComma => "Trailing comma is not allowed"
  | decoratorsOnBothSides =>
      "Decorators may not appear after `export` or `export default` if they also appear before `export`."
  | importedText text =>
      "A string literal cannot be used as an imported binding.\n- Did you mean `import \x7b \"" ++ text ++
        "\" as foo \x7d`?"
  | exportForbidden => "`export` is not allowed here"
  | exportedText =>
      "A string literal cannot be used as an exported binding without `from`."
  | typeOnTypeImport =>
      "The 'type' modifier cannot be used on a named import when 'import type' is used on its import statement."
  | typeOnTypeExport =>
      "The 'type' modifier cannot be used on a named export when 'export type' is used on its export statement."
  | exportWithoutSource word =>
      "`" ++ word ++ "` cannot be used without `from` clause"
  | attributeValue =>
      "JSX value should be either an expression or a quoted JSX text"
  | emptyAttribute =>
      "JSX attributes must only be assigned a non-empty expression"
  | openFragment => "Expected corresponding JSX closing tag for <>"
  | openElement name =>
      "Expected corresponding JSX closing tag for <" ++ name ++ ">"

/-- The short form of a complaint about a token that cannot be read, in which
another complaint shows such a token. -/
def Complaint.label : Complaint → String
  | unexpectedChar shown => "UnexpectedChar \x7b c: " ++ shown ++ " \x7d"
  | badEscape wanted =>
      "BadCharacterEscapeSequence \x7b expected: \"" ++ wanted ++ "\" \x7d"
  | lostEscape => "InvalidStrEscape"
  | noUnicodeEscape => "ExpectedUnicodeEscape"
  | openUnicodeEscape => "InvalidUnicodeEscape"
  | escapedKeyword word =>
      "EscapeInReservedWord \x7b word: \"" ++ word ++ "\" \x7d"
  | digitExpected radix =>
      "ExpectedDigit \x7b radix: " ++ toString radix ++ " \x7d"
  | exponentExpected => "NumLitTerminatedWithExp"
  | nameAfterNumber => "IdentAfterNum"
  | openText => "UnterminatedStrLit"
  | openTemplate => "UnterminatedTpl"
  | openRegexp => "UnterminatedRegExp"
  | openElementText => "UnterminatedJSXContents"
  | mergeMarker => "TS1185"
  | complaint => complaint.message 0

/-- A complaint and the range it is about. -/
structure Fault where
  lo : Nat
  hi : Nat
  complaint : Complaint
deriving Repr, DecidableEq, Inhabited

/-- How a complaint shows a token that cannot be read: by its range and the
short form of what is wrong with it. -/
def Fault.shownIn (text : List Char) (fault : Fault) : Shown :=
  let bytesTo (position : Nat) : Nat :=
    (String.ofList (text.take position)).utf8ByteSize
  .unreadable (bytesTo fault.lo) (bytesTo fault.hi) fault.complaint.label

/-- Why the reading of a text is given up. -/
inductive Abandonment where
  /-- A member of an enumeration at the end of the text. -/
  | endInEnum
  /-- A member of an element name that has a namespace. -/
  | memberOfPrefixed
  /-- A character reference without digits. -/
  | emptyReference
  /-- A character reference to no character. -/
  | lostReference
deriving Repr, DecidableEq, Inhabited

def Abandonment.message : Abandonment → String
  | endInEnum =>
      "internal error: entered unreachable code: Current token is `None`. Parser should not call bump() without knowing current token"
  | memberOfPrefixed => "not implemented: JSXNamespacedName -> JSXObject"
  | emptyReference =>
      "failed to parse string as number: ParseIntError \x7b kind: Empty \x7d"
  | lostReference => "failed to parse number as char"

end Prune.Script
