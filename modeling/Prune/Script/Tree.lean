/-!
# Syntax trees

The tree of a source file, as far as the analyses look at it. What no analysis
can tell apart is one constructor: all literals are `literal`, and all types
that neither bind nor name anything are `plain`. Wherever two trees of the
language are walked differently they differ here as well: a function from an
arrow function, a conditional type from other compound types, the getter of an
object from a method.

Few kinds of tree contain each other: types, expressions, patterns, members of
objects and classes, and statements, with functions, classes and bodies between
them. Each kind has a tree that stands for nothing written, so that an
initialiser, an annotation or a handler that may be left out is a tree like any
other. A key that is a plain name is such an absent expression; only a computed
key has something in it to be looked at. Parameters with their decorators and
declared variables with their initialisers are patterns; imports, exports and
declarations are statements, since a namespace holds all of them.

A span is a range of positions in the text, counted in characters. Expressions
carry theirs because comments and complaints are attached to positions.
-/

namespace Prune.Script

/-- A range of positions in a source text. -/
structure Span where
  lo : Nat
  hi : Nat
deriving Repr, DecidableEq, Inhabited

/-- How a unary operator treats its operand: `delete` changes what it is applied
to. -/
inductive UnaryOp where
  | delete
  | other
deriving Repr, DecidableEq, Inhabited

/-- The binary operators that the rules for mixing them tell apart. -/
inductive BinaryOp where
  | coalesce
  | conjunction
  | disjunction
  | power
  | other
deriving Repr, DecidableEq, Inhabited

/-- What a type is written for next to an expression. -/
inductive Ascription where
  | asType
  | satisfiesType
  | assertion
  | constAssertion
  | nonNull
  | instantiation
deriving Repr, DecidableEq, Inhabited

/-- The keyword of a variable declaration. -/
inductive VariableKind where
  | var
  | block
deriving Repr, DecidableEq, Inhabited

/-- The name of an element: a plain name, the root of a dotted name, or a name
with a prefix. -/
inductive Tag where
  | plain (name : String)
  | dotted (root : String)
  | prefixed
deriving Repr, DecidableEq, Inhabited

/-- A name in an export clause: an identifier or a string. -/
inductive ExportName where
  | identifier (name : String)
  | text (value : String)
deriving Repr, DecidableEq, Inhabited

def ExportName.value : ExportName → String
  | .identifier name => name
  | .text value => value

/-- A binding of an import clause. -/
inductive ImportSpecifier where
  | named (localName : String) (imported : Option ExportName)
  | default (span : Span) (localName : String)
  | everything (span : Span) (localName : String)
deriving Repr, Inhabited

/-- An entry of an export clause. -/
inductive ExportSpecifier where
  | named (inner : ExportName) (exported : Option ExportName)
  | default (name : String)
  | everything (name : ExportName)
deriving Repr, Inhabited

mutual

/-- A type, a type parameter or a member of an object type. -/
inductive TypeTerm where
  /-- No type is written. -/
  | absent
  /-- A keyword, `this` or a literal. -/
  | plain
  /-- A type name, by the first identifier of its path. -/
  | named (root : String) (arguments : List TypeTerm)
  /-- The type of a variable: `typeof x.y`. -/
  | query (root : String) (arguments : List TypeTerm)
  /-- Any type former that neither binds nor names: unions, arrays, operators,
  templates, tuples. -/
  | compound (parts : List TypeTerm)
  | conditional (check extended yes no : TypeTerm)
  | infer (param : TypeTerm)
  /-- An element of a tuple with a label. -/
  | labelled (label : String) (type : TypeTerm)
  /-- The type of a function or a constructor, also as a member of an object
  type. -/
  | signature (typeParams : List TypeTerm) (params : List Pattern)
      (result : TypeTerm)
  | object (members : List TypeTerm)
  | mapped (param : TypeTerm) (renamed : TypeTerm) (value : TypeTerm)
  /-- A type predicate; without a subject it is about `this`. -/
  | predicate (subject : Option String) (type : TypeTerm)
  /-- A type parameter with its constraint and its default. -/
  | parameter (name : String) (constraint : TypeTerm) (default : TypeTerm)
  /-- A property or a getter of an object type. -/
  | property (key : Expr) (type : TypeTerm)
  | setter (key : Expr) (param : Pattern)
  | method (key : Expr) (typeParams : List TypeTerm) (params : List Pattern)
      (result : TypeTerm)
  | index (params : List Pattern) (type : TypeTerm)

/-- An expression. `spread`, `superKeyword` and `importKeyword` only stand where
the grammar has a place for them: in lists of elements and arguments, and as
what is called or accessed. -/
inductive Expr where
  /-- Nothing is written. -/
  | absent
  | identifier (span : Span) (name : String)
  | literal (span : Span)
  | this (span : Span)
  | superKeyword (span : Span)
  | importKeyword (span : Span)
  | spread (span : Span) (value : Expr)
  | array (span : Span) (elements : List Expr)
  | object (span : Span) (members : List Member)
  | function (span : Span) (name : Option String) (function : Function)
  | arrow (span : Span) (typeParams : List TypeTerm) (params : List Pattern)
      (result : TypeTerm) (body : Body)
  | classExpr (span : Span) (name : Option String) (value : Class)
  | unary (span : Span) (op : UnaryOp) (operand : Expr)
  | update (span : Span) (operand : Expr)
  | binary (span : Span) (op : BinaryOp) (left right : Expr)
  | assign (span : Span) (isPlain : Bool) (target : Pattern) (value : Expr)
  | conditional (span : Span) (test yes no : Expr)
  | member (span : Span) (object : Expr) (key : Expr)
  | call (span : Span) (callee : Expr) (arguments : List Expr)
      (typeArguments : List TypeTerm)
  | construct (span : Span) (callee : Expr) (arguments : List Expr)
      (typeArguments : List TypeTerm)
  /-- A member access or call with `?.`, or one further along such a chain,
  which is no link with a question mark of its own. -/
  | optional (span : Span) (isLink : Bool) (base : Expr)
  | sequence (span : Span) (parts : List Expr)
  | template (span : Span) (parts : List Expr)
  | tagged (span : Span) (tag : Expr) (typeArguments : List TypeTerm)
      (parts : List Expr)
  | yield (span : Span) (value : Expr)
  | await (span : Span) (value : Expr)
  /-- `new.target` and `import.meta`. -/
  | metaProperty (span : Span)
  | parenthesized (span : Span) (value : Expr)
  | privateName (span : Span)
  | ascribed (span : Span) (how : Ascription) (value : Expr)
      (types : List TypeTerm)
  /-- An element; a fragment has no tag. -/
  | element (span : Span) (tag : Option Tag) (attributes : List Expr)
      (typeArguments : List TypeTerm) (children : List Expr) (closed : Bool)
  | invalid (span : Span)

/-- A pattern, in a declaration or as the target of an assignment. -/
inductive Pattern where
  /-- Nothing is written: an element that is skipped. -/
  | absent
  | identifier (span : Span) (name : String) (type : TypeTerm)
  | array (span : Span) (elements : List Pattern) (type : TypeTerm)
  | object (span : Span) (properties : List Pattern) (type : TypeTerm)
  | rest (span : Span) (target : Pattern) (type : TypeTerm)
  | withDefault (span : Span) (target : Pattern) (value : Expr)
  /-- A property of an object pattern with its key. -/
  | keyed (span : Span) (key : Expr) (target : Pattern)
  /-- A property of an object pattern that is its own target. -/
  | shorthand (span : Span) (name : String) (default : Expr)
  /-- A parameter with its decorators. -/
  | decorated (decorators : List Expr) (param : Pattern)
  | expression (value : Expr)
  | invalid (span : Span)

/-- A member of an object literal or of a class. -/
inductive Member where
  | shorthand (span : Span) (name : String)
  | keyed (span : Span) (key : Expr) (value : Expr)
  /-- A name with a default, which only makes sense in a pattern. -/
  | defaulted (span : Span) (name : String) (value : Expr)
  | spread (span : Span) (value : Expr)
  /-- A getter of an object literal. -/
  | getter (span : Span) (key : Expr) (type : TypeTerm) (body : List Stmt)
  /-- A setter of an object literal. -/
  | setter (span : Span) (key : Expr) (param : Pattern) (body : List Stmt)
  /-- A method, or an accessor of a class. -/
  | method (span : Span) (key : Expr) (function : Function)
  | constructor (span : Span) (key : Expr) (params : List Pattern) (body : Body)
  | field (span : Span) (key : Expr) (value : Expr) (type : TypeTerm)
      (decorators : List Expr)
  | index (span : Span) (params : List Pattern) (type : TypeTerm)
  | staticBlock (span : Span) (body : List Stmt)
  | empty (span : Span)

/-- A function other than an arrow function. -/
inductive Function where
  | mk (typeParams : List TypeTerm) (decorators : List Expr)
      (params : List Pattern) (result : TypeTerm) (body : Body)

/-- A class without its name. -/
inductive Class where
  | mk (typeParams : List TypeTerm) (decorators : List Expr) (extended : Expr)
      (extendedArguments : List TypeTerm) (implemented : List Expr)
      (members : List Member)

/-- The body of a function; one without a body only declares. -/
inductive Body where
  | absent
  | block (body : List Stmt)
  | value (value : Expr)

/-- A statement, a declaration, or an import or export. The last flag of a
declaration says whether it is only declared, with `declare`. -/
inductive Stmt where
  /-- Nothing is written. -/
  | absent
  | block (body : List Stmt)
  | empty
  | debugger
  | withObject (object : Expr) (body : Stmt)
  | ret (value : Expr)
  | labelled (label : String) (body : Stmt)
  | jump (label : Option String)
  | ifElse (test : Expr) (yes no : Stmt)
  | switch (subject : Expr) (cases : List Stmt)
  /-- A case of a switch; the default case has no test. -/
  | case (test : Expr) (body : List Stmt)
  | throw (value : Expr)
  | tryCatch (body : List Stmt) (handler : Stmt) (finalizer : Stmt)
  | handler (param : Pattern) (body : List Stmt)
  | while (test : Expr) (body : Stmt)
  | doWhile (test : Expr) (body : Stmt)
  | forLoop (start : Stmt) (test : Expr) (step : Expr) (body : Stmt)
  /-- A loop over a collection; its head declares a variable or is a
  `target`. -/
  | forEach (head : Stmt) (subject : Expr) (body : Stmt)
  | target (target : Pattern)
  | expression (value : Expr)
  | function (name : String) (function : Function) (ambient : Bool)
  | classDecl (name : String) (value : Class) (ambient : Bool)
  | variable (span : Span) (kind : VariableKind) (declarators : List Pattern)
      (ambient : Bool)
  | using (span : Span) (declarators : List Pattern)
  | interface (name : String) (typeParams : List TypeTerm)
      (extended : List Expr) (members : List TypeTerm) (ambient : Bool)
  | typeAlias (name : String) (typeParams : List TypeTerm) (type : TypeTerm)
      (ambient : Bool)
  | enum (name : String) (memberNames : List String) (values : List Expr)
      (ambient : Bool)
  /-- A namespace with an identifier or a string for its name. -/
  | namespace (span : Span) (name : ExportName) (body : List Stmt)
      (ambient : Bool)
  | importNames (span : Span) (specifiers : List ImportSpecifier)
      (source : String) (attributes : Expr)
  | exportNames (span : Span) (specifiers : List ExportSpecifier)
      (source : Option String) (attributes : Expr)
  | exportDecl (span : Span) (declaration : Stmt)
  /-- A function or a class, with or without a name, that is the default
  export. -/
  | exportDefaultDecl (span : Span) (value : Expr)
  | exportDefaultInterface (span : Span) (declaration : Stmt)
  | exportDefaultExpr (span : Span) (value : Expr)
  | exportAll (span : Span) (attributes : Expr)
  /-- `import x = a.b`; without a root, an import by a call of `require`. -/
  | importEquals (span : Span) (name : String) (root : Option String)
  | exportAssignment (span : Span) (value : Expr)
  | exportNamespace (span : Span) (name : String)

end

instance : Inhabited Expr := ⟨.absent⟩
instance : Inhabited Pattern := ⟨.absent⟩
instance : Inhabited Stmt := ⟨.absent⟩
instance : Inhabited TypeTerm := ⟨.absent⟩

/-- An item at the top level of a file, and its range. Decorators of a class may
stand before the `export` that the range of an item starts with. -/
structure TopItem where
  span : Span
  decoratorsFrom : Nat
  stmt : Stmt
deriving Inhabited

/-- The range of an expression; what is not written is nowhere. -/
def Expr.span : Expr → Span
  | identifier span _ | literal span | this span | superKeyword span
  | importKeyword span | spread span _ | array span _ | object span _
  | function span _ _ | arrow span _ _ _ _ | classExpr span _ _ | unary span _ _
  | update span _ | binary span _ _ _ | assign span _ _ _
  | conditional span _ _ _ | member span _ _ | call span _ _ _
  | construct span _ _ _ | optional span _ _ | sequence span _ | template span _
  | tagged span _ _ _ | yield span _ | await span _ | metaProperty span
  | parenthesized span _ | privateName span | ascribed span _ _ _
  | element span _ _ _ _ _ | invalid span => span
  | absent => ⟨0, 0⟩

def Member.span : Member → Span
  | shorthand span _ | keyed span _ _ | defaulted span _ _ | spread span _
  | getter span _ _ _ | setter span _ _ _ | method span _ _
  | constructor span _ _ _ | field span _ _ _ _ | index span _ _
  | staticBlock span _ | empty span => span

def Pattern.span : Pattern → Span
  | identifier span _ _ | array span _ _ | object span _ _ | rest span _ _
  | withDefault span _ _ | keyed span _ _ | shorthand span _ _
  | invalid span => span
  | decorated _ param => param.span
  | expression value => value.span
  | absent => ⟨0, 0⟩

def Class.decorators : Class → List Expr
  | mk _ decorators _ _ _ _ => decorators

def Body.isAbsent : Body → Bool
  | absent => true
  | _ => false

def Function.body : Function → Body
  | mk _ _ _ _ body => body

end Prune.Script
