import Prune.Config
import Prune.Module
import Prune.Purity
import Prune.Scope.Walk
import Prune.Script.Grammar
import Prune.Specifier
import Prune.Text.Frame

/-!
# Taking a source file apart

From the items of a file to a module: its declarations with their texts and the
names they use, its statements, what it imports and what it passes on. Each name
is declared, imported or passed on once. Forms that cannot be cut into pieces
are refused with a frame around the place where they stand.

A list of exports may come before what it names, so the lists are kept until all
items have been seen. A listed name is either declared here, and then exported,
or imported, and then passed on at the place of its list.
-/

namespace Prune

open Script

/-! ## Texts -/

def dropBlanks (chars : List Char) : List Char := chars.dropWhile Text.isBlank

/-- What follows a word and at least one blank; blanks are dropped. -/
def afterWord? (word : String) (chars : List Char) : Option (List Char) :=
  if word.toList.isPrefixOf chars then
    match chars.drop word.length with
    | c :: rest => if Text.isBlank c then some (dropBlanks rest) else none
    | [] => none
  else none

/-- The text of a declaration without the words that export it. -/
def withoutExport (chars : List Char) : List Char :=
  match afterWord? "export" chars with
  | none => chars
  | some rest => (afterWord? "default" rest).getD rest

/-- The characters between two positions. -/
def slice (text : List Char) (lo hi : Nat) : List Char :=
  (text.drop lo).take (hi - lo)

/-! ## The module under construction -/

/-- A name in a list of exports, and how many items came before it. -/
structure ListedExport where
  position : Nat
  name : String
deriving Repr, DecidableEq

/-- The part of a module that has been seen. -/
structure Dissection where
  module : Module
  listed : List ListedExport

/-- What a file is taken apart with. -/
structure Subject where
  config : Config
  path : String
  file : SourceFile

namespace Subject

/-- The refusal of what stands at a position. -/
def refusal (subject : Subject) (span : Span) (message : String) : Error :=
  let place := Text.placeOf subject.file.text span.lo
  .unsupported subject.path (.framed (Text.frame subject.path place message))

def text (subject : Subject) (lo hi : Nat) : String :=
  String.ofList (slice subject.file.text lo hi)

end Subject

namespace Dissection

def refuseDeclared (dissection : Dissection) (name : String) :
    Except Error Unit :=
  if dissection.module.declarations.contains name ||
      dissection.module.importTable.contains name then
    .error (.duplicateDeclaration name dissection.module.id)
  else .ok ()

def refusePassedOn (dissection : Dissection) (name : String) :
    Except Error Unit :=
  if dissection.module.reExports.contains name then
    .error (.duplicateDeclaration name dissection.module.id)
  else .ok ()

/-- The text of an item without the words that export it. Decorators that come
before these words stay in front. -/
def plainText (subject : Subject) (lo exportLo hi : Nat) : String :=
  let text := subject.file.text
  if lo < exportLo then
    String.ofList
      (slice text lo exportLo ++ withoutExport (slice text exportLo hi))
  else String.ofList (withoutExport (slice text lo hi))

/-- Adds a declaration whose item reaches from `lo` to `hi`, with its `export`
at `exportLo`. -/
def declare (subject : Subject) (lo exportLo hi : Nat) (name : String)
    (exported : Bool) (uses : List String) (dissection : Dissection) :
    Except Error Dissection := do
  dissection.refuseDeclared name
  dissection.refusePassedOn name
  let declaration : Declaration :=
    { name
      itemText := subject.text lo hi
      plainText := plainText subject lo exportLo hi
      exported
      references := uses.map Reference.named }
  let module := dissection.module
  return { dissection with
    module :=
      { module with
        declarations := module.declarations.insert name declaration
        items := module.items ++ [.declaration module.declarations.size] } }

/-- The name of a declaration that can be taken apart, and whether it is only
declared. -/
def declaredName (subject : Subject) : Stmt → Except Error (String × Bool)
  | .function name function ambient =>
      .ok (name, ambient || function.body.isAbsent)
  | .classDecl name _ ambient | .interface name _ _ _ ambient
  | .typeAlias name _ _ ambient | .enum name _ _ ambient => .ok (name, ambient)
  | .variable span _ declarators ambient =>
      match declarators with
      | [.identifier _ name _] | [.withDefault _ (.identifier _ name _) _] =>
          .ok (name, ambient)
      | [_] =>
          .error
            (subject.refusal span
              "destructuring declarations are not supported")
      | _ =>
          .error
            (subject.refusal span
              "variable statements must declare exactly one binding")
  | .using span _ =>
      .error
        (subject.refusal span "\x60using\x60 declarations are not supported")
  | .namespace span (.text _) _ _ =>
      .error
        (subject.refusal span
          "string-named module declarations are not supported")
  | .namespace _ (.identifier name) _ ambient => .ok (name, ambient)
  | _ => .ok ("", false)

/-- Where an item starts with the decorators of the class it holds. -/
def itemStart (item : TopItem) (decorators : List Expr) : Nat :=
  if decorators.isEmpty then item.span.lo
  else min item.decoratorsFrom item.span.lo

def decoratorsOf : Stmt → List Expr
  | .classDecl _ value _ => value.decorators
  | .exportDefaultDecl _ (.classExpr _ _ value) => value.decorators
  | _ => []

/-- Adds a declaration that is a statement. -/
def addDeclaration (subject : Subject) (item : TopItem) (declaration : Stmt)
    (exported : Bool) (dissection : Dissection) : Except Error Dissection := do
  let (name, ambient) ← declaredName subject declaration
  let lo :=
    if exported then itemStart item (decoratorsOf declaration) else item.span.lo
  let uses := if ambient then [] else declaration.freeNames
  dissection.declare subject lo item.span.lo item.span.hi name exported uses

/-- Adds a default export; without a name of its own it is called `default`. -/
def addDefault (subject : Subject) (item : TopItem) (name : Option String)
    (uses : List String) (dissection : Dissection) : Except Error Dissection :=
  let lo := itemStart item (decoratorsOf item.stmt)
  dissection.declare subject lo item.span.lo item.span.hi
    (name.getD "default") true uses

def addStatement (subject : Subject) (item : TopItem)
    (dissection : Dissection) : Dissection :=
  let module := dissection.module
  let statement : Statement :=
    { text := subject.text item.span.lo item.span.hi
      isPure := item.stmt.isPure subject.file.marks
      references := item.stmt.freeNames.map Reference.named }
  { dissection with
    module :=
      { module with
        statements := module.statements ++ [statement]
        items := module.items ++ [.statement module.statements.length] } }

/-- Adds a name that is taken from another module. -/
def addImported (subject : Subject) (target : String)
    (specifier : ImportSpecifier) (dissection : Dissection) :
    Except Error Dissection := do
  match specifier with
  | .default span _ =>
      .error (subject.refusal span "default imports are not supported")
  | .everything span _ =>
      .error (subject.refusal span "namespace imports are not supported")
  | .named localName imported =>
      dissection.refuseDeclared localName
      let binding : ImportBinding :=
        { localName,
          imported := imported.elim localName ExportName.value, target }
      let module := dissection.module
      return { dissection with
        module :=
          { module with
            importTable := module.importTable.insert localName binding } }

def noteImport (specifier target : String) (dissection : Dissection) :
    Dissection :=
  let module := dissection.module
  { dissection with
    module :=
      { module with imports := module.imports ++ [⟨specifier, target⟩] } }

/-- Passes a name on from another module. -/
def addPassedOn (subject : Subject) (span : Span) (target : String)
    (specifier : ExportSpecifier) (dissection : Dissection) :
    Except Error Dissection := do
  match specifier with
  | .named inner exported =>
      let targetName := inner.value
      let exported := exported.elim targetName ExportName.value
      let module := dissection.module
      if module.reExports.contains exported ||
          module.declarations.contains exported then
        .error (.duplicateDeclaration exported module.id)
      return { dissection with
        module :=
          { module with
            reExports :=
              module.reExports.insert exported { exported, targetName, target }
            items := module.items ++ [.reExport exported] } }
  | _ => .error (subject.refusal span "only named re-exports are supported")

/-- Keeps a name of a list of exports. A name is exported under itself only. -/
def addListed (subject : Subject) (span : Span) (specifier : ExportSpecifier)
    (dissection : Dissection) : Except Error Dissection :=
  match specifier with
  | .named inner exported =>
      let name := inner.value
      let exported := exported.elim name ExportName.value
      if exported = name then
        .ok { dissection with
          listed :=
            dissection.listed ++ [⟨dissection.module.items.length, name⟩] }
      else .error (.aliased name exported dissection.module.id)
  | _ => .error (subject.refusal span "only named exports are supported")

/-- Adds an item. -/
def addItem (subject : Subject) (dissection : Dissection) (item : TopItem) :
    Except Error Dissection := do
  match item.stmt with
  | .importNames span specifiers source _ =>
      if specifiers.isEmpty then
        .error
          (subject.refusal span
            ("import of \"" ++ source ++ "\" has no named bindings"))
      let target ← Specifier.resolve subject.config subject.path source
      let dissection ← specifiers.foldlM
          (fun d s => d.addImported subject target s) dissection
      return dissection.noteImport source target
  | .exportNames span specifiers (some source) _ =>
      let target ← Specifier.resolve subject.config subject.path source
      let dissection ← specifiers.foldlM
          (fun d s => d.addPassedOn subject span target s) dissection
      return dissection.noteImport source target
  | .exportNames span specifiers none _ =>
      specifiers.foldlM (fun d s => d.addListed subject span s) dissection
  | .exportDecl _ declaration =>
      dissection.addDeclaration subject item declaration true
  | .exportDefaultDecl _ value =>
      match value with
      | .function _ name function =>
          dissection.addDefault subject item name
            (if function.body.isAbsent then [] else value.freeNames)
      | .classExpr _ name _ =>
          dissection.addDefault subject item name value.freeNames
      | _ => dissection.addDefault subject item none value.freeNames
  | .exportDefaultInterface _ declaration =>
      let (name, ambient) ← declaredName subject declaration
      dissection.addDefault subject item (some name)
        (if ambient then [] else declaration.freeNames)
  | .exportDefaultExpr _ value =>
      dissection.addDefault subject item none value.freeNames
  | .exportAll span _ =>
      .error (subject.refusal span "\x60export *\x60 is not supported")
  | .importEquals span _ _ =>
      .error
        (subject.refusal span "\x60import x = require()\x60 is not supported")
  | .exportAssignment span _ =>
      .error (subject.refusal span "\x60export =\x60 is not supported")
  | .exportNamespace span _ =>
      .error
        (subject.refusal span "\x60export as namespace\x60 is not supported")
  | .function _ _ _ | .classDecl _ _ _ | .variable _ _ _ _ | .using _ _
  | .interface _ _ _ _ _ | .typeAlias _ _ _ _ | .enum _ _ _ _
  | .namespace _ _ _ _ =>
      dissection.addDeclaration subject item item.stmt false
  | _ => return dissection.addStatement subject item

/-! ## Lists of exports -/

/-- Puts an item in front of the one at a position. -/
def insertItem (items : List Item) (position : Nat) (item : Item) : List Item :=
  items.take position ++ item :: items.drop position

/-- Exports a listed name, given how many items the lists before it have
added. -/
def exportListed (state : Module × Nat) (entry : ListedExport) :
    Except Error (Module × Nat) :=
  let (module, inserted) := state
  if module.declarations.contains entry.name then
    let declarations := module.declarations.map fun name declaration =>
      if name = entry.name then { declaration with exported := true }
      else declaration
    .ok ({ module with declarations }, inserted)
  else
    match module.importTable.find? entry.name with
    | none => .error (.unresolved entry.name module.id)
    | some binding =>
        if module.reExports.contains entry.name then .ok (module, inserted)
        else
          let reExport : ReExport :=
            { exported := entry.name, targetName := binding.imported,
              target := binding.target }
          .ok
            ({ module with
                reExports := module.reExports.insert entry.name reExport
                items :=
                  insertItem module.items (entry.position + inserted)
                    (.reExport entry.name) },
              inserted + 1)

/-- The module, once all items have been seen. Only an entry exports
anything. -/
def finish (dissection : Dissection) : Except Error Module := do
  let (module, _) ← dissection.listed.foldlM exportListed (dissection.module, 0)
  if module.isEntry then return module
  let declarations := module.declarations.map fun _ declaration =>
    { declaration with exported := false }
  return { module with declarations }

end Dissection

/-! ## Files -/

/-- Where a fault is shown: at its start, or before the place where an operand
is missing. -/
def faultPlace (text : List Char) (fault : Fault) : Text.Place :=
  if fault.complaint = .deleteNothing then Text.placeBefore text fault.lo
  else Text.placeOf text fault.lo

/-- The frames that show what is wrong with a text that comes after a number of
bytes. -/
def faultFrames (path : String) (bytesBefore : Nat) (text : List Char)
    (faults : List Fault) : String :=
  String.intercalate "\n"
    (faults.map fun fault =>
      Text.frame path (faultPlace text fault)
        (fault.complaint.message bytesBefore))

/-- Takes the items of a file apart. -/
def Module.ofSource (subject : Subject) (isEntry : Bool) :
    Except Error Module := do
  let start : Dissection := ⟨.empty subject.path isEntry, []⟩
  let dissection ← subject.file.items.foldlM (Dissection.addItem subject) start
  dissection.finish

/-- Reads a file and takes it apart. A fault in an entry makes the entry
invalid. What is wrong with a file may be told by bytes, which are counted
through all files that were read before. -/
def Module.ofText (config : Config) (path content : String) (isEntry : Bool)
    (bytesBefore : Nat) :
    Except Error Module :=
  let dialect : Dialect :=
    { elements := Path.extension path = some "tsx",
      decorators := config.decorators }
  match SourceFile.read dialect content.toList with
  | .ok file => Module.ofSource ⟨config, path, file⟩ isEntry
  | .error (.abandoned reason) => .error (.abandoned reason.message)
  | .error (.faulty faults) =>
      let frames :=
        faultFrames path bytesBefore (unmarked content.toList) faults
      if isEntry then .error (.invalidEntry path (.notParsed frames))
      else .error (.notParsed path frames)

/-- The bytes that came before change nothing but the words of an error. -/
theorem Module.toOption_ofText (config : Config) (path content : String)
    (isEntry : Bool) (bytesBefore : Nat) :
    (Module.ofText config path content isEntry bytesBefore).toOption =
      (Module.ofText config path content isEntry 0).toOption := by
  simp only [Module.ofText]
  split
  · rfl
  · rfl
  · split <;> simp only [Except.toOption]

end Prune
