import Prune.Table
import Prune.Text.Quoted

/-!
# Modules

What is known of one source file once it is taken apart: its declarations, the
statements that run at its top level, what it imports, and what it passes on
from other modules. `items` says in which order declarations, statements and
passed-on names came.

A reference is a name that a declaration or statement uses without binding it.
Its target is not known inside the module; linking fills it in. Declarations
and statements of other modules are addressed by slots: the index of a module
in the graph and the place in its table.
-/

namespace Prune

/-- A place in the table of a module. -/
structure Slot where
  module : Nat
  index : Nat
deriving Repr, DecidableEq, Inhabited

/-- What can be put out: a declaration or a statement. -/
inductive Node where
  | declaration (slot : Slot)
  | statement (slot : Slot)
deriving Repr, DecidableEq, Inhabited

/-- What a reference means: a declaration, or a name that the runtime
provides. -/
inductive Target where
  | declaration (slot : Slot)
  | ambient
deriving Repr, DecidableEq, Inhabited

/-- A use of a name that is not bound where it is used. -/
structure Reference where
  name : String
  target : Option Target
deriving Repr, DecidableEq, Inhabited

def Reference.named (name : String) : Reference := ⟨name, none⟩

/-- A declaration: its whole item, and the item without the words that export
it. -/
structure Declaration where
  name : String
  itemText : String
  plainText : String
  exported : Bool
  references : List Reference
deriving Repr, DecidableEq, Inhabited

/-- The text that stands for a declaration in the output. -/
def Declaration.text (declaration : Declaration) (asRoot : Bool) : String :=
  if declaration.exported || asRoot then declaration.itemText
  else declaration.plainText

/-- A statement at the top level; a pure one may be dropped. -/
structure Statement where
  text : String
  isPure : Bool
  references : List Reference
deriving Repr, DecidableEq, Inhabited

/-- A name taken from another module, and the name it has here. -/
structure ImportBinding where
  localName : String
  imported : String
  target : String
deriving Repr, DecidableEq, Inhabited

def ImportBinding.isAliased (binding : ImportBinding) : Bool :=
  binding.localName ≠ binding.imported

/-- A name passed on from another module, under a name of its own. -/
structure ReExport where
  exported : String
  targetName : String
  target : String
deriving Repr, DecidableEq, Inhabited

def ReExport.isAliased (reExport : ReExport) : Bool :=
  reExport.exported ≠ reExport.targetName

/-- A clause that names another module: the specifier as written, and the module
it leads to. -/
structure Import where
  specifier : String
  target : String
deriving Repr, DecidableEq, Inhabited

/-- An item of a module, in the order of the source. -/
inductive Item where
  | declaration (index : Nat)
  | statement (index : Nat)
  | reExport (name : String)
deriving Repr, DecidableEq, Inhabited

/-- A source file taken apart. -/
structure Module where
  id : String
  isEntry : Bool
  declarations : Table Declaration
  imports : List Import
  importTable : Table ImportBinding
  reExports : Table ReExport
  statements : List Statement
  items : List Item
deriving DecidableEq, Inhabited

namespace Module

def empty (id : String) (isEntry : Bool) : Module :=
  ⟨id, isEntry, .empty, [], .empty, .empty, [], []⟩

/-- The references of a module: those of its declarations, then those of its
statements. -/
def references (module : Module) : List Reference :=
  (module.declarations.values.flatMap Declaration.references) ++
    (module.statements.flatMap Statement.references)

def isLinked (module : Module) : Bool :=
  module.references.all fun reference => reference.target.isSome

/-- Names in brackets, quoted. -/
def listing (names : List String) : String :=
  "[" ++ String.intercalate ", " (names.map Text.quoted) ++ "]"

/-- One line that describes the module. -/
def describe (module : Module) : String :=
  "Module id=" ++ module.id ++ " declarations=" ++
    listing module.declarations.keys ++
    " statements=" ++ toString module.statements.length

end Module

end Prune
