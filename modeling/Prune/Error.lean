/-!
# Errors

Why a run stops. Each error is the cause it stands for; its wording is in
`Error.message` and nowhere else. The shapes of source that are refused name
the place they are found at by a rendered frame, so that an error needs no
source text to be shown.
-/

namespace Prune

/-- Why a source text could not be loaded. -/
inductive LoadError where
  | unreadable (path reason : String)
  | missing (path : String)
deriving Repr, DecidableEq, Inhabited

def LoadError.message : LoadError → String
  | .unreadable path reason => path ++ ": " ++ reason
  | .missing path => path ++ ": no such file"

/-- Why a path cannot serve as an entry. -/
inductive EntryFault where
  | wrongExtension (extension : String)
  | notLoaded (error : LoadError)
  | notParsed (frames : String)
deriving Repr, DecidableEq, Inhabited

def EntryFault.message : EntryFault → String
  | .wrongExtension extension => "expected a ." ++ extension ++ " source file"
  | .notLoaded error => error.message
  | .notParsed frames => frames

/-- Why a module is refused although it parses: a frame, or a specifier that
leads nowhere. -/
inductive ShapeFault where
  | framed (frame : String)
  | notRelative (specifier : String)
deriving Repr, DecidableEq, Inhabited

def ShapeFault.message : ShapeFault → String
  | .framed frame => frame
  | .notRelative specifier =>
      "only relative module specifiers are supported, got \"" ++
        specifier ++ "\""

/-- Why a run stops. -/
inductive Error where
  | invalidEntry (path : String) (fault : EntryFault)
  | moduleNotFound (specifier importer path : String)
  | notParsed (path frames : String)
  | unsupported (path : String) (fault : ShapeFault)
  | duplicateDeclaration (name module : String)
  | unresolved (name module : String)
  | aliased (localName imported module : String)
  /-- The run was given up. -/
  | abandoned (reason : String)
deriving Repr, DecidableEq, Inhabited

/-- A place is asked for that a list does not have. -/
def Error.outOfBounds (length place : Nat) : Error :=
  .abandoned
    ("index out of bounds: the len is " ++ toString length ++
      " but the index is " ++
      toString place)

def Error.message : Error → String
  | .invalidEntry path fault =>
      "Invalid entrypoint \"" ++ path ++ "\": " ++ fault.message
  | .moduleNotFound specifier importer path =>
      "Module \"" ++ specifier ++ "\" imported by \"" ++ importer ++
        "\" not found at \"" ++ path ++ "\""
  | .notParsed path frames =>
      "Parse file \"" ++ path ++ "\" failed:\n" ++ frames
  | .unsupported path fault =>
      "Unsupported syntax in \"" ++ path ++ "\": " ++ fault.message
  | .duplicateDeclaration name module =>
      "Duplicate declaration \"" ++ name ++ "\" in \"" ++ module ++ "\""
  | .unresolved name module =>
      "Unresolved symbol \"" ++ name ++ "\" in \"" ++ module ++ "\""
  | .aliased localName imported module =>
      "Aliasing is not supported: \"" ++ localName ++ "\" refers to \"" ++
        imported ++ "\" in \"" ++
        module ++ "\""
  | .abandoned reason => reason

end Prune
