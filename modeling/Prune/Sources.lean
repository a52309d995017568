import Prune.Error
import Prune.Path
import Prune.Table

/-!
# Sources

The texts of source files that are kept in memory, by their paths. A path is
cleaned before it is used, so that it does not matter how it is spelled.
-/

namespace Prune

/-- A way to get the text of a source file. -/
abbrev Loader := String → Except LoadError String

/-- Source texts by their cleaned paths. -/
structure Sources where
  files : Table String
deriving Inhabited

namespace Sources

def empty : Sources := ⟨.empty⟩

/-- Puts a file in, or replaces its text. -/
def insert (sources : Sources) (path content : String) : Sources :=
  ⟨sources.files.insert (Path.normalize path) content⟩

def ofList (files : List (String × String)) : Sources :=
  files.foldl (fun sources file => sources.insert file.1 file.2) empty

def load (sources : Sources) : Loader := fun path =>
  match sources.files.find? (Path.normalize path) with
  | some content => .ok content
  | none => .error (.missing path)

/-- The number of characters of all texts together. -/
def size (sources : Sources) : Nat :=
  sources.files.values.foldl (fun total text => total + text.length) 0

end Sources

end Prune
