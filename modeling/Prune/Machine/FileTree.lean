import Prune.Machine.Interface

/-!
# File trees

A machine whose files are a value. A path is followed piece by piece: a name
leads into a directory that is there, and two dots lead back out of it, so that
a path through something that does not exist leads nowhere, even if the dots
would cancel it. A name with a slash behind it can only be that of a directory,
and neither a name nor a path as a whole may be too long.
-/

namespace Prune

/-- What stands at a place of a file tree. -/
inductive FileNode where
  | file (content : ByteArray)
  | directory
deriving Inhabited

/-- Files and directories by the names that lead to them, innermost first. The
root is always there. -/
structure FileTree where
  nodes : List (List (List Char) × FileNode)
  /-- The directory that relative paths start from. -/
  base : String
deriving Inhabited

/-- Where a path leads. -/
inductive Destination where
  /-- A file; `isSlashed` says that a slash follows its name. -/
  | file (place : List (List Char)) (content : ByteArray) (isSlashed : Bool)
  | directory (place : List (List Char))
  /-- Nothing, in a directory that is there. -/
  | vacant (place : List (List Char)) (isSlashed : Bool)
  | missing
  | throughFile
  /-- A name is too long, or the path is. -/
  | tooLong (isSlashed : Bool)

namespace FileTree

def empty (base : String) : FileTree := ⟨[], base⟩

def nodeAt (tree : FileTree) (place : List (List Char)) : Option FileNode :=
  if place.isEmpty then some .directory
  else (tree.nodes.find? fun entry => entry.1 = place).map Prod.snd

/-- How many bytes a name may have. -/
def nameLimit : Nat := 255

/-- How many bytes a path may have. -/
def pathLimit : Nat := 4095

/-- Follows pieces of a path from a directory. -/
def follow (tree : FileTree) (place : List (List Char)) :
    List (List Char) → Destination
  | [] => .directory place
  | piece :: rest =>
      if Path.isSilent piece then follow tree place rest
      else if piece = ['.', '.'] then follow tree (place.drop 1) rest
      else
        let isLast := rest.all List.isEmpty
        let isSlashed := isLast && !rest.isEmpty
        if nameLimit < (String.ofList piece).utf8ByteSize then
          .tooLong isSlashed
        else
          match tree.nodeAt (piece :: place) with
          | some .directory => follow tree (piece :: place) rest
          | some (.file content) =>
              if isLast then .file (piece :: place) content isSlashed
              else .throughFile
          | none =>
              if isLast then .vacant (piece :: place) isSlashed else .missing

/-- Where a path leads; an empty path leads nowhere. -/
def locate (tree : FileTree) (path : String) : Destination :=
  if path.isEmpty then .missing
  else if pathLimit < path.utf8ByteSize then .tooLong false
  else tree.follow [] (Path.pieces (Path.join tree.base path).toList)

/-- Puts something at a place, in the place of what was there. -/
def put (tree : FileTree) (place : List (List Char)) (node : FileNode) :
    FileTree :=
  { tree with
    nodes := (place, node) :: tree.nodes.filter fun entry => entry.1 ≠ place }

/-- Adds a directory with all directories around it. -/
def putDirectories (tree : FileTree) : List (List Char) → FileTree
  | [] => tree
  | name :: outer => (tree.putDirectories outer).put (name :: outer) .directory

/-- Adds something at an absolute path. -/
def add (tree : FileTree) (path : String) (node : FileNode) : FileTree :=
  let place :=
    ((Path.pieces path.toList).filter fun piece => !Path.isSilent piece).reverse
  (tree.putDirectories (place.drop 1)).put place node

/-- The number of bytes of all files together. -/
def size (tree : FileTree) : Nat :=
  tree.nodes.foldl (fun total entry =>
    match entry.2 with
    | .file content => total + content.size
    | .directory => total) 0

def isDirectoryReason : String := "Is a directory (os error 21)"

def notDirectoryReason : String := "Not a directory (os error 20)"

def missingReason : String := "No such file or directory (os error 2)"

def tooLongReason : String := "File name too long (os error 36)"

def notTextReason : String := "stream did not contain valid UTF-8"

def kind (tree : FileTree) (path : String) : Option FileKind :=
  match tree.locate path with
  | .file _ _ false => some .file
  | .directory _ => some .directory
  | _ => none

def read (tree : FileTree) (path : String) : Except String String :=
  match tree.locate path with
  | .file _ content false =>
      match String.fromUTF8? content with
      | some text => .ok text
      | none => .error notTextReason
  | .directory _ => .error isDirectoryReason
  | .vacant _ _ | .missing => .error missingReason
  | .file _ _ true | .throughFile => .error notDirectoryReason
  | .tooLong _ => .error tooLongReason

def write (tree : FileTree) (path text : String) : Except String FileTree :=
  match tree.locate path with
  | .file place _ false | .vacant place false =>
      .ok (tree.put place (.file text.toUTF8))
  | .directory _ | .file _ _ true | .vacant _ true | .tooLong true =>
      .error isDirectoryReason
  | .tooLong false => .error tooLongReason
  | .missing => .error missingReason
  | .throughFile => .error notDirectoryReason

/-- Repeats a step of a build while a task is in flight, for a number of times
at most. -/
def settleWithin [Monad m] (step : Build → m Build) : Nat → Build → m Build
  | 0, build => return build
  | fuel + 1, build => do
      if build.inFlight.isEmpty then return build
      settleWithin step fuel (← step build)

/-- The machine that a file tree is. Every task but the first was named by a
clause of some file. -/
def machine : Machine (StateM FileTree) where
  kind := fun path => return (← get).kind path
  read := fun path => return (← get).read path
  write := fun path text => do
    match (← get).write path text with
    | .ok tree =>
        set tree
        return .ok ()
    | .error reason => return .error reason
  directory := return (← get).base
  settle := fun step build => do settleWithin step ((← get).size + 2) build

end FileTree

end Prune
