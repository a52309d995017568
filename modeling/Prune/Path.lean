/-!
# Paths

A path is text whose segments are parted by slashes. Everything here is
lexical: no segment is looked up anywhere, so a path means the same whether or
not it exists.

Two readings of the text are kept apart. `segments` is the reading that cleans:
empty segments and single dots say nothing and are dropped, so that `normalize`
only has to cancel a name against the dots that follow it. `parent` and `join`
work on the spelling: they neither add nor remove a segment in the middle of a
path, because what they return is shown in messages.

The last segment of a path decides its extension: the text after the last dot,
if something stands before that dot.
-/

namespace Prune.Path

/-- A segment of a path that says something. -/
inductive Segment where
  | root
  | up
  | name (text : List Char)
deriving Repr, DecidableEq

/-- The pieces between slashes; `n` slashes give `n + 1` pieces. -/
def pieces : List Char → List (List Char)
  | [] => [[]]
  | c :: rest =>
      match pieces rest with
      | [] => [[c]]
      | first :: others =>
          if c = '/' then [] :: first :: others else (c :: first) :: others

/-- Pieces with a slash between each two. -/
def glue : List (List Char) → List Char
  | [] => []
  | [piece] => piece
  | piece :: rest => piece ++ '/' :: glue rest

/-- A piece that says nothing. -/
def isSilent (piece : List Char) : Bool := piece = [] || piece = ['.']

def isAbsolute (path : List Char) : Bool := path.head? = some '/'

def pieceSegment (piece : List Char) : Segment :=
  if piece = ['.', '.'] then .up else .name piece

/-- The segments of a path that say something, in order. -/
def segments (path : List Char) : List Segment :=
  let named :=
    ((pieces path).filter fun piece => !isSilent piece).map pieceSegment
  if isAbsolute path then .root :: named else named

/-- Puts a segment on the cleaned segments before it, kept innermost first. -/
def push (cleaned : List Segment) (segment : Segment) : List Segment :=
  match segment, cleaned with
  | .up, .root :: _ => cleaned
  | .up, .name _ :: rest => rest
  | _, _ => segment :: cleaned

def segmentText : Segment → List Char
  | .root => []
  | .up => ['.', '.']
  | .name text => text

/-- The text of cleaned segments: a single dot for none. -/
def render : List Segment → List Char
  | [] => ['.']
  | [.root] => ['/']
  | segments => glue (segments.map segmentText)

def cleanSegments (segments : List Segment) : List Segment :=
  (segments.foldl push []).reverse

def normalizeChars (path : List Char) : List Char :=
  render (cleanSegments (segments path))

/-- The path without silent segments, and without names that dots cancel. -/
def normalize (path : String) : String :=
  String.ofList (normalizeChars path.toList)

/-! ## Spelling -/

/-- What stands before the pieces of a path: a slash, a leading dot or
nothing. -/
inductive Head where
  | slash
  | dot
  | none
deriving Repr, DecidableEq

/-- A path as it is spelled: its head and the pieces after it. -/
def spelling (path : List Char) : Head × List (List Char) :=
  match pieces path with
  | [] => (.none, [])
  | first :: rest =>
      if isAbsolute path then (.slash, rest)
      else if first = ['.'] then (.dot, rest)
      else (.none, first :: rest)

def dropTrailingSilent (body : List (List Char)) : List (List Char) :=
  (body.reverse.dropWhile isSilent).reverse

def spell : Head → List (List Char) → List Char
  | .slash, body => '/' :: glue body
  | .dot, [] => ['.']
  | .dot, body => '.' :: '/' :: glue body
  | .none, body => glue body

def parentChars (path : List Char) : Option (List Char) :=
  match spelling path with
  | (head, body) =>
      match dropTrailingSilent body with
      | [] => if head = .dot then some [] else none
      | kept => some (spell head (dropTrailingSilent kept.dropLast))

/-- The path of the directory that holds the last segment, if there is a
segment. -/
def parent (path : String) : Option String :=
  (parentChars path.toList).map String.ofList

def joinChars (directory path : List Char) : List Char :=
  if isAbsolute path then path
  else if directory = [] then path
  else if directory.getLast? = some '/' then directory ++ path
  else directory ++ '/' :: path

/-- The second path as seen from the first. -/
def join (directory path : String) : String :=
  String.ofList (joinChars directory.toList path.toList)

/-! ## Extensions -/

/-- The name of the file itself: the last segment, unless it leads upwards. -/
def fileName (path : List Char) : Option (List Char) :=
  match (segments path).getLast? with
  | some (.name text) => some text
  | _ => none

/-- The text after the last dot of a name, if something stands before that
dot. -/
def nameExtension (name : List Char) : Option (List Char) :=
  let after := name.reverse.takeWhile (· ≠ '.')
  match name.reverse.dropWhile (· ≠ '.') with
  | [] => none
  | [_] => none
  | _ :: _ :: _ => some after.reverse

def extensionChars (path : List Char) : Option (List Char) :=
  (fileName path).bind nameExtension

/-- The extension of the file a path leads to. -/
def extension (path : String) : Option String :=
  (extensionChars path.toList).map String.ofList

end Prune.Path
