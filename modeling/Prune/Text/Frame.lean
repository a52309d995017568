import Prune.Text.Width

/-!
# Frames

How a place in a text is shown: its path, line and column with what is to be
said about it, then the line itself with a caret under the column. Lines are
counted where a line feed ends them, or a carriage return that no line feed
follows, but the line that is shown runs up to a line feed. What ends the last
line is part of it, so the end of a text is a place on its last line.
-/

namespace Prune.Text

/-- A place in a text: the number of its line, the column before it, and its
line. -/
structure Place where
  line : Nat
  column : Nat
  text : List Char
deriving Repr, DecidableEq

/-- Whether a line ends before the rest of a text. -/
def startsLine (last : Char) (rest : List Char) : Bool :=
  last = '\n' || (last = '\r' && rest.head? ≠ some '\n')

/-- The line that holds a position, counted from `line`, which starts with
`start` and of which `before` has been passed already. -/
def placeFrom (line : Nat) (start before : List Char) : Nat → List Char → Place
  | 0, _ | _ + 1, [] =>
      ⟨line, displayColumn before.reverse, start.takeWhile (· ≠ '\n')⟩
  | n + 1, c :: rest =>
      if startsLine c rest && !rest.isEmpty then
        placeFrom (line + 1) rest [] n rest
      else placeFrom line start (c :: before) n rest

/-- The place of a position, a number of characters from the start. -/
def placeOf (text : List Char) (position : Nat) : Place :=
  placeFrom 1 text [] position text

/-- The place one step before a position: that of the character before it, and
of more than one step where it is not in ASCII, the last of them. -/
def placeBefore (text : List Char) (position : Nat) : Place :=
  if (text[position - 1]?).elim true fun c => c.toNat < 128 then
    placeOf text (position - 1)
  else
    let place := placeOf text position
    { place with column := place.column - 1 }

def blanks (n : Nat) : String := String.ofList (List.replicate n ' ')

/-- A frame around a place. -/
def frame (path : String) (place : Place) (message : String) : String :=
  let number := toString place.line
  let gutter := blanks number.length
  path ++ ":" ++ number ++ ":" ++ toString (place.column + 1) ++ ": " ++
    message ++ "\n" ++
    gutter ++ " |\n" ++
    number ++ " | " ++ String.ofList place.text ++ "\n" ++
    gutter ++ " | " ++ blanks place.column ++ "^"

end Prune.Text
