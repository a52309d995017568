import Prune.Script.Lexer
import Prune.Script.Tree

/-!
# The cursor

What the parser sees of the text: the current token, the one after it, and the
range of the one before. Tokens are read only when they are looked at, since
what a character means depends on where the parser is by then. At the end of the
text the cursor stands where the last token ended.

A step of parsing may end in a fault. What it has done to the cursor by then
stays done; `Parser.attempt` is the way to go back.
-/

namespace Prune.Script

/-- Where the parser stands. -/
structure Cursor where
  scan : Scan
  current : Option Lexeme
  following : Option Lexeme
  /-- The range of the token before the current one. -/
  previous : Nat × Nat
  /-- The labels around the current place. -/
  labels : List String
  /-- Where an arrow function may start without parentheses. -/
  arrowFrom : Option Nat
  /-- Literals that end in a comma, by their starts, with the position of the
  comma. -/
  trailingCommas : List (Nat × Nat)
deriving Inhabited

/-- A step of parsing. -/
abbrev Parser := ExceptT Fault (StateM Cursor)

namespace Cursor

def start (scan : Scan) : Cursor where
  scan
  current := none
  following := none
  previous := (0, 0)
  labels := []
  arrowFrom := none
  trailingCommas := []

/-- Reads the current token if it has not been read yet. -/
def load (cursor : Cursor) : Cursor :=
  match cursor.current, cursor.following with
  | some _, _ => cursor
  | none, some lexeme =>
      { cursor with current := some lexeme, following := none }
  | none, none =>
      let (lexeme, scan) := cursor.scan.next
      { cursor with current := lexeme, scan }

/-- Reads the token after the current one if it has not been read yet. -/
def loadFollowing (cursor : Cursor) : Cursor :=
  let cursor := cursor.load
  match cursor.following with
  | some _ => cursor
  | none =>
      let (lexeme, scan) := cursor.scan.next
      { cursor with following := lexeme, scan }

end Cursor

namespace Parser

/-! ## Looking -/

/-- The current lexeme; there is none at the end of the text. -/
def lexeme? : Parser (Option Lexeme) := do
  modify Cursor.load
  return (← get).current

def token? : Parser (Option Token) := do
  return (← lexeme?).map Lexeme.token

def peek? : Parser (Option Token) := do
  modify Cursor.loadFollowing
  return (← get).following.map Lexeme.token

def peekLexeme? : Parser (Option Lexeme) := do
  modify Cursor.loadFollowing
  return (← get).following

/-- Where the previous token ended. -/
def lastPosition : Parser Nat := return (← get).previous.2

/-- Where the current token starts. -/
def position : Parser Nat := do
  match ← lexeme? with
  | some lexeme => return lexeme.span.1
  | none => lastPosition

/-- The range of the current token. If it has not been looked at, or at the end,
that of the last one. -/
def currentSpan : Parser (Nat × Nat) := do
  let cursor ← get
  return cursor.current.elim cursor.previous Lexeme.span

def spanFrom (lo : Nat) : Parser Span := return ⟨lo, ← lastPosition⟩

def afterLineBreak : Parser Bool := do
  match ← lexeme? with
  | some lexeme => return lexeme.afterLineBreak
  | none => return true

def atEnd : Parser Bool := return (← token?).isNone

/-- How complaints show the current token. -/
def shown : Parser Shown := do
  let token ← token?
  return token.elim (Shown.text "<eof>") (Token.describe (← get).scan.text)

def tokenIs (token : Option Token) (text : String) : Bool :=
  token.elim false fun token => token.isWord text || token.isMark text

def is (text : String) : Parser Bool := return tokenIs (← token?) text

def isAny (texts : List String) : Parser Bool := texts.anyM is

def nextIs (text : String) : Parser Bool := return tokenIs (← peek?) text

def nextIsAny (texts : List String) : Parser Bool := texts.anyM nextIs

/-- Whether a token is a word that can name a variable. -/
def namesVariable : Option Token → Bool
  | some (.word text) => !isReserved text
  | some (.escapedWord _) => true
  | _ => false

def isWordToken (token : Option Token) : Bool :=
  (token.bind Token.wordText?).isSome

/-- Whether the next token is on the line of the current one. -/
def nextIsHere : Parser Bool :=
  return (← peekLexeme?).elim false fun lexeme => !lexeme.afterLineBreak

def isName : Parser Bool := return namesVariable (← token?)

def nextIsName : Parser Bool := return namesVariable (← peek?)

def isAnyWord : Parser Bool := return isWordToken (← token?)

def nextIsAnyWord : Parser Bool := return isWordToken (← peek?)

/-! ## Moving -/

/-- Takes the current token. -/
def bump : Parser Unit :=
  modify fun cursor =>
    match cursor.load with
    | { scan, current := some lexeme, following, labels, arrowFrom,
        trailingCommas, .. } =>
        { scan
          current := none
          following
          previous := lexeme.span
          labels
          arrowFrom
          trailingCommas }
    | cursor => cursor

def eat (text : String) : Parser Bool := do
  if ← is text then
    bump
    return true
  return false

/-! ## Faults -/

/-- Puts a fault on record. -/
def record (fault : Fault) : Parser Unit :=
  modify fun cursor => { cursor with scan := cursor.scan.note fault }

/-- If the current token is one that could not be read, takes it. -/
def takeUnreadable : Parser (Option Fault) := do
  match ← token? with
  | some (.fault fault) =>
      bump
      return some fault
  | _ => return none

/-- Notes a fault and goes on. A token that cannot be read is noted first. -/
def noteFault (fault : Fault) : Parser Unit := do
  if !(← get).scan.context.ignoreFaults then
    match ← takeUnreadable with
    | some unreadable => record unreadable
    | none => pure ()
    record fault

def note (span : Nat × Nat) (complaint : Complaint) : Parser Unit :=
  noteFault ⟨span.1, span.2, complaint⟩

def noteAt (span : Span) (complaint : Complaint) : Parser Unit :=
  noteFault ⟨span.lo, span.hi, complaint⟩

/-- Notes a fault about a part of strict code. -/
def noteStrict (span : Span) (complaint : Complaint) : Parser Unit := do
  if !(← get).scan.context.ignoreFaults then
    record ⟨span.lo, span.hi, complaint⟩

/-- Ends in a fault. A token that cannot be read is noted first. -/
def fail (span : Nat × Nat) (complaint : Complaint) : Parser α := do
  match ← takeUnreadable with
  | some unreadable => noteFault unreadable
  | none => pure ()
  throw ⟨span.1, span.2, complaint⟩

/-- Ends in a fault about the current token. -/
def failHere (complaint : Complaint) : Parser α := do
  fail (← currentSpan) complaint

def failUnexpected (wanted : String) : Parser α := do
  failHere (.unexpected (← shown) wanted)

/-- Gives the reading of the text up. -/
def abandon (reason : Abandonment) : Parser α := do
  modify fun cursor => { cursor with scan := cursor.scan.abandon reason }
  failHere .endOfText

/-- Ends in the fault that the text ends too early. -/
def failAtEnd : Parser α := do
  let end_ := (← get).scan.text.length
  throw ⟨end_, end_, .endOfText⟩

/-- The current token. It must be there, and one that can be read. -/
def required : Parser Token := do
  match ← token? with
  | some (.fault fault) =>
      bump
      throw fault
  | some token => return token
  | none => failAtEnd

/-- Takes a token that must come now. -/
def expect (text : String) : Parser Unit := do
  if !(← eat text) then
    let span ← currentSpan
    fail span (.expected text (← shown))

/-- Whether a statement may end here. -/
def isSemicolon : Parser Bool := do
  match ← token? with
  | none | some (.mark ";") | some (.mark "\x7d") => return true
  | _ => afterLineBreak

/-- Ends a statement here if it may end. -/
def eatSemicolon : Parser Bool := do
  if ← eat ";" then return true
  if ← atEnd then return true
  if ← is "\x7d" then return true
  afterLineBreak

def expectSemicolon : Parser Unit := do
  if !(← eatSemicolon) then
    let span ← currentSpan
    fail span (.expected ";" (← shown))

/-! ## Contexts -/

def context : Parser Context := return (← get).scan.context

def setContext (context : Context) : Parser Unit :=
  modify fun cursor => { cursor with scan := { cursor.scan with context } }

/-- Parses in another context, and comes back from it also with a fault. -/
def within (change : Context → Context) (parse : Parser α) : Parser α := do
  let before ← context
  setContext (change before)
  try
    let value ← parse
    setContext before
    return value
  catch fault =>
    setContext before
    throw fault

/-- Goes back to an earlier place. Faults that are on record stay there, and a
reading that has been given up stays so. -/
def goBack (before : Cursor) : Parser Unit :=
  modify fun cursor =>
    let { faults, abandoned, .. } := cursor.scan
    { before with scan := { before.scan with faults, abandoned } }

/-- Parses without noting faults. A fault that ends it, or no answer, leads back
to the start. After an answer, faults are noted as before. -/
def attempt (parse : Parser (Option α)) : Parser (Option α) := do
  let before ← get
  setContext { before.scan.context with ignoreFaults := true }
  try
    match ← parse with
    | some value =>
        setContext
          { ← context with ignoreFaults := before.scan.context.ignoreFaults }
        return some value
    | none =>
        goBack before
        return none
  catch _ =>
    goBack before
    return none

/-- Parses without noting faults and leads back to the start in any case. -/
def lookahead (parse : Parser α) : Parser α := do
  let before ← get
  setContext { before.scan.context with ignoreFaults := true }
  try
    let value ← parse
    goBack before
    return value
  catch fault =>
    goBack before
    throw fault

/-! ## Repetition -/

/-- What a step of a repetition says: to go on, or that it is over. -/
inductive Round (α β : Type) where
  | again (value : α)
  | over (result : β)

/-- Repeats a step until it is over. -/
def iterate : Nat → (α → Parser (Round α β)) → α → Parser β
  | 0, _, _ => failAtEnd
  | fuel + 1, step, value => do
      match ← step value with
      | .again value => iterate fuel step value
      | .over result => return result

/-- Repeats a step that takes a token whenever it goes on, so that the length of
the text bounds the number of rounds. -/
def repeating (step : α → Parser (Round α β)) (value : α) : Parser β := do
  iterate (2 * (← get).scan.text.length + 8) step value

/-- Collects items until a step has none. -/
def collect (step : Parser (Option α)) : Parser (List α) :=
  repeating (fun before => do
    match ← step with
    | some item => return .again (item :: before)
    | none => return .over before.reverse) []

end Parser

end Prune.Script
