import Prune.Script.Token
import Prune.Text.Identifier

/-!
# Scanning

Where the reading of a source text stands, and how the next token is read from
there. What the next characters mean depends on more than themselves: a brace
may open a block, an object or a hole of a template, and `<` may start an
element. `Nesting` records what has been opened and not yet closed, and
`Scan.settle` brings it up to date after every token.

The reader of tokens also keeps the comments that matter, those that mark the
call behind them as free of effects, and the faults that do not end the reading.
A position is a number of characters from the start of the text.
-/

namespace Prune.Script

/-- What kind of place in the program is being read. -/
structure Context where
  /-- Whether the file may hold elements. -/
  elements : Bool
  decorators : Bool
  ignoreFaults : Bool
  inType : Bool
  plainAngles : Bool
  inPropertyName : Bool
  inAsync : Bool
  inGenerator : Bool
  inFunction : Bool
  /-- Whether `new.target` means something. -/
  ownTarget : Bool
  inStaticBlock : Bool
  inParameters : Bool
  inClass : Bool
  inClassField : Bool
  hasSuperClass : Bool
  breakAllowed : Bool
  continueAllowed : Bool
  includeIn : Bool
  loopHead : Bool
  awaitLoopHead : Bool
  ambient : Bool
  inConditional : Bool
  expectsColon : Bool
  plainTypesOnly : Bool
  forcedElement : Bool
deriving Inhabited

/-- What has been opened and not yet closed. -/
inductive Nesting where
  | block
  | object
  | hole
  | head (isFor : Bool)
  | parentheses
  | template
  | functionExpr
  | classExpr
  | openTag
  | closeTag
  | element
deriving Repr, DecidableEq, Inhabited

/-- Whether what is closed was an expression. -/
def Nesting.isExpression : Nesting → Bool
  | object | hole | parentheses | template | functionExpr | classExpr
  | element => true
  | _ => false

/-- Where the reading of a text stands. -/
structure Scan where
  text : List Char
  context : Context
  rest : List Char
  position : Nat
  atStart : Bool
  last : Option Token
  /-- Whether a line has ended since the last token. -/
  lineBreak : Bool
  /-- Whether a line ended before the last token. -/
  lineBreakBefore : Bool
  allowsExpression : Bool
  /-- What is open, innermost first. -/
  nesting : List Nesting
  templateFrom : Nat
  tokenFrom : Nat
  /-- Where a regular expression is to be read from. -/
  regexpFrom : Option Nat
  /-- Whether the next token is marked as free of effects. -/
  marked : Bool
  /-- The starts of the tokens that are marked as free of effects. -/
  marks : List Nat
  /-- The faults noted so far, the latest first. -/
  faults : List Fault
  abandoned : Option Abandonment
deriving Inhabited

/-- A token with its range, and whether a line ended before it. -/
structure Lexeme where
  token : Token
  span : Nat × Nat
  afterLineBreak : Bool
deriving Inhabited

/-- A step of reading: it may end in a fault, and how far it came is kept in
both cases. -/
abbrev Scanner := ExceptT Fault (StateM Scan)

/-! ## Characters -/

def isLineEnd (c : Char) : Bool :=
  c = '\n' || c = '\r' || c = '\u2028' || c = '\u2029'

/-- Characters between tokens that end no line. -/
def isSpace (c : Char) : Bool :=
  c = ' ' || c = '\t' || c.toNat = 0x0B || c.toNat = 0x0C || c.toNat = 0x85 ||
    c.toNat = 0xA0 || c.toNat = 0xFEFF || c.toNat = 0x1680 ||
    (0x2000 ≤ c.toNat && c.toNat ≤ 0x200A) || c.toNat = 0x202F ||
    c.toNat = 0x205F || c.toNat = 0x3000

/-- Words that cannot name a variable in a module. -/
def isReserved (word : String) : Bool :=
  keywords.contains word || literalWords.contains word ||
    ["enum", "implements", "package", "protected", "interface", "private",
      "public"].contains word

namespace Scan

def start (text : List Char) (context : Context) : Scan where
  text
  context
  rest := text
  position := 0
  atStart := true
  last := none
  lineBreak := false
  lineBreakBefore := false
  allowsExpression := true
  nesting := [.block]
  templateFrom := 0
  tokenFrom := 0
  regexpFrom := none
  marked := false
  marks := []
  faults := []
  abandoned := none

/-- Moves past some characters. -/
def advance (n : Nat) (scan : Scan) : Scan :=
  { scan with
    rest := scan.rest.drop n,
    position := scan.position + (scan.rest.take n).length }

/-- Goes back to a position. -/
def moveTo (position : Nat) (scan : Scan) : Scan :=
  { scan with rest := scan.text.drop position, position }

/-- Puts a fault on record. -/
def record (fault : Fault) (scan : Scan) : Scan :=
  { scan with faults := fault :: scan.faults }

/-- Notes a fault, unless the reading is only a trial. -/
def note (fault : Fault) (scan : Scan) : Scan :=
  if scan.context.ignoreFaults then scan else scan.record fault

/-- Gives the reading up. The first reason stays. -/
def abandon (reason : Abandonment) (scan : Scan) : Scan :=
  { scan with abandoned := scan.abandoned <|> some reason }

/-! ## Nesting -/

/-- Whether a brace after `last` opens a block. -/
def opensBlock (last : Option Token) (lineBreak allowsExpression : Bool)
    (nesting : List Nesting) :
    Bool :=
  let otherwise :=
    if lineBreak && (last.elim false Token.endsOperand) then true
    else !allowsExpression
  match last with
  | some (.mark ":") =>
      match nesting.head? with
      | some .block => true
      | some .object => false
      | _ => otherwise
  | some (.word "return") | some (.word "yield") => lineBreak
  | some (.word "else") | some (.mark ";") | none | some (.mark ")") => true
  | some (.mark "\x7b") =>
      match nesting with
      | .object :: .openTag :: _ => true
      | .block :: _ => true
      | _ => false
  | some (.mark "<") | some (.mark ">") | some (.mark "=>") => true
  | _ => otherwise

/-- What is open after a token, and whether an expression may follow. -/
def nestingAfter (elements : Bool) (last : Option Token)
    (lineBreak lineBreakBefore : Bool) (allowsExpression : Bool)
    (nesting : List Nesting) (token : Token) : List Nesting × Bool :=
  let afterDot := match last with
    | some (.mark ".") => true
    | _ => false
  let afterDeclarator := match last with
    | some (.word "let") | some (.word "const") | some (.word "var") =>
        lineBreakBefore
    | _ => false
  if token.isKeyword && afterDot then (nesting, false)
  else match token with
  | .mark ")" | .mark "\x7d" =>
      match nesting with
      | [_] | [] => (nesting, true)
      | out :: rest =>
          match out, rest with
          | .block, .functionExpr :: outer | .block, .classExpr :: outer =>
              (outer, false)
          | .hole, .template :: _ => (rest, false)
          | .hole, _ => (rest, true)
          | out, rest => (rest, !out.isExpression)
  | .word "function" =>
      if allowsExpression &&
          !opensBlock last lineBreak allowsExpression nesting then
        (.functionExpr :: nesting, false)
      else (nesting, false)
  | .word "class" =>
      if allowsExpression &&
          !opensBlock last lineBreak allowsExpression nesting then
        (.classExpr :: nesting, false)
      else (nesting, false)
  | .mark ":" =>
      match nesting with
      | .functionExpr :: rest | .classExpr :: rest => (rest, true)
      | _ => (nesting, true)
  | .word text =>
      if keywords.contains text then (nesting, token.allowsExpression)
      else if text = "of" && nesting.head? = some (.head true) then
        (nesting, !(last.elim false Token.allowsExpression))
      else (nesting, afterDeclarator)
  | .escapedWord _ => (nesting, afterDeclarator)
  | .mark "\x7b" =>
      match elements, nesting with
      | true, .openTag :: _ => (.object :: nesting, true)
      | true, .element :: _ => (.hole :: nesting, true)
      | _, _ =>
          if opensBlock last lineBreak allowsExpression nesting then
            (.block :: nesting, true)
          else (.object :: nesting, true)
  | .mark "/" =>
      match elements, last with
      | true, some .elementStart => (.closeTag :: nesting.drop 2, false)
      | _, _ => (nesting, true)
  | .mark "$\x7b" => (.hole :: nesting, true)
  | .mark "(" =>
      match last with
      | some (.word "if") | some (.word "with") | some (.word "while") =>
          (.head false :: nesting, true)
      | some (.word "for") => (.head true :: nesting, true)
      | _ => (.parentheses :: nesting, true)
  | .mark "++" | .mark "--" => (nesting, allowsExpression)
  | .mark "`" =>
      match nesting with
      | .template :: rest => (rest, false)
      | _ => (.template :: nesting, false)
  | .elementStart => (.openTag :: .element :: nesting, false)
  | .elementEnd =>
      match nesting, last with
      | .openTag :: rest, some (.mark "/") | .closeTag :: rest, _ =>
          (rest.drop 1, (rest.drop 1).head? = some .element)
      | _ :: rest, _ => (rest, true)
      | [], _ => ([], true)
  | token => (nesting, token.allowsExpression)

/-- Takes note of the token that was read from `lo`. -/
def settle (lo : Nat) (token : Token) (scan : Scan) : Scan :=
  let (nesting, allowsExpression) :=
    nestingAfter scan.context.elements scan.last scan.lineBreak
      scan.lineBreakBefore
      scan.allowsExpression scan.nesting token
  let opensTemplate := token.isMark "`" && scan.nesting.head? ≠ some .template
  { scan with
    nesting
    allowsExpression
    last := some token
    lineBreakBefore := scan.lineBreak
    templateFrom := if opensTemplate then lo else scan.templateFrom
    marks := if scan.marked then lo :: scan.marks else scan.marks
    marked := false }

end Scan

/-! ## Steps -/

namespace Scanner

def ahead : Scanner (List Char) := return (← get).rest

def position : Scanner Nat := return (← get).position

def advance (n : Nat) : Scanner Unit := modify (Scan.advance n)

def note (lo : Nat) (complaint : Complaint) : Scanner Unit :=
  modify fun scan => scan.note ⟨lo, scan.position, complaint⟩

/-- Ends in a fault about everything since `lo`. -/
def fail (lo : Nat) (complaint : Complaint) : Scanner α := do
  throw ⟨lo, ← position, complaint⟩

/-- Ends in a fault about one position. -/
def failAt (at_ : Nat) (complaint : Complaint) : Scanner α :=
  throw ⟨at_, at_, complaint⟩

/-- Moves past the characters with a property, and returns them. -/
def takeWhile (holds : Char → Bool) : Scanner (List Char) := do
  let taken := (← ahead).takeWhile holds
  advance taken.length
  return taken

/-- The text between a position and here. -/
def since (lo : Nat) : Scanner (List Char) := do
  let scan ← get
  return (scan.text.drop lo).take (scan.position - lo)

def markLineBreak : Scanner Unit :=
  modify fun scan => { scan with lineBreak := true }

/-! ## Space and comments -/

def skipLine : Scanner Unit := do
  let _ ← takeWhile (!isLineEnd ·)

/-- Splits a text after the first end of a comment. -/
def closeComment (before : List Char) :
    List Char → Option (List Char × List Char)
  | '*' :: '/' :: rest => some (before.reverse, rest)
  | c :: rest => closeComment (c :: before) rest
  | [] => none

/-- Whether a comment marks the call behind it as free of effects. -/
def marksPure (body : List Char) : Bool :=
  let body := String.ofList body
  body = "#__PURE__" || body = "@__PURE__"

def skipBlanks : Scanner Unit := do
  let blanks ← takeWhile fun c => isSpace c || isLineEnd c
  if blanks.any isLineEnd then markLineBreak

/-- Skips a block comment. It belongs to what follows unless it stands behind a
token that takes comments on its line, or before a semicolon. One that is never
closed takes the rest of the text. -/
def skipBlockComment : Scanner Unit := do
  let scan ← get
  let ownLine := scan.lineBreak || !(scan.last.elim false Token.allowsComment)
  match closeComment [] (scan.rest.drop 2) with
  | none =>
      advance scan.rest.length
      note (← position) .openComment
  | some (body, _) =>
      advance (body.length + 4)
      if body.any isLineEnd then markLineBreak
      skipBlanks
      let beforeSemicolon := (← ahead).head? = some ';'
      if marksPure body && ownLine && !beforeSemicolon then
        modify fun scan => { scan with marked := true }

/-- Skips space and comments; every round takes a comment. -/
def skipGap : Nat → Scanner Unit
  | 0 => return
  | fuel + 1 => do
      skipBlanks
      match ← ahead with
      | '/' :: '/' :: _ => skipLine; skipGap fuel
      | '/' :: '*' :: _ => skipBlockComment; skipGap fuel
      | _ => return

def skip : Scanner Unit := do
  skipGap ((← ahead).length + 1)

end Scanner

end Prune.Script
