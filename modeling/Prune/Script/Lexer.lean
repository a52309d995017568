import Prune.Script.Reference
import Prune.Script.Scan
import Prune.Text.Quoted

/-!
# Reading tokens

How each kind of token is read, and `Scan.next`, which reads the next one. A
token that cannot be read is a token as well, one that holds its fault: the
parser decides whether it can do without it.
-/

namespace Prune.Script

namespace Scanner

/-! ## Digits -/

/-- Reads digits with separators between them, until there are none or the
digits read are enough. A misplaced separator is noted once for each. -/
def digits (radix : Nat) (enough : List Char → Bool) :
    Nat → Nat → Option Char → List Char → Scanner (List Char)
  | 0, _, _, before => return before
  | fuel + 1, lo, previous, before => do
      match ← ahead with
      | '_' :: rest =>
          let bad (c : Char) :=
            if radix = 16 then ['.', 'X', '_', 'x'].contains c
            else ['.', 'B', 'E', 'O', '_', 'b', 'e', 'o'].contains c
          let next := rest.head?
          if !(next.elim false (isDigitOf radix)) || previous.elim true bad ||
              next.elim false bad then
            note lo .looseSeparator
          advance 1
          digits radix enough fuel lo previous before
      | c :: _ =>
          if isDigitOf radix c then
            advance 1
            let read := before ++ [c]
            if enough read then return read
            digits radix enough fuel lo (some c) read
          else return before
      | [] => return before

def digitsUntil (radix : Nat) (enough : List Char → Bool) :
    Scanner (List Char) := do
  digits radix enough ((← ahead).length + 1) (← position) none []

def digitsFrom (radix : Nat) : Scanner (List Char) :=
  digitsUntil radix fun _ => false

/-! ## Escapes -/

/-- The first number that is too large for the number of an escape. -/
def escapeBound : Nat := 0x100000000

/-- Reads the part of a unicode escape that follows the backslash. A number that
is no character stands for its own text, of which braces hold at most six
characters. -/
def unicodeEscape : Scanner (List Char) := do
  advance 1
  let braced := (← ahead).head? = some '\x7b'
  if braced then advance 1
  let lo ← position
  let digits ← digitsUntil 16 fun digits =>
    if braced then escapeBound ≤ digitsValue 16 digits else digits.length = 4
  let value := digitsValue 16 digits
  if digits.isEmpty || (!braced && digits.length ≠ 4) ||
      escapeBound ≤ value then
    fail (← position)
      (.badEscape (if braced then "1-6 hex characters" else "4 hex characters"))
  if 0x10FFFF < value then
    fail (← position)
      (.badEscape "1-6 hex characters in the range 0 to 10FFFF.")
  let chars ← if value.isValidChar then pure [Char.ofNat value] else do
    modify (Scan.moveTo lo)
    let text ← ahead
    let shown :=
      if braced then (text.take 6).takeWhile (· ≠ '\x7d') else text.take 4
    advance shown.length
    pure
      ('\\' :: 'u' :: (if braced then '\x7b' :: shown ++ ['\x7d'] else shown))
  if braced then
    if (← ahead).head? = some '\x7d' then advance 1
    else fail lo .openUnicodeEscape
  return chars

/-- Reads an escape in a string or a template. -/
def escape (inTemplate : Bool) : Scanner (List Char) := do
  let lo ← position
  advance 1
  match ← ahead with
  | [] => failAt lo .lostEscape
  | 'n' :: _ => advance 1; return ['\n']
  | 'r' :: _ => advance 1; return ['\r']
  | 't' :: _ => advance 1; return ['\t']
  | 'b' :: _ => advance 1; return [Char.ofNat 8]
  | 'v' :: _ => advance 1; return [Char.ofNat 11]
  | 'f' :: _ => advance 1; return [Char.ofNat 12]
  | '\r' :: '\n' :: _ => advance 2; return []
  | 'x' :: _ =>
      advance 1
      let digits ← digitsUntil 16 fun digits => digits.length = 2
      if digits.length = 2 then return [Char.ofNat (digitsValue 16 digits)]
      fail lo (.badEscape "2 hex characters")
  | 'u' :: _ =>
      try unicodeEscape
      catch fault => fail lo fault.complaint
  | c :: rest =>
      if isLineEnd c then
        advance 1
        return []
      if isDigitOf 8 c then
        advance 1
        if c = '0' && !(rest.head?.elim false (isDigitOf 8)) then
          return [Char.ofNat 0]
        if inTemplate then fail lo .oldOctal
        note lo .oldOctal
        let more := (rest.take 2).takeWhile (isDigitOf 8)
        let kept :=
          if digitsValue 8 (c :: more) < 256 then more else more.take 1
        advance kept.length
        return [Char.ofNat (digitsValue 8 (c :: kept))]
      advance 1
      return [c]

/-! ## Words -/

/-- Reads the characters of a word; says whether any was written with an
escape. -/
def wordChars : Nat → List Char → Bool → Scanner (List Char × Bool)
  | 0, before, escaped => return (before, escaped)
  | fuel + 1, before, escaped => do
      match ← ahead with
      | '\\' :: rest =>
          let lo ← position
          advance 1
          if rest.head? ≠ some 'u' then failAt lo .noUnicodeEscape
          let chars ← unicodeEscape
          if !(chars.head?.elim true Text.isIdPart) then
            note lo .escapedNameChar
          wordChars fuel (before ++ chars) true
      | c :: _ =>
          if Text.isIdPart c then
            let taken ← takeWhile Text.isIdPart
            wordChars fuel (before ++ taken) escaped
          else return (before, escaped)
      | [] => return (before, escaped)

def rawWord : Scanner (String × Bool) := do
  let (chars, escaped) ← wordChars ((← ahead).length + 1) [] false
  return (String.ofList chars, escaped)

/-- Reads a word. One that starts with an escape is a name, whatever it spells;
behind another start an escape must not spell a reserved word. -/
def word : Scanner Token := do
  let lo ← position
  let startsEscaped := (← ahead).head? = some '\\'
  let (text, escaped) ← rawWord
  if startsEscaped then return .escapedWord text
  if escaped && isReserved text then fail lo (.escapedKeyword text)
  return .word text

/-! ## Numbers -/

def someDigits (radix : Nat) : Scanner (List Char) := do
  let lo ← position
  let read ← digitsFrom radix
  if read.isEmpty then fail lo (.digitExpected radix)
  return read

/-- No name may start where a number ends. -/
def endNumber : Scanner Unit := do
  match ← ahead with
  | c :: _ => if Text.isIdStart c then failAt (← position) .nameAfterNumber
  | [] => return

def bigIntOr (lo : Nat) (radix : Nat) (read : List Char)
    (otherwise : Scanner Token) :
    Scanner Token := do
  match ← ahead with
  | 'n' :: _ =>
      advance 1
      return .bigInt (toString (digitsValue radix read))
        (String.ofList (← since lo))
  | _ => otherwise

def numberSince (lo : Nat) : Scanner Token := do
  return .number (String.ofList (← since lo))

def radixNumber (radix : Nat) : Scanner Token := do
  let lo ← position
  advance 2
  let read ← someDigits radix
  bigIntOr lo radix read do
    endNumber
    numberSince lo

def exponentPart : Scanner Unit := do
  match ← ahead with
  | c :: _ =>
      if c = 'e' || c = 'E' then
        advance 1
        match ← ahead with
        | [] => failAt (← position) .exponentExpected
        | d :: _ =>
            if d = '+' || d = '-' then advance 1
            let _ ← someDigits 10
  | [] => return

/-- The part of a number from its point on. -/
def fractionPart (lo : Nat) : Scanner Token := do
  if (← ahead).head? = some '.' then
    advance 1
    let _ ← digitsFrom 10
  exponentPart
  endNumber
  numberSince lo

def octalNumber (lo : Nat) : Scanner Token := do
  endNumber
  note lo .oldOctalLiteral
  note lo .oldOctal
  numberSince lo

/-- The first whole number that is too large for a number of the language. -/
def numberBound : Nat := 0x3FFFFFFFFFFFFF * Nat.pow 2 970

def number : Scanner Token := do
  let lo ← position
  if (← ahead).head? = some '.' then fractionPart lo
  else
    let read ← someDigits 10
    bigIntOr lo 10 read do
      if read.head? = some '0' && 1 < (← position) - lo &&
          digitsValue 10 read < numberBound then
        if digitsValue 10 read = 0 || read.all (isDigitOf 8) then octalNumber lo
        else
          note lo .oldDecimal
          fractionPart lo
      else fractionPart lo

/-! ## Text -/

def stringChars (quote : Char) (lo : Nat) : Nat → List Char → Scanner Token
  | 0, _ => fail lo .openText
  | fuel + 1, value => do
      let finish (value : List Char) : Scanner Token := do
        return .string (String.ofList value) (String.ofList (← since lo))
      match ← ahead with
      | [] => note lo .openText; finish value
      | '\n' :: _ | '\r' :: _ => note lo .openText; finish value
      | '\\' :: _ => stringChars quote lo fuel (value ++ (← escape false))
      | c :: _ =>
          if c = quote then
            advance 1
            finish value
          else
            let taken ← takeWhile fun c =>
                c ≠ quote && c ≠ '\\' && c ≠ '\n' && c ≠ '\r'
            stringChars quote lo fuel (value ++ taken)

def string (quote : Char) : Scanner Token := do
  let lo ← position
  advance 1
  stringChars quote lo ((← ahead).length + 1) []

/-- Reads a piece of a template up to its end or its next hole. -/
def templateChars (lo : Nat) : Nat → Option Fault → Scanner Token
  | 0, _ => fail lo .openTemplate
  | fuel + 1, fault => do
      let finish : Scanner Token := do
        return .template (String.ofList (← since lo)) fault
      match ← ahead with
      | [] => fail (← get).templateFrom .openTemplate
      | '\x60' :: _ => finish
      | '$' :: '\x7b' :: _ => finish
      | '\\' :: _ =>
          let found ← try
              let _ ← escape true
              pure none
            catch found => pure (some found)
          templateChars lo fuel (found <|> fault)
      | c :: _ =>
          if isLineEnd c then markLineBreak
          advance 1
          templateChars lo fuel fault

def template : Scanner Token := do
  let lo ← position
  let afterPiece := match (← get).last with
    | some (.template _ _) => true
    | _ => false
  match afterPiece, ← ahead with
  | true, '\x60' :: _ => advance 1; return .mark "`"
  | true, '$' :: '\x7b' :: _ => advance 2; return .mark "$\x7b"
  | _, _ => templateChars lo ((← ahead).length + 1) none

/-! ## Regular expressions -/

def regexpChars (lo : Nat) : Nat → Bool → Bool → Scanner Unit
  | 0, _, _ => fail lo .openRegexp
  | fuel + 1, escaped, inClass => do
      match ← ahead with
      | [] => fail lo .openRegexp
      | c :: _ =>
          if isLineEnd c then fail lo .openRegexp
          if !escaped && c = '/' && !inClass then return
          advance 1
          let inClass := if escaped then inClass
            else if c = '[' then true
            else if c = ']' then false
            else inClass
          regexpChars lo fuel (!escaped && c = '\\') inClass

/-- Reads a regular expression from its slash on. -/
def regexp (lo : Nat) : Scanner Token := do
  modify (Scan.moveTo lo)
  advance 1
  regexpChars lo ((← ahead).length + 1) false false
  let body ← since (lo + 1)
  advance 1
  let flags ← match ← ahead with
    | c :: _ => if Text.isIdStart c then Prod.fst <$> rawWord else pure ""
    | [] => pure ""
  return .regexp (String.ofList body) flags

/-! ## Elements -/

/-- Looks at the character references of a text in an element. A faulty one
makes the reading end. -/
def checkReferences (chars : List Char) : Scanner Unit := do
  for found in Reference.faulty chars do
    modify
      (Scan.abandon
        (if found = .noDigits then .emptyReference else .lostReference))

def elementTextChars (lo : Nat) : Nat → Scanner Token
  | 0 => fail lo .openElementText
  | fuel + 1 => do
      match ← ahead with
      | [] =>
          checkReferences (← since lo)
          fail (← get).tokenFrom .openElementText
      | '<' :: _ | '\x7b' :: _ =>
          let raw ← since lo
          checkReferences raw
          return .elementText (String.ofList raw)
      | '>' :: _ =>
          note (← position) (.suggestion "`\x7b'>'\x7d` or `&gt;`")
          advance 1
          elementTextChars lo fuel
      | '\x7d' :: _ =>
          note (← position) (.suggestion "`\x7b'\x7d'\x7d` or `&rbrace;`")
          advance 1
          elementTextChars lo fuel
      | c :: _ =>
          if isLineEnd c then markLineBreak
          advance 1
          elementTextChars lo fuel

/-- The value of a string in an element. In it a line end of two characters ends
two lines. -/
def elementStringValue : List Char → List Char
  | [] => []
  | '\r' :: '\n' :: rest => '\r' :: '\n' :: '\n' :: elementStringValue rest
  | c :: rest => c :: elementStringValue rest

/-- Reads a string in an element. Its last quote is left there if no two
characters follow it. -/
def elementString (quote : Char) : Scanner Token := do
  let lo ← position
  advance 1
  let body ← takeWhile (· ≠ quote)
  checkReferences body
  let rest ← ahead
  if rest.isEmpty then note (← get).tokenFrom .openText
  if 2 < rest.length then advance 1
  let value := Reference.decode (elementStringValue body)
  return .string (String.ofList value) (String.ofList (← since lo))

def elementName : Scanner Token := do
  return .elementName
    (String.ofList (← takeWhile fun c => Text.isIdPart c || c = '-'))

/-! ## Punctuation -/

/-- Marks of more than one character, longer ones first. -/
def longMarks : List String :=
  [">>>=", "...", "===", "!==", "**=", "<<=", ">>=", ">>>", "&&=", "||=", "??=",
    "=>", "==", "!=", "++", "--", "+=", "-=", "*=", "/=", "%=", "&=", "|=",
    "^=", "<=", ">=", "<<", ">>", "&&", "||", "??", "**"]

/-- Marks of one character. -/
def shortMarks : List Char :=
  ['(', ')', ';', ',', '[', ']', '\x7b', '\x7d', '@', '\x60', ':', '~', '?',
    '.', '%', '*', '|', '&', '+', '-', '!', '=', '<', '>', '^', '/', '#']

def mark : Scanner Token := do
  let lo ← position
  let chars ← ahead
  match longMarks.find? fun text => text.toList.isPrefixOf chars with
  | some text =>
      advance text.length
      return .mark text
  | none =>
      match chars with
      | c :: _ =>
          advance 1
          if shortMarks.contains c then return .mark (String.singleton c)
          failAt lo
            (.unexpectedChar
              (String.ofList ('\'' :: Text.quoteChar c ++ ['\''])))
      | [] => failAt lo .endOfText

/-- Whether a line starts here that a merge left around the versions it could
not join. -/
def opensMergeMarker (chars : List Char) : Bool :=
  ["=======", "<<<<<<< ", ">>>>>>> ", "||||||| "].any fun text =>
    text.toList.isPrefixOf chars

/-- Reads the token that starts here, where no comment or merge marker
starts. -/
def simpleToken : Scanner Token := do
  match ← ahead with
  | '"' :: _ => string '"'
  | '\'' :: _ => string '\''
  | '0' :: c :: _ =>
      if c = 'x' || c = 'X' then radixNumber 16
      else if c = 'o' || c = 'O' then radixNumber 8
      else if c = 'b' || c = 'B' then radixNumber 2
      else number
  | '.' :: c :: _ => if c.isDigit then number else mark
  | c :: _ =>
      if c.isDigit then number
      else if c = '\\' || Text.isIdStart c then word
      else mark
  | [] => mark

/-- Reads the token that starts here, not at an element or in a template. Lines
that are no code are complained about and skipped. A null character is passed
and taken for the end of the text; what follows it is read at the next try. -/
def plainToken : Nat → Scanner (Option Token)
  | 0 => return none
  | fuel + 1 => do
      let scan ← get
      let noteOldComment : Scanner Unit := do
        modify (Scan.record ⟨scan.position, ← position, .oldComment⟩)
      let inAngles := scan.context.inType && !scan.context.plainAngles
      match scan.rest with
      | [] => return none
      | c :: chars =>
          if (c = '<' || c = '>') && inAngles then
            advance 1
            return some (.mark (String.singleton c))
          if "<!--".toList.isPrefixOf (c :: chars) then
            skipLine
            skip
            noteOldComment
            return ← plainToken fuel
          if scan.lineBreak then
            if "-->".toList.isPrefixOf (c :: chars) then
              advance 3
              noteOldComment
              skipLine
              skip
              return ← plainToken fuel
            if opensMergeMarker (c :: chars) then
              let fault : Fault :=
                ⟨scan.position, scan.position + 7, .mergeMarker⟩
              modify (Scan.note fault)
              skipLine
              skip
              if c = '|' then throw fault
              return ← plainToken fuel
          if c.toNat = 0 then
            advance 1
            return none
          some <$> simpleToken

def shebang? : Scanner (Option Token) := do
  match ← ahead with
  | '#' :: '!' :: _ =>
      skipLine
      return some .shebang
  | _ => return none

/-- Reads the token that starts here, inside or outside elements and
templates. -/
def tokenHere : Scanner (Option Token) := do
  let scan ← get
  modify fun scan => { scan with tokenFrom := scan.position }
  let plain : Scanner (Option Token) := do
    if scan.nesting.head? = some .template then some <$> template
    else plainToken (scan.rest.length + 1)
  if scan.context.elements && !scan.context.inPropertyName &&
      !scan.context.inType then
    let opens := scan.nesting.head? = some .openTag
    let inTag := opens || scan.nesting.head? = some .closeTag
    match scan.rest with
    | c :: rest =>
        if scan.nesting.head? = some .element then
          if c = '<' && scan.allowsExpression then
            advance 1
            return some .elementStart
          else if c = '<' || c = '\x7b' then plainToken (scan.rest.length + 1)
          else some <$> elementTextChars scan.position (scan.rest.length + 1)
        else if inTag && Text.isIdStart c then some <$> elementName
        else if inTag && c = '>' then
          advance 1
          return some .elementEnd
        else if opens && (c = '\'' || c = '"') then some <$> elementString c
        else if c = '<' && scan.allowsExpression &&
          rest.head?.elim true (· ≠ '!') &&
            !(scan.lineBreak && opensMergeMarker scan.rest) then
          advance 1
          return some .elementStart
        else plain
    | [] => plain
  else plain

/-- Reads the next token; there is none at the end of the text. -/
def token : Scanner (Option Token) := do
  let scan ← get
  match scan.regexpFrom with
  | some lo => some <$> regexp lo
  | none =>
      let bang ← if scan.atStart then shebang? else pure none
      match bang with
      | some bang => return some bang
      | none =>
          modify fun scan =>
            { scan with lineBreak := scan.atStart, atStart := false }
          let keepsSpace :=
            scan.nesting.head? = some .template ||
              scan.nesting.head? = some .element
          if !keepsSpace then
            skip
            modify fun scan => { scan with tokenFrom := scan.position }
          if (← ahead).isEmpty then return none
          tokenHere

end Scanner

/-- Reads the next token. What cannot be read is a token that holds its
fault. -/
def Scan.next (scan : Scan) : Option Lexeme × Scan :=
  let finish (token : Token) (after : Scan) : Option Lexeme × Scan :=
    (some ⟨token, (after.tokenFrom, after.position), after.lineBreak⟩,
      after.settle after.tokenFrom token)
  match Scanner.token.run { scan with tokenFrom := scan.position } with
  | (.ok (some token), after) => finish token after
  | (.ok none, after) => (none, after)
  | (.error fault, after) => finish (.fault fault) after

end Prune.Script
