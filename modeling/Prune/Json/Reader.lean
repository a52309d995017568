import Prune.Decimal
import Prune.Text.Quoted

/-!
# Reading JSON into known types

A configuration is read straight into its type, so the reader never builds a
tree: each type asks the text for the value it expects, and what is asked
decides which complaint the text earns. Text that belongs to an unknown key is
checked and skipped.

A complaint carries the line and the byte column where reading stopped. There
are two places to stop: at the byte just read (`fail`), and at the byte that
was only looked at (`failAhead`), which counts as one further. A complaint
about the type of a value first has no place (`failUnplaced`); it gets the
place where the reader stands when the value around it is given up (`placed`).
That may be further on, since a failed object or list is still asked for its
closing bracket.
-/

namespace Prune.Json

/-- A value found where another type was expected. -/
inductive Found where
  | null
  | boolean (value : Bool)
  | integer (value : Int)
  | floating (value : Float)
  | text (value : String)
  | sequence
  | map
deriving Inhabited

def Found.describe : Found → String
  | .null => "null"
  | .boolean value => "boolean `" ++ (if value then "true" else "false") ++ "`"
  | .integer value => "integer `" ++ toString value ++ "`"
  | .floating value => "floating point `" ++ Decimal.compact value ++ "`"
  | .text value => "string " ++ Text.quoted value
  | .sequence => "sequence"
  | .map => "map"

/-- Why a text is refused. -/
inductive Cause where
  | endInList
  | endInObject
  | endInString
  | endInValue
  | expectedColon
  | expectedListComma
  | expectedObjectComma
  | expectedWord
  | expectedValue
  | invalidEscape
  | invalidNumber
  | numberOutOfRange
  | controlCharacter
  | keyNotString
  | loneSurrogate
  | brokenSurrogate
  | trailingComma
  | trailingCharacters
  | wrongType (found : Found) (expected : String)
  | duplicateField (name : String)
deriving Inhabited

def Cause.message : Cause → String
  | .endInList => "EOF while parsing a list"
  | .endInObject => "EOF while parsing an object"
  | .endInString => "EOF while parsing a string"
  | .endInValue => "EOF while parsing a value"
  | .expectedColon => "expected `:`"
  | .expectedListComma => "expected `,` or `]`"
  | .expectedObjectComma => "expected `,` or `\x7d`"
  | .expectedWord => "expected ident"
  | .expectedValue => "expected value"
  | .invalidEscape => "invalid escape"
  | .invalidNumber => "invalid number"
  | .numberOutOfRange => "number out of range"
  | .controlCharacter =>
      "control character (\\u0000-\\u001F) found while parsing a string"
  | .keyNotString => "key must be a string"
  | .loneSurrogate => "lone leading surrogate in hex escape"
  | .brokenSurrogate => "unexpected end of hex escape"
  | .trailingComma => "trailing comma"
  | .trailingCharacters => "trailing characters"
  | .wrongType found expected =>
      "invalid type: " ++ found.describe ++ ", expected " ++ expected
  | .duplicateField name => "duplicate field `" ++ name ++ "`"

/-- A place in a text: a line, counted from one, and the bytes before it on that
line. -/
structure Place where
  line : Nat
  column : Nat
deriving Repr, DecidableEq

/-- A complaint about a text. -/
structure Failure where
  cause : Cause
  place : Option Place
deriving Inhabited

def Failure.message (failure : Failure) : String :=
  match failure.place with
  | none => failure.cause.message
  | some place =>
      failure.cause.message ++ " at line " ++ toString place.line ++
        " column " ++ toString place.column

/-- The bytes not yet read, and the place of the first of them. -/
structure Cursor where
  rest : List UInt8
  place : Place

def Cursor.start (bytes : List UInt8) : Cursor := ⟨bytes, ⟨1, 0⟩⟩

def Place.after (place : Place) (byte : UInt8) : Place :=
  if byte = 10 then ⟨place.line + 1, 0⟩ else ⟨place.line, place.column + 1⟩

def Cursor.advance (cursor : Cursor) : Cursor :=
  match cursor.rest with
  | [] => cursor
  | byte :: rest => ⟨rest, cursor.place.after byte⟩

/-- A reading of a text: it moves on also when it fails. -/
abbrev Reader := ExceptT Failure (StateM Cursor)

namespace Reader

def fail (cause : Cause) : Reader α := do
  throw ⟨cause, some (← get).place⟩

def failAhead (cause : Cause) : Reader α := do
  throw ⟨cause, some (← get).advance.place⟩

def failUnplaced (cause : Cause) : Reader α := throw ⟨cause, none⟩

/-- Gives a complaint without a place the place where the reader stands. -/
def placed (read : Reader α) : Reader α :=
  tryCatch read fun failure => do
    match failure.place with
    | some _ => throw failure
    | none => fail failure.cause

def peek : Reader (Option UInt8) := do return (← get).rest.head?

def skip : Reader Unit := modify Cursor.advance

def next : Reader (Option UInt8) := do
  let byte ← peek
  skip
  return byte

def byteOf (c : Char) : UInt8 := c.toNat.toUInt8

def isSpace (byte : UInt8) : Bool :=
  byte = 32 || byte = 10 || byte = 9 || byte = 13

def isDigit (byte : UInt8) : Bool := 48 ≤ byte && byte ≤ 57

def dropSpace : List UInt8 → Place → Cursor
  | [], place => ⟨[], place⟩
  | byte :: rest, place =>
      if isSpace byte then dropSpace rest (place.after byte)
      else ⟨byte :: rest, place⟩

/-- The next byte that is no white space, not yet read. -/
def peekValue : Reader (Option UInt8) := do
  modify fun cursor => dropSpace cursor.rest cursor.place
  peek

/-- The letters of a word after its first. -/
def word : List Char → Reader Unit
  | [] => return
  | c :: rest => do
      match ← next with
      | none => fail .endInValue
      | some byte => if byte = byteOf c then word rest else fail .expectedWord

/-- Reads digits into a number. -/
def digits : Nat → Reader Unit
  | 0 => return
  | fuel + 1 => do
      match ← peek with
      | some byte => if isDigit byte then skip; digits fuel else return
      | none => return

def remaining : Reader Nat := do return (← get).rest.length

/-! ## Strings -/

def hexValue (byte : UInt8) : Option Nat :=
  if isDigit byte then some (byte.toNat - 48)
  else if 97 ≤ byte && byte ≤ 102 then some (byte.toNat - 87)
  else if 65 ≤ byte && byte ≤ 70 then some (byte.toNat - 55)
  else none

/-- The four digits of an escape. -/
def hexEscape : Reader Nat := do
  match (← get).rest with
  | a :: b :: c :: d :: _ =>
      skip; skip; skip; skip
      match hexValue a, hexValue b, hexValue c, hexValue d with
      | some a, some b, some c, some d =>
          return ((a * 16 + b) * 16 + c) * 16 + d
      | _, _, _, _ => fail .invalidEscape
  | rest =>
      for _ in rest do skip
      fail .endInString

def charBytes (code : Nat) : List UInt8 :=
  (String.singleton (Char.ofNat code)).toUTF8.toList

/-- The character of a `\u` escape; a pair of surrogates makes one character. -/
def unicodeEscape : Reader (List UInt8) := do
  let high ← hexEscape
  if 0xDC00 ≤ high && high ≤ 0xDFFF then fail .loneSurrogate
  else if high < 0xD800 || 0xDBFF < high then return charBytes high
  else
    match ← peek with
    | none => fail .endInString
    | some byte =>
        skip
        if byte ≠ byteOf '\\' then fail .brokenSurrogate
    match ← peek with
    | none => fail .endInString
    | some byte =>
        skip
        if byte ≠ byteOf 'u' then fail .brokenSurrogate
    let low ← hexEscape
    if low < 0xDC00 || 0xDFFF < low then fail .loneSurrogate
    else return charBytes (0x10000 + (high - 0xD800) * 0x400 + (low - 0xDC00))

/-- The byte of a one-letter escape. -/
def simpleEscape (byte : UInt8) : Option UInt8 :=
  if byte = byteOf '"' || byte = byteOf '\\' || byte = byteOf '/' then some byte
  else if byte = byteOf 'b' then some 8
  else if byte = byteOf 'f' then some 12
  else if byte = byteOf 'n' then some 10
  else if byte = byteOf 'r' then some 13
  else if byte = byteOf 't' then some 9
  else none

def escape : Reader (List UInt8) := do
  match ← next with
  | none => fail .endInString
  | some byte =>
      match simpleEscape byte with
      | some plain => return [plain]
      | none => if byte = byteOf 'u' then unicodeEscape else fail .invalidEscape

def stringBytes : Nat → List UInt8 → Reader (List UInt8)
  | 0, _ => fail .endInString
  | fuel + 1, before => do
      match ← peek with
      | none => fail .endInString
      | some byte =>
          skip
          if byte = byteOf '"' then return before.reverse
          else if byte = byteOf '\\' then
            let bytes ← escape
            stringBytes fuel (bytes.reverse ++ before)
          else if byte < 32 then fail .controlCharacter
          else stringBytes fuel (byte :: before)

/-- The text of a string whose opening quote is read. -/
def stringBody : Reader String := do
  let bytes ← stringBytes ((← remaining) + 1) []
  return (String.fromUTF8? ⟨bytes.toArray⟩).getD ""

def skipString : Nat → Reader Unit
  | 0 => fail .endInString
  | fuel + 1 => do
      match ← peek with
      | none => fail .endInString
      | some byte =>
          if byte = byteOf '"' then skip
          else if byte = byteOf '\\' then
            skip
            match ← next with
            | none => fail .endInString
            | some letter =>
                if letter = byteOf 'u' then discard hexEscape
                else if (simpleEscape letter).isNone then fail .invalidEscape
            skipString fuel
          else if byte < 32 then fail .controlCharacter
          else
            skip
            skipString fuel

/-! ## Numbers -/

def power10 (n : Nat) : Float := Float.ofScientific 1 false n

/-- A significand times a power of ten, in floating point. -/
def floatFrom : Nat → Bool → Float → Int → Reader Float
  | 0, positive, value, _ => return if positive then value else -value
  | fuel + 1, positive, value, exponent =>
      if exponent.natAbs ≤ 308 then
        if 0 ≤ exponent then do
          let value := value * power10 exponent.toNat
          if value.isInf then fail .numberOutOfRange
          return if positive then value else -value
        else do
          let value := value / power10 exponent.natAbs
          return if positive then value else -value
      else if value == 0.0 then return if positive then value else -value
      else if 0 ≤ exponent then fail .numberOutOfRange
      else floatFrom fuel positive (value / power10 308) (exponent + 308)

def makeFloat (positive : Bool) (significand : Nat) (exponent : Int) :
    Reader Float :=
  floatFrom 20 positive (Float.ofNat significand) exponent

def wordMax : Nat := 0xFFFFFFFFFFFFFFFF

def exponentMax : Nat := 0x7FFFFFFF

/-- The digits of an exponent; `none` when it grows out of all bounds. -/
def exponentDigits : Nat → Nat → Reader (Option Nat)
  | 0, exponent => return some exponent
  | fuel + 1, exponent => do
      match ← peek with
      | some byte =>
          if isDigit byte then
            skip
            let exponent := exponent * 10 + (byte.toNat - 48)
            if exponentMax < exponent then return none
            exponentDigits fuel exponent
          else return some exponent
      | none => return some exponent

def exponentPart (positive : Bool) (significand : Nat) (start : Int) :
    Reader Float := do
  skip
  let up ← do
    match ← peek with
    | some byte =>
        if byte = byteOf '+' then skip; pure true
        else if byte = byteOf '-' then skip; pure false
        else pure true
    | none => pure true
  match ← next with
  | none => fail .endInValue
  | some byte =>
      if !isDigit byte then fail .invalidNumber
      match ← exponentDigits ((← remaining) + 1) (byte.toNat - 48) with
      | some exponent =>
          makeFloat positive significand
            (if up then start + exponent else start - exponent)
      | none =>
          if significand ≠ 0 && up then fail .numberOutOfRange
          digits ((← remaining) + 1)
          return if positive then 0.0 else -0.0

def isExponent (byte : Option UInt8) : Bool :=
  byte = some (byteOf 'e') || byte = some (byteOf 'E')

/-- Digits after the point: the significand and how many of them it took in. -/
def fractionDigits : Nat → Nat → Nat → Reader (Nat × Nat)
  | 0, significand, count => return (significand, count)
  | fuel + 1, significand, count => do
      match ← peek with
      | some byte =>
          if isDigit byte then
            let more := significand * 10 + (byte.toNat - 48)
            if wordMax < more then
              digits ((← remaining) + 1)
              return (significand, count)
            skip
            fractionDigits fuel more (count + 1)
          else return (significand, count)
      | none => return (significand, count)

def fractionPart (positive : Bool) (significand : Nat) (start : Int) :
    Reader Float := do
  skip
  match ← peek with
  | none => failAhead .endInValue
  | some byte => if !isDigit byte then failAhead .invalidNumber
  let (significand, count) ← fractionDigits ((← remaining) + 1) significand 0
  if isExponent (← peek) then exponentPart positive significand (start - count)
  else makeFloat positive significand (start - count)

/-- A whole number too large for a machine word. -/
def longInteger : Nat → Bool → Nat → Nat → Reader Float
  | 0, positive, significand, exponent =>
      makeFloat positive significand exponent
  | fuel + 1, positive, significand, exponent => do
      match ← peek with
      | some byte =>
          if isDigit byte then
            skip
            longInteger fuel positive significand (exponent + 1)
          else if byte = byteOf '.' then
            fractionPart positive significand exponent
          else if isExponent (some byte) then
            exponentPart positive significand exponent
          else makeFloat positive significand exponent
      | none => makeFloat positive significand exponent

def numberTail (positive : Bool) (significand : Nat) : Reader Found := do
  let byte ← peek
  if byte = some (byteOf '.') then
    return .floating (← fractionPart positive significand 0)
  else if isExponent byte then
    return .floating (← exponentPart positive significand 0)
  else if positive then return .integer significand
  else if significand = 0 || 0x8000000000000000 < significand then
    return .floating (-(Float.ofNat significand))
  else return .integer (-(significand : Int))

def integerDigits : Nat → Bool → Nat → Reader Found
  | 0, positive, significand => numberTail positive significand
  | fuel + 1, positive, significand => do
      match ← peek with
      | some byte =>
          if isDigit byte then
            let more := significand * 10 + (byte.toNat - 48)
            if wordMax < more then
              return .floating
                (← longInteger ((← remaining) + 1) positive significand 0)
            skip
            integerDigits fuel positive more
          else numberTail positive significand
      | none => numberTail positive significand

/-- A number after its sign. -/
def number (positive : Bool) : Reader Found := do
  match ← next with
  | none => fail .endInValue
  | some byte =>
      if byte = byteOf '0' then
        match ← peek with
        | some digit =>
            if isDigit digit then failAhead .invalidNumber
            else numberTail positive 0
        | none => numberTail positive 0
      else if isDigit byte then
        integerDigits ((← remaining) + 1) positive (byte.toNat - 48)
      else fail .invalidNumber

def skipExponent : Reader Unit := do
  skip
  match ← peek with
  | some byte => if byte = byteOf '+' || byte = byteOf '-' then skip
  | none => pure ()
  match ← next with
  | some byte =>
      if isDigit byte then digits ((← remaining) + 1) else fail .invalidNumber
  | none => fail .invalidNumber

def skipNumber : Reader Unit := do
  match ← next with
  | none => fail .invalidNumber
  | some byte =>
      if byte = byteOf '0' then
        match ← peek with
        | some digit => if isDigit digit then failAhead .invalidNumber
        | none => pure ()
      else if isDigit byte then digits ((← remaining) + 1)
      else fail .invalidNumber
  let byte ← peek
  if byte = some (byteOf '.') then
    skip
    match ← peek with
    | some digit =>
        if isDigit digit then digits ((← remaining) + 1)
        else failAhead .invalidNumber
    | none => failAhead .invalidNumber
    if isExponent (← peek) then skipExponent
  else if isExponent byte then skipExponent

/-! ## Values that are not wanted -/

/-- Refuses the value ahead, which is not of the expected type. -/
def refuse (expected : String) : Reader α := placed do
  match ← peek with
  | none => failAhead .expectedValue
  | some byte =>
      if byte = byteOf 'n' then
        skip
        word ['u', 'l', 'l']
        failUnplaced (.wrongType .null expected)
      else if byte = byteOf 't' then
        skip
        word ['r', 'u', 'e']
        failUnplaced (.wrongType (.boolean true) expected)
      else if byte = byteOf 'f' then
        skip
        word ['a', 'l', 's', 'e']
        failUnplaced (.wrongType (.boolean false) expected)
      else if byte = byteOf '-' then
        skip
        failUnplaced (.wrongType (← number false) expected)
      else if isDigit byte then
        failUnplaced (.wrongType (← number true) expected)
      else if byte = byteOf '"' then
        skip
        failUnplaced (.wrongType (.text (← stringBody)) expected)
      else if byte = byteOf '[' then
        failUnplaced (.wrongType .sequence expected)
      else if byte = byteOf '\x7b' then failUnplaced (.wrongType .map expected)
      else failAhead .expectedValue

/-- A bracket that is open. -/
inductive Open where
  | list
  | object
deriving DecidableEq

def Open.close : Open → UInt8
  | .list => byteOf ']'
  | .object => byteOf '\x7d'

def Open.atEnd : Open → Cause
  | .list => .endInList
  | .object => .endInObject

def Open.atOther : Open → Cause
  | .list => .expectedListComma
  | .object => .expectedObjectComma

/-- A scalar, or the bracket that opens a list or an object. -/
def skipScalar : Reader (Option Open) := do
  match ← peekValue with
  | none => failAhead .endInValue
  | some byte =>
      if byte = byteOf 'n' then skip; word ['u', 'l', 'l']; return none
      else if byte = byteOf 't' then skip; word ['r', 'u', 'e']; return none
      else if byte = byteOf 'f' then
        skip; word ['a', 'l', 's', 'e']; return none
      else if byte = byteOf '-' then skip; skipNumber; return none
      else if isDigit byte then skipNumber; return none
      else if byte = byteOf '"' then
        skip; skipString ((← remaining) + 1); return none
      else if byte = byteOf '[' then skip; return some .list
      else if byte = byteOf '\x7b' then skip; return some .object
      else failAhead .expectedValue

/-- Goes on inside the open brackets, innermost first, until another value is
due. `afterValue` says whether a comma has to come before it. -/
def toNextValue : Nat → Bool → List Open → Reader (List Open)
  | _, _, [] => return []
  | 0, _, brackets => return brackets
  | fuel + 1, afterValue, bracket :: outer => do
      match ← peekValue with
      | none => failAhead bracket.atEnd
      | some byte =>
          if afterValue && byte = byteOf ',' then
            skip
            return bracket :: outer
          else if byte = bracket.close then
            skip
            toNextValue fuel true outer
          else if afterValue then failAhead bracket.atOther
          else return bracket :: outer

/-- The key of an object's entry and the colon after it. -/
def skipKey : Reader Unit := do
  match ← peekValue with
  | none => failAhead .endInObject
  | some byte =>
      if byte ≠ byteOf '"' then failAhead .keyNotString
      skip
  skipString ((← remaining) + 1)
  match ← peekValue with
  | none => failAhead .endInObject
  | some byte => if byte = byteOf ':' then skip else failAhead .expectedColon

def skipValues : Nat → List Open → Reader Unit
  | 0, _ => return
  | fuel + 1, brackets => do
      let opened ← skipScalar
      let brackets ← match opened with
        | some bracket => toNextValue fuel false (bracket :: brackets)
        | none => toNextValue fuel true brackets
      match brackets with
      | [] => return
      | bracket :: _ =>
          if bracket = .object then skipKey
          skipValues fuel brackets

/-- Reads past a value of any type. -/
def skipValue : Reader Unit := do skipValues ((← remaining) + 2) []

/-! ## Values of a known type -/

def text : Reader String := do
  match ← peekValue with
  | none => failAhead .endInValue
  | some byte =>
      if byte = byteOf '"' then
        skip
        stringBody
      else refuse "a string"

def boolean : Reader Bool := do
  match ← peekValue with
  | none => failAhead .endInValue
  | some byte =>
      if byte = byteOf 't' then skip; word ['r', 'u', 'e']; return true
      else if byte = byteOf 'f' then
        skip; word ['a', 'l', 's', 'e']; return false
      else refuse "a boolean"

/-- Whether a list holds another element; the comma before it is read. -/
def moreElements (first : Bool) : Reader Bool := do
  match ← peekValue with
  | none => failAhead .endInList
  | some byte =>
      if byte = byteOf ']' then return false
      else if first then return true
      else if byte = byteOf ',' then
        skip
        match ← peekValue with
        | some byte =>
            if byte = byteOf ']' then failAhead .trailingComma else return true
        | none => failAhead .endInValue
      else failAhead .expectedListComma

/-- Whether an object holds another entry; the comma before it is read. -/
def moreEntries (first : Bool) : Reader Bool := do
  let key (byte : Option UInt8) : Reader Bool :=
    match byte with
    | none => failAhead .endInValue
    | some byte =>
        if byte = byteOf '"' then return true
        else if byte = byteOf '\x7d' then failAhead .trailingComma
        else failAhead .keyNotString
  match ← peekValue with
  | none => failAhead .endInObject
  | some byte =>
      if byte = byteOf '\x7d' then return false
      else if first then key (some byte)
      else if byte = byteOf ',' then
        skip
        key (← peekValue)
      else failAhead .expectedObjectComma

def closeList : Reader Unit := do
  match ← peekValue with
  | none => failAhead .endInList
  | some byte =>
      if byte = byteOf ']' then skip
      else if byte = byteOf ',' then
        skip
        match ← peekValue with
        | some byte =>
            if byte = byteOf ']' then failAhead .trailingComma
            else failAhead .trailingCharacters
        | none => failAhead .trailingCharacters
      else failAhead .trailingCharacters

def closeObject : Reader Unit := do
  match ← peekValue with
  | none => failAhead .endInObject
  | some byte =>
      if byte = byteOf '\x7d' then skip
      else if byte = byteOf ',' then failAhead .trailingComma
      else failAhead .trailingCharacters

/-- Runs the body of a bracket and then the closing bracket; the first complaint
counts, but the closing bracket is looked for in any case. -/
def within (body : Reader α) (close : Reader Unit) : Reader α := placed do
  let outcome ← tryCatch (do return Except.ok (← body)) fun failure =>
      return Except.error failure
  let closed ← tryCatch (do close; return Except.ok ()) fun failure =>
      return Except.error failure
  match outcome, closed with
  | .ok value, .ok () => return value
  | .error failure, _ => throw failure
  | _, .error failure => throw failure

def elements (read : Reader α) : Nat → Bool → Reader (List α)
  | 0, _ => return []
  | fuel + 1, first => do
      if ← moreElements first then
        let value ← read
        return value :: (← elements read fuel false)
      else return []

/-- A list of values of one type. -/
def list (read : Reader α) : Reader (List α) := do
  match ← peekValue with
  | none => failAhead .endInValue
  | some byte =>
      if byte = byteOf '[' then
        skip
        within (do elements read ((← remaining) + 1) true) closeList
      else refuse "a sequence"

/-- The colon between a key and its value. -/
def colon : Reader Unit := do
  match ← peekValue with
  | none => failAhead .endInObject
  | some byte => if byte = byteOf ':' then skip else failAhead .expectedColon

/-- Nothing but white space may follow. -/
def finish : Reader Unit := do
  match ← peekValue with
  | none => return
  | some _ => failAhead .trailingCharacters

end Reader

/-- Reads a whole text. -/
def read (reader : Reader α) (text : String) : Except Failure α :=
  let whole : Reader α := do
    let value ← reader
    Reader.finish
    return value
  (whole.run.run (Cursor.start text.toUTF8.toList)).1

end Prune.Json
