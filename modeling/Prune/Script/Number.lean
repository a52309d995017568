import Prune.Decimal

/-!
# Number literals

The value of the text of a number literal. Digits may be separated by
underscores; a letter after a leading zero gives the radix; and a whole number
that starts with a zero and has only octal digits is an octal number.
-/

namespace Prune.Script

def digitValue (c : Char) : Nat :=
  if c.isDigit then c.toNat - 48
  else if 97 ≤ c.toNat then c.toNat - 87
  else c.toNat - 55

/-- The number that digits stand for. -/
def digitsValue (radix : Nat) (digits : List Char) : Nat :=
  digits.foldl (fun n c => n * radix + digitValue c) 0

def isDigitOf (radix : Nat) (c : Char) : Bool :=
  (c.isDigit || ('a' ≤ c && c ≤ 'f') || ('A' ≤ c && c ≤ 'F')) &&
    digitValue c < radix

/-- The whole number that the text of an exponent stands for, with its sign. -/
def exponentValue : List Char → Bool × Nat
  | '-' :: digits => (true, digitsValue 10 digits)
  | '+' :: digits => (false, digitsValue 10 digits)
  | digits => (false, digitsValue 10 digits)

/-- The value of a decimal with a fraction and an exponent. -/
def decimalValue (text : List Char) : Float :=
  let isMark (c : Char) := c = 'e' || c = 'E'
  let mantissa := text.takeWhile (!isMark ·)
  let whole := mantissa.takeWhile (· ≠ '.')
  let fraction := (mantissa.dropWhile (· ≠ '.')).drop 1
  let (negative, exponent) :=
    exponentValue ((text.dropWhile (!isMark ·)).drop 1)
  let digits := digitsValue 10 (whole ++ fraction)
  if negative then Float.ofScientific digits true (exponent + fraction.length)
  else if fraction.length ≤ exponent then
    Float.ofScientific digits false (exponent - fraction.length)
  else Float.ofScientific digits true (fraction.length - exponent)

/-- The value of a number literal. -/
def numberValue (raw : List Char) : Float :=
  let text := raw.filter (· ≠ '_')
  match text with
  | '0' :: 'x' :: digits | '0' :: 'X' :: digits =>
      Float.ofNat (digitsValue 16 digits)
  | '0' :: 'o' :: digits | '0' :: 'O' :: digits =>
      Float.ofNat (digitsValue 8 digits)
  | '0' :: 'b' :: digits | '0' :: 'B' :: digits =>
      Float.ofNat (digitsValue 2 digits)
  | '0' :: d :: digits =>
      if (d :: digits).all (isDigitOf 8) then
        Float.ofNat (digitsValue 8 (d :: digits))
      else decimalValue text
  | text => decimalValue text

end Prune.Script
