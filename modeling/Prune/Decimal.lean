/-!
# Decimal text of binary numbers

A double is a whole number times a power of two. Its shortest decimal is the
one with the fewest digits among the decimals that round to it, and of two
such decimals the nearer. The search tries one digit, then two, and so on:
every decimal with `n` digits lies on a grid, and if any point of the grid
rounds to the number, one of the two neighbours of the number does. Seventeen
digits always suffice.

All of it is exact arithmetic on whole numbers. A number is given in quarters
of its last binary place, since the borders of the interval that rounds to it
are halves of that place, or a quarter below a power of two.

`plain` writes a number without an exponent; `compact` is the form that goes
over to an exponent for the very large and the very small.
-/

namespace Prune.Decimal

/-- The first number that the fraction of a double cannot be; the exponent
stands above it. -/
def fractionBound : Nat := 0x10000000000000

/-- The weight of the sign in the bits of a double. -/
def signWeight : Nat := 0x8000000000000000

/-- The interval of numbers that round to a double, in quarters of the place
`2 ^ exponent`. -/
structure Interval where
  low : Nat
  value : Nat
  high : Nat
  exponent : Int
  closed : Bool
deriving Repr

/-- The interval of a positive finite double, from its bits. -/
def intervalOfBits (bits : Nat) : Interval :=
  let field : Nat := bits / fractionBound % 2048
  let fraction : Nat := bits % fractionBound
  let mantissa : Nat := if field = 0 then fraction else fractionBound + fraction
  let place : Nat := if field = 0 then 1 else field
  let exponent : Int := (place : Int) - 1075
  let narrow := fraction = 0 && 1 < field
  { low := 4 * mantissa - (if narrow then 1 else 2)
    value := 4 * mantissa
    high := 4 * mantissa + 2
    exponent := exponent - 2
    closed := mantissa % 2 = 0 }

/-- A fraction times a power of ten, as a numerator and a denominator. -/
def scale (num den : Nat) (power : Int) : Nat × Nat :=
  if 0 ≤ power then (num * Nat.pow 10 power.toNat, den)
  else (num, den * Nat.pow 10 (-power).toNat)

/-- Quarters of a binary place as a numerator and a denominator. -/
def Interval.fraction (i : Interval) (quarters : Nat) : Nat × Nat :=
  if 0 ≤ i.exponent then (quarters * Nat.pow 2 i.exponent.toNat, 1)
  else (quarters, Nat.pow 2 (-i.exponent).toNat)

def lessEqual (a b : Nat × Nat) : Bool := a.1 * b.2 ≤ b.1 * a.2

def less (a b : Nat × Nat) : Bool := a.1 * b.2 < b.1 * a.2

def Interval.holds (i : Interval) (point : Nat × Nat) : Bool :=
  if i.closed then
    lessEqual (i.fraction i.low) point && lessEqual point (i.fraction i.high)
  else less (i.fraction i.low) point && less point (i.fraction i.high)

/-- The number of digits before the decimal point; not positive if the number is
below one tenth. -/
def pointPosition (num den : Nat) : Int :=
  if den ≤ num then (Nat.toDigits 10 (num / den)).length
  else
    let zeros := (Nat.toDigits 10 (den / num)).length
    if num * Nat.pow 10 (zeros - 1) = den then 2 - zeros else 1 - zeros

/-- The neighbour of the number on the grid of `n` digits that rounds to it, if
one does. -/
def gridPoint (i : Interval) (position : Int) (n : Nat) : Option (Nat × Int) :=
  let power := position - n
  let (num, den) := i.fraction i.value
  let (num, den) := scale num den (-power)
  let below := num / den
  let remainder := num % den
  let hit (digits : Nat) := i.holds (scale digits 1 power)
  let nearer :=
    if 2 * remainder < den || (2 * remainder = den && below % 2 = 0) then below
    else below + 1
  let farther := if nearer = below then below + 1 else below
  if hit nearer then some (nearer, power)
  else if hit farther then some (farther, power)
  else none

def shortestFrom (i : Interval) (position : Int) : Nat → Nat → Nat × Int
  | 0, _ => (i.value, i.exponent)
  | fuel + 1, n =>
      match gridPoint i position n with
      | some point => point
      | none => shortestFrom i position fuel (n + 1)

/-- The digits of the shortest decimal of a positive finite double, and the
power of ten of the last digit. -/
def shortest (bits : Nat) : Nat × Int :=
  let i := intervalOfBits bits
  let (num, den) := i.fraction i.value
  shortestFrom i (pointPosition num den) 18 1

/-- Digits without trailing zeros. -/
def trim (digits : List Char) (power : Int) : List Char × Int :=
  let kept := (digits.reverse.dropWhile (· = '0')).reverse
  if kept = [] then (['0'], 0)
  else (kept, power + (digits.length - kept.length : Nat))

def zeros (n : Nat) : List Char := List.replicate n '0'

/-- Digits times a power of ten, positionally; a whole number has no point. -/
def positional (digits : List Char) (power : Int) : List Char :=
  if 0 ≤ power then digits ++ zeros power.toNat
  else
    let places := (-power).toNat
    if places < digits.length then
      digits.take (digits.length - places) ++ '.' ::
        digits.drop (digits.length - places)
    else '0' :: '.' :: zeros (places - digits.length) ++ digits

/-- Digits with the point after the first of them, and an exponent. -/
def scientific (digits : List Char) (power : Int) : List Char :=
  let exponent := power + digits.length - 1
  let head := match digits with
    | [] => []
    | [d] => [d]
    | d :: rest => d :: '.' :: rest
  head ++ 'e' ::
    (if exponent < 0 then '-' :: Nat.toDigits 10 (-exponent).toNat
      else Nat.toDigits 10 exponent.toNat)

def magnitudeDigits (bits : Nat) : List Char × Int :=
  if bits % signWeight = 0 then (['0'], 0)
  else
    let (digits, power) := shortest (bits % signWeight)
    trim (Nat.toDigits 10 digits) power

def isNegative (bits : Nat) : Bool := signWeight ≤ bits

def isFinite (bits : Nat) : Bool := bits / fractionBound % 2048 ≠ 2047

/-- The shortest decimal of a double without an exponent. -/
def plain (x : Float) : String :=
  let bits := x.toBits.toNat
  let sign := if isNegative bits then ['-'] else []
  if isFinite bits then
    let (digits, power) := magnitudeDigits bits
    String.ofList (sign ++ positional digits power)
  else if bits % fractionBound = 0 then String.ofList (sign ++ ['i', 'n', 'f'])
  else "NaN"

/-- The shortest decimal of a finite double; a whole number keeps one decimal
place, and an exponent is written from `10 ^ 16` upwards and below `10 ^ -5`. -/
def compact (x : Float) : String :=
  let bits := x.toBits.toNat
  let sign := if isNegative bits then ['-'] else []
  let (digits, power) := magnitudeDigits bits
  let position := power + digits.length
  let body :=
    if digits = ['0'] then ['0', '.', '0']
    else if 0 ≤ power && position ≤ 16 then
      positional digits power ++ ['.', '0']
    else if -5 < position && position ≤ 16 then positional digits power
    else scientific digits power
  String.ofList (sign ++ body)

end Prune.Decimal
