/-
This file defines decimal numbers in scientific form and ties them to doubles in both
directions. A finite double is a natural number times a power of two, so it is also a natural
number times a power of ten, and that decimal is computed exactly. The other way round a decimal
goes to the nearest double, a tie to the even one. A decimal is put into its normal form first,
without zeros at the end, so that two ways to write one number always give the same double.
-/

import Holdout.Naturals

namespace Holdout

/-- The number `digits * 10 ^ exponent`. -/
structure Decimal where
  digits : Nat
  exponent : Int
deriving DecidableEq, Repr, Inhabited

namespace Decimal

/-! ### The normal form -/

/-- Moves zeros at the end of the digits into the exponent, at most `fuel` of them. -/
def trim : Nat → Decimal → Decimal
  | 0, decimal => decimal
  | fuel + 1, decimal =>
    if decimal.digits % 10 = 0 then trim fuel ⟨decimal.digits / 10, decimal.exponent + 1⟩
    else decimal

/-- The same number with no zero at the end of its digits; zero has the exponent zero. A number
has fewer decimal zeros at its end than binary digits, so the fuel reaches. -/
def normal (decimal : Decimal) : Decimal :=
  if decimal.digits = 0 then ⟨0, 0⟩ else trim (decimal.digits.log2 + 1) decimal

/-! ### Digits as text -/

/-- The decimal digits of a number, most significant first; zero has one digit. -/
def digitsOf (number : Nat) : List Char := Nat.toDigits 10 number

/-- The digits of a number with zeros in front of them, up to a width. -/
def padded (width number : Nat) : List Char :=
  let digits := digitsOf number
  List.replicate (width - digits.length) '0' ++ digits

/-- Whether a character is one of the ten decimal digits of ASCII. -/
def isDigit (character : Char) : Bool := '0' ≤ character && character ≤ '9'

/-- The value of a digit. -/
def digitValue (character : Char) : Nat := character.toNat - '0'.toNat

/-- The number that a run of digits stands for. -/
def valueOf (text : List Char) : Nat :=
  text.foldl (fun value character => 10 * value + digitValue character) 0

/-- The decimal with these digits before and after its point, times a power of ten. -/
def ofParts (whole fraction : List Char) (exponent : Int) : Decimal :=
  ⟨valueOf (whole ++ fraction), exponent - fraction.length⟩

/-! ### From decimals to doubles -/

/-- The double nearest to a decimal; a tie goes to the even one, and what lies past the largest
finite double is infinite. -/
def toFloat (decimal : Decimal) : Float :=
  match decimal.normal with
  | ⟨digits, .ofNat exponent⟩ => Float.ofScientific digits false exponent
  | ⟨digits, .negSucc exponent⟩ => Float.ofScientific digits true (exponent + 1)

/-- A double with its sign: `-0.0` is the negated zero. -/
def signed (negative : Bool) (magnitude : Float) : Float :=
  if negative then -magnitude else magnitude

/-! ### From doubles to decimals -/

/-- Whether the sign bit of a double is set. -/
def isNegative (number : Float) : Bool := twoTo 63 ≤ number.toBits.toNat

/-- The magnitude of a finite double as a natural number times a power of two. -/
def binaryParts (number : Float) : Nat × Int :=
  let bits : Nat := number.toBits.toNat
  let biased : Nat := bits / twoTo 52 % twoTo 11
  let fraction : Nat := bits % twoTo 52
  if biased = 0 then (fraction, -1074) else (fraction + twoTo 52, Int.ofNat biased - 1075)

/-- The exact value of `mantissa * 2 ^ exponent`: below the point a half is five tenths. -/
def ofBinary (mantissa : Nat) : Int → Decimal
  | .ofNat exponent => ⟨mantissa * twoTo exponent, 0⟩
  | .negSucc exponent => ⟨mantissa * fiveTo (exponent + 1), .negSucc exponent⟩

/-- The magnitude of a finite double, without rounding. -/
def exact (number : Float) : Decimal :=
  let parts := binaryParts number
  ofBinary parts.1 parts.2

end Decimal

end Holdout
