/-
This file names the powers that formats of numbers are made of, and the total of some counts.
-/

namespace Holdout

/-- The power of two with an exponent. -/
def twoTo (exponent : Nat) : Nat := Nat.pow 2 exponent

/-- The power of five with an exponent. -/
def fiveTo (exponent : Nat) : Nat := Nat.pow 5 exponent

/-- The power of ten with an exponent. -/
def tenTo (exponent : Nat) : Nat := Nat.pow 10 exponent

/-- The total of some counts. -/
def total (counts : List Nat) : Nat := counts.foldr Nat.add 0

end Holdout
