/-
This file holds the characters with the White_Space property of Unicode and cuts them off both
ends of a text.
-/

namespace Holdout

namespace Text

/-- Whether a character is white space: the 25 characters with that property. -/
def isBlank (character : Char) : Bool :=
  let code := character.toNat
  (0x9 ≤ code && code ≤ 0xD) || code == 0x20 || code == 0x85 || code == 0xA0 || code == 0x1680 ||
    (0x2000 ≤ code && code ≤ 0x200A) || code == 0x2028 || code == 0x2029 || code == 0x202F ||
    code == 0x205F || code == 0x3000

/-- A text without the white space at its front. -/
def trimStart (text : List Char) : List Char := text.dropWhile isBlank

/-- A text without the white space at its ends. -/
def trim (text : List Char) : List Char := (trimStart (trimStart text).reverse).reverse

end Text

end Holdout
