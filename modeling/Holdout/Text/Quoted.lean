/-
This file quotes a text for a programmer: in double quotes, with backslashes before quotes and
backslashes, short names for the common controls, and codes for everything else that cannot be seen.
-/

import Holdout.Text.Hex
import Holdout.Text.Printable

namespace Holdout

namespace Text

/-- The hexadecimal digits of a code, at most `fuel` of them. -/
def codeDigits : Nat → Nat → List Char
  | 0, _ => []
  | fuel + 1, code =>
    if code < 16 then [hexDigit code] else codeDigits fuel (code / 16) ++ [hexDigit (code % 16)]

/-- A character inside of quotes. -/
def quotedChar (character : Char) : List Char :=
  if character = '"' then ['\\', '"']
  else if character = '\\' then ['\\', '\\']
  else if character = '\n' then ['\\', 'n']
  else if character = '\r' then ['\\', 'r']
  else if character = '\t' then ['\\', 't']
  else if character.toNat = 0 then ['\\', '0']
  else if isPrintable character then [character]
  else ['\\', 'u', '\x7b'] ++ codeDigits 6 character.toNat ++ ['\x7d']

/-- A text in quotes. -/
def quoted (text : String) : String :=
  String.ofList ('"' :: text.toList.flatMap quotedChar ++ ['"'])

end Text

end Holdout
