import ImpFront.Text.GraphemeExtend

/-!
# Quoted text

How listings write a string value: between double quotes, with a backslash before a double
quote or a backslash, the escapes `\0`, `\t`, `\r` and `\n` for those four controls, and every
other character that is not printable, or that is a grapheme-extending mark, as `\u` followed by
its code point in lowercase hexadecimal, without leading zeros, in braces. Every other
character, the single quote included, stands for itself.
-/

namespace ImpFront.Text

/-- The code point of a character as `\u` and lowercase hexadecimal digits in braces. -/
def unicodeEscape (c : Char) : List Char :=
  ['\\', 'u', '\x7b'] ++ Nat.toDigits 16 c.toNat ++ ['\x7d']

/-- How one character is written inside a quoted string. -/
def escapeChar (c : Char) : List Char :=
  if c = '\x00' then ['\\', '0']
  else if c = '\t' then ['\\', 't']
  else if c = '\r' then ['\\', 'r']
  else if c = '\n' then ['\\', 'n']
  else if c = '\\' then ['\\', '\\']
  else if c = '"' then ['\\', '"']
  else if isGraphemeExtend c || !isPrintable c then unicodeEscape c
  else [c]

/-- A string written between double quotes, each character escaped as `escapeChar` says. -/
def quote (s : String) : String :=
  String.ofList ('"' :: s.toList.flatMap escapeChar ++ ['"'])

end ImpFront.Text
