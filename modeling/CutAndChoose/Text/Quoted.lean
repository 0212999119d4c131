import CutAndChoose.Text.Printable

/-!
# CutAndChoose.Text.Quoted

Text in double quotes, as error messages quote it. Tab, line feed, carriage return, NUL, the quote
and the backslash have short escapes; every other hidden character is written as its code point in
hexadecimal between braces.
-/

namespace CutAndChoose

/-- The escape `u` with the code point of `c`. -/
def codePointEscape (c : Char) : List Char :=
  '\\' :: 'u' :: '\x7b' :: (Nat.toDigits 16 c.toNat ++ ['\x7d'])

def quotedChar (c : Char) : List Char :=
  if c = '\t' then ['\\', 't']
  else if c = '\n' then ['\\', 'n']
  else if c = '\r' then ['\\', 'r']
  else if c = '\x00' then ['\\', '0']
  else if c = '"' then ['\\', '"']
  else if c = '\\' then ['\\', '\\']
  else if isPrintable c then [c]
  else codePointEscape c

def quotedText (s : String) : String :=
  String.ofList ('"' :: (s.toList.flatMap quotedChar ++ ['"']))

end CutAndChoose
