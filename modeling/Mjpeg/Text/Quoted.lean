import Mjpeg.Text.Invisible

/-!
# Quoted texts

`quoted` writes a text between double quotes, for error messages and log fields. A double
quote and a backslash are preceded by a backslash; NUL, tab, line feed and carriage return
have a letter each; every other invisible character is written by its number in hexadecimal.
A single quote stands as it is.
-/

namespace Mjpeg.Text

/-- One character as it stands between the quotes. -/
def quotedChar (c : Char) : List Char :=
  if c = '\x00' then ['\\', '0']
  else if c = '\t' then ['\\', 't']
  else if c = '\n' then ['\\', 'n']
  else if c = '\r' then ['\\', 'r']
  else if c = '"' then ['\\', '"']
  else if c = '\\' then ['\\', '\\']
  else if isInvisible c then ['\\', 'u', '\x7b'] ++ Nat.toDigits 16 c.toNat ++ ['\x7d']
  else [c]

/-- The text in double quotes. -/
def quoted (s : String) : String :=
  String.ofList ('"' :: s.toList.flatMap quotedChar ++ ['"'])

end Mjpeg.Text
