import Mjpeg.Bytes

/-!
# Percent-encoding

Where a character may not stand for itself, its UTF-8 octets are written as a percent sign and
two hexadecimal digits each. Which ASCII characters that concerns depends on the place in the
URL; control characters and everything outside ASCII are always encoded.
-/

namespace Mjpeg.Url

/-- A control character of ASCII. -/
def isControl (c : Char) : Bool := c.toNat < 0x20 || c.toNat == 0x7F

/-- The characters that are encoded in a fragment, besides controls. -/
def fragmentSet : List Char := [' ', '"', '<', '>', '\x60']

/-- The characters that are encoded in a query, besides controls. -/
def querySet : List Char := [' ', '"', '#', '<', '>']

/-- The characters that are encoded in a path, besides controls. -/
def pathSet : List Char := fragmentSet ++ ['#', '?', '\x7b', '\x7d']

/-- The characters that are encoded in a user name or a password, besides controls. -/
def userinfoSet : List Char := pathSet ++ ['/', ':', ';', '=', '@', '[', '\\', ']', '^', '|']

/-- An octet as a percent sign and two digits. -/
def encodeOctet (b : UInt8) : List Char :=
  ['%', (Nat.digitChar (b.toNat / 16)).toUpper, (Nat.digitChar (b.toNat % 16)).toUpper]

/-- One character as it stands in a place where those of `set` are encoded. -/
def encodeChar (set : List Char) (c : Char) : List Char :=
  if c.toNat < 0x80 && !isControl c && !set.contains c then [c]
  else (String.utf8EncodeChar c).flatMap encodeOctet

/-- A text as it stands in a place where the characters of `set` are encoded. -/
def encode (set : List Char) (cs : List Char) : List Char := cs.flatMap (encodeChar set)

/-- The value of a hexadecimal digit. -/
def hexValue? (c : Char) : Option Nat :=
  if c.isDigit then some (c.toNat - '0'.toNat)
  else if 'a' ≤ c ∧ c ≤ 'f' then some (c.toNat - 'a'.toNat + 10)
  else if 'A' ≤ c ∧ c ≤ 'F' then some (c.toNat - 'A'.toNat + 10)
  else none

/-- The octets that a text with percent-encoding spells. -/
def decode : List Char → Bytes
  | [] => []
  | '%' :: a :: b :: cs =>
    match hexValue? a, hexValue? b with
    | some x, some y => (16 * x + y).toUInt8 :: decode cs
    | _, _ => 37 :: decode (a :: b :: cs)
  | c :: cs => String.utf8EncodeChar c ++ decode cs

end Mjpeg.Url
