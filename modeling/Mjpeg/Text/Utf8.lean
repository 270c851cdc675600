import Mjpeg.Bytes

/-!
# Reading bytes as text

`decode?` reads a byte string that is UTF-8 throughout. `decodeLossy` reads any byte string:
each maximal run of octets that begins a character without completing it, and each octet
that begins none, is read as one replacement character U+FFFD.
-/

namespace Mjpeg.Text

/-- The character whose encoding the bytes begin with. -/
def firstChar? (bs : Bytes) : Option Char :=
  (bs.take 4).toByteArray.utf8DecodeChar? 0

/-- How many octets follow the lead octet `b` in an encoding, and the range in which the first
of them must lie. It is narrower than that of the others where a longer encoding, a
surrogate or a number above U+10FFFF would be spelt. -/
def followers (b : UInt8) : Nat × UInt8 × UInt8 :=
  if b < 0xC2 then (0, 0, 0)
  else if b < 0xE0 then (1, 0x80, 0xBF)
  else if b == 0xE0 then (2, 0xA0, 0xBF)
  else if b == 0xED then (2, 0x80, 0x9F)
  else if b < 0xF0 then (2, 0x80, 0xBF)
  else if b == 0xF0 then (3, 0x90, 0xBF)
  else if b < 0xF4 then (3, 0x80, 0xBF)
  else if b == 0xF4 then (3, 0x80, 0x8F)
  else (0, 0, 0)

/-- How many of the octets behind a lead octet, at most `n`, can belong to its character. -/
private def followersTaken : Nat → UInt8 → UInt8 → Bytes → Nat
  | 0, _, _, _ => 0
  | _, _, _, [] => 0
  | n + 1, low, high, b :: bs =>
    if low ≤ b ∧ b ≤ high then 1 + followersTaken n 0x80 0xBF bs else 0

/-- The number of octets, at least one, that one replacement character stands for. -/
def brokenLength : Bytes → Nat
  | [] => 1
  | b :: bs =>
    let (n, low, high) := followers b
    1 + followersTaken n low high bs

theorem brokenLength_pos (bs : Bytes) : 0 < brokenLength bs := by
  cases bs with
  | nil => simp [brokenLength]
  | cons b bs => simp only [brokenLength]; omega

theorem length_sub_utf8Size_lt {bs : Bytes} (h : bs ≠ []) (c : Char) :
    bs.length - c.utf8Size < bs.length := by
  have := List.length_pos_iff.mpr h
  have := c.utf8Size_pos
  omega

theorem length_sub_brokenLength_lt {bs : Bytes} (h : bs ≠ []) :
    bs.length - brokenLength bs < bs.length := by
  have := List.length_pos_iff.mpr h
  have := brokenLength_pos bs
  omega

/-- Reads on behind the characters `read`, the last of which comes first. -/
def decodeLoop (read : List Char) (bs : Bytes) : Option (List Char) :=
  if h : bs = [] then some read.reverse
  else match firstChar? bs with
    | none => none
    | some c =>
      have := length_sub_utf8Size_lt h c
      decodeLoop (c :: read) (bs.drop c.utf8Size)
termination_by bs.length

/-- The text whose UTF-8 encoding the bytes are. -/
def decode? (bs : Bytes) : Option (List Char) := decodeLoop [] bs

/-- Reads on behind the characters `read`, with a replacement character for each broken part. -/
def decodeLossyLoop (read : List Char) (bs : Bytes) : List Char :=
  if h : bs = [] then read.reverse
  else match firstChar? bs with
    | some c =>
      have := length_sub_utf8Size_lt h c
      decodeLossyLoop (c :: read) (bs.drop c.utf8Size)
    | none =>
      have := length_sub_brokenLength_lt h
      decodeLossyLoop ('\uFFFD' :: read) (bs.drop (brokenLength bs))
termination_by bs.length

/-- The bytes read as UTF-8, with a replacement character for each part that is none. -/
def decodeLossy (bs : Bytes) : List Char := decodeLossyLoop [] bs

end Mjpeg.Text
