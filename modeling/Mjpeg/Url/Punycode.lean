/-!
# Punycode

A text as ASCII letters, digits and hyphens. Its ASCII characters come first. Behind the last
hyphen stand numbers, one for each other character in the order of their code points, which tell
how far to go from the place and the code point of the one before. A number is written with the
digits `a` to `z` and `0` to `9`, the lowest one first. A digit below a threshold is the last of
its number, and the thresholds adapt to the size of the numbers before.
-/

namespace Mjpeg.Url.Punycode

/-- How many digits there are. -/
def base : Nat := 36

/-- The code point from which on characters become numbers. -/
def firstCode : Nat := 0x80

/-- The bias of the first thresholds. -/
def firstBias : Nat := 72

/-- The digit of a value. -/
def digit (value : Nat) : Char :=
  Char.ofNat (if value < 26 then 'a'.toNat + value else '0'.toNat + (value - 26))

/-- The value of a digit. -/
def digitValue? (c : Char) : Option Nat :=
  if c.isDigit then some (c.toNat - '0'.toNat + 26)
  else if c.isAlpha then some (c.toLower.toNat - 'a'.toNat)
  else none

/-- The threshold at a position, which counts in steps of `base`. -/
def threshold (bias position : Nat) : Nat := max 1 (min 26 (position - bias))

/-- The bias for a number of that size, the first digits of which take so many steps. -/
def biasOf (steps size : Nat) : Nat :=
  if 455 < size then biasOf (steps + base) (size / 35) else steps + 36 * size / (size + 38)
termination_by size

/-- The bias behind a number, with which the text has so many characters. -/
def adapt (size count : Nat) (isFirst : Bool) : Nat :=
  let size := if isFirst then size / 700 else size / 2
  biasOf 0 (size + size / count)

/-! ### Encoding -/

/-- The digits of a number. -/
def digits (bias position n : Nat) : List Char :=
  let t := threshold bias position
  if n < t then [digit n]
  else digit (t + (n - t) % (base - t)) :: digits bias (position + base) ((n - t) / (base - t))
termination_by n
decreasing_by
  have : 1 ≤ threshold bias position := by simp only [threshold]; omega
  exact Nat.lt_of_le_of_lt (Nat.div_le_self _ _) (by omega)

/-- What has been written. -/
structure Encoder where
  text : List Char
  /-- How far it is from the character written last. -/
  distance : Nat
  bias : Nat
  /-- How many characters have been written. -/
  count : Nat
  deriving Repr, DecidableEq

/-- Goes past a character on the way to the next one of the given code point, which is written
wherever it stands. `basic` is the number of ASCII characters. -/
def Encoder.pass (basic code : Nat) (e : Encoder) (c : Char) : Encoder :=
  if c.toNat < code then { e with distance := e.distance + 1 }
  else if c.toNat = code then
    { text := e.text ++ digits e.bias base e.distance
      distance := 0
      bias := adapt e.distance (e.count + 1) (e.count == basic)
      count := e.count + 1 }
  else e

/-- Writes the characters of the given code points, from the first code point that has not been
dealt with on. -/
def Encoder.write (cs : List Char) (basic : Nat) (e : Encoder) (next : Nat) :
    List Nat → Encoder
  | [] => e
  | code :: codes =>
    let e := { e with distance := e.distance + (code - next) * (e.count + 1) }
    let e := cs.foldl (Encoder.pass basic code) e
    Encoder.write cs basic { e with distance := e.distance + 1 } (code + 1) codes

/-- A text in Punycode. -/
def encode (cs : List Char) : List Char :=
  let basic := cs.filter (·.toNat < firstCode)
  let codes := ((cs.map Char.toNat).filter (firstCode ≤ ·)).mergeSort.eraseDups
  let start : Encoder :=
    { text := if basic.isEmpty then [] else basic ++ ['-']
      distance := 0
      bias := firstBias
      count := basic.length }
  (start.write cs basic.length firstCode codes).text

/-! ### Decoding -/

/-- What has been read. -/
structure Decoder where
  text : List Char
  /-- The code point of the last character that was put in. -/
  code : Nat
  /-- The place behind it, and the number read so far added to that. -/
  place : Nat
  reached : Nat
  /-- What the next digit counts for, and its position. -/
  weight : Nat
  position : Nat
  bias : Nat
  deriving Repr, DecidableEq

/-- Reads a digit. The last one of a number puts a character in. -/
def Decoder.read (d : Decoder) (c : Char) : Option Decoder := do
  let value ← digitValue? c
  let t := threshold d.bias d.position
  let reached := d.reached + value * d.weight
  if t ≤ value then
    return { d with
      reached, weight := d.weight * (base - t), position := d.position + base }
  let count := d.text.length + 1
  let code := d.code + reached / count
  if !Nat.isValidChar code then none
  let place := reached % count + 1
  return {
    text := d.text.insertIdx (reached % count) (Char.ofNat code)
    code, place
    reached := place
    weight := 1
    position := base
    bias := adapt (reached - d.place) count (d.place == 0) }

/-- The text that some Punycode stands for. -/
def decode? (cs : List Char) : Option (List Char) := do
  let numbers := (cs.reverse.takeWhile (· != '-')).reverse
  let basic := cs.take (cs.length - numbers.length - 1)
  -- a hyphen at the start parts nothing
  if numbers.length + 1 = cs.length then none
  let d ← numbers.foldlM Decoder.read
    ⟨basic, firstCode, 0, 0, 1, base, firstBias⟩
  if d.position = base then return d.text else none

end Mjpeg.Url.Punycode
