import Mjpeg.Text.Blank

/-!
# Durations

A duration is a number of milliseconds. It is written by a user as a number with the unit `s`
or `ms`, or with none for seconds, and shown in the largest of these units that makes it at
least one, with as many decimals as it needs.
-/

namespace Mjpeg

/-- A span of time. -/
structure Duration where
  millis : Nat
  deriving Repr, DecidableEq, Inhabited

/-- The value of a decimal numeral of ASCII digits with an optional plus sign, when it fits
64 bits. -/
def parseNat64? (cs : List Char) : Option Nat :=
  let digits := match cs with
    | '+' :: ds => ds
    | ds => ds
  if digits.isEmpty || !digits.all Char.isDigit then none
  else
    let n := digits.foldl (fun n c => 10 * n + (c.toNat - '0'.toNat)) 0
    if n < UInt64.size then some n else none

namespace Duration

/-- Why a text is no duration. -/
inductive ParseError where
  | empty
  /-- The text, without the white space around it. -/
  | invalid (text : String)
  | zero
  deriving Repr, DecidableEq

/-- The text of an error. -/
def ParseError.message : ParseError → String
  | empty => "duration must not be empty"
  | invalid text => "invalid duration value: " ++ text
  | zero => "duration must be greater than zero"

/-- The numeral of a duration, and the milliseconds in one of its unit. -/
def splitUnit (cs : List Char) : List Char × Nat :=
  if ['m', 's'].isSuffixOf cs then (cs.take (cs.length - 2), 1)
  else if ['s'].isSuffixOf cs then (cs.take (cs.length - 1), 1000)
  else (cs, 1000)

/-- The duration that a text spells. -/
def parse (text : String) : Except ParseError Duration :=
  let cs := Text.trim text.toList
  if cs.isEmpty then .error .empty
  else
    let (numeral, unit) := splitUnit cs
    match parseNat64? numeral with
    | none => .error (.invalid (String.ofList cs))
    | some 0 => .error .zero
    | some (n + 1) => .ok ⟨(n + 1) * unit⟩

/-- The decimals of so many thousandths, without the zeros at their end. -/
def thousandths (n : Nat) : String :=
  let digits := (Nat.toDigits 10 (1000 + n)).drop 1
  let shown := (digits.reverse.dropWhile (· == '0')).reverse
  if shown.isEmpty then "" else "." ++ String.ofList shown

/-- A duration as messages and logs show it. -/
def display (d : Duration) : String :=
  if d.millis ≥ 1000 then toString (d.millis / 1000) ++ thousandths (d.millis % 1000) ++ "s"
  else if d.millis > 0 then toString d.millis ++ "ms"
  else "0ns"

end Duration

end Mjpeg
