import Mjpeg.Url.Domain.Characters

/-!
# Characters that stand for others in domain names
-/

namespace Mjpeg.Url.Domain

/-- The one character that a code point stands for in the runs. -/
def runTarget? (n : Nat) : Option Nat :=
  mappedRuns.findSome? fun (first, last, step, target) =>
    if first ≤ n && n ≤ last && (n - first) % step == 0 then some (target + (n - first)) else none

/-- The ideograph that a code point stands for. -/
def ideographTarget? (n : Nat) : Option Char :=
  mappedIdeographs.findSome? fun (first, targets) =>
    if first ≤ n then targets.toList[n - first]? else none

/-- The entry of a table for a code point. -/
def listed? (table : Array (Nat × α)) (n : Nat) : Option α :=
  (table.find? fun (m, _) => m == n).map (·.2)

/-- What a character outside ASCII stands for in the tables of mapped ones. -/
def mapped? (c : Char) : Option (List Char) :=
  let n := c.toNat
  let single := (runTarget? n).or <| (listed? mappedLetters n).or <|
    (listed? mappedForms n).or (listed? mappedSquares n)
  let several := (listed? spelledLetters n).or <| (listed? spelledForms n).or
    (listed? spelledSquares n)
  ((single.map ([·])).or several).map (·.map Char.ofNat) |>.or
    ((ideographTarget? n).map ([·]))

/-- What a character of a domain name stands for. Capital letters of ASCII stand for small ones
and all other ASCII characters for themselves. Some characters may not occur. -/
def standsFor? (c : Char) : Option (List Char) :=
  if c.toNat < 0x80 then some [c.toLower]
  else match mapped? c with
    | some cs => some cs
    | none =>
      if ignoredRanges.has c then some []
      else if validRanges.has c then some [c]
      else none

end Mjpeg.Url.Domain
