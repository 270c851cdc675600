/-!
# Classes of characters as ranges

A class of characters is listed by the first and the last code point of each of its runs, in
ascending order and without overlap.
-/

namespace Mjpeg.Text

/-- A class of characters, as inclusive ranges of code points. -/
abbrev CharRanges := Array (Nat × Nat)

/-- The character lies in one of the ranges. -/
def CharRanges.has (ranges : CharRanges) (c : Char) : Bool :=
  ranges.any fun (first, last) => first ≤ c.toNat && c.toNat ≤ last

end Mjpeg.Text
