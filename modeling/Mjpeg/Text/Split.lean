/-!
# Cutting texts at a character
-/

namespace Mjpeg.Text

/-- The part before the first `c` and the part behind it. -/
def splitOnce (c : Char) (cs : List Char) : Option (List Char × List Char) :=
  match cs.dropWhile (· != c) with
  | [] => none
  | _ :: behind => some (cs.takeWhile (· != c), behind)

/-- The pieces between the characters that satisfy `p`; there is one more of them than of such
characters. -/
def splitAll (p : Char → Bool) : List Char → List (List Char)
  | [] => [[]]
  | c :: cs => if p c then [] :: splitAll p cs else (splitAll p cs).modifyHead (c :: ·)

end Mjpeg.Text
