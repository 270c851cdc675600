import Mjpeg.Text.Composed.Tables

/-!
# Composed texts

A letter with marks may be written as one character, or as a letter and marks behind it. The
composed form of a text (Normalization Form C) writes one character wherever there is one, and
marks that do not touch one another in the order of their combining classes. Characters that never
stand in a composed text, such as the sign for ohm, are left to those who replace them before.
-/

namespace Mjpeg.Text

/-- The combining class of a mark. A character that is no mark has the class 0. -/
def combiningClass (c : Char) : Nat :=
  ((combiningClassRanges.find? fun (first, last, _) => first ≤ c.toNat && c.toNat ≤ last).map
    (·.2.2)).getD 0

/-! ### Hangul -/

/-- The first of the syllables of Hangul, and of the letters that begin, carry and end one. -/
def firstSyllable : Nat := 0xAC00

@[inherit_doc firstSyllable]
def firstLead : Nat := 0x1100

@[inherit_doc firstSyllable]
def firstVowel : Nat := 0x1161

/-- The code point before the first letter that ends a syllable. -/
def noTail : Nat := 0x11A7

/-- The numbers of letters that begin, carry and end a syllable; no letter counts as one that
ends it. -/
def leadCount : Nat := 19

@[inherit_doc leadCount]
def vowelCount : Nat := 21

@[inherit_doc leadCount]
def tailCount : Nat := 28

/-- The letters of a syllable. -/
def splitSyllable? (c : Char) : Option (List Char) :=
  let n := c.toNat - firstSyllable
  if c.toNat < firstSyllable || leadCount * vowelCount * tailCount ≤ n then none
  else
    let letters := [firstLead + n / (vowelCount * tailCount),
      firstVowel + n / tailCount % vowelCount, noTail + n % tailCount]
    some ((letters.filter (· != noTail)).map Char.ofNat)

/-- The syllable of two letters, or of a syllable and a letter that ends it. -/
def joinSyllable? (a b : Char) : Option Char :=
  let (lead, vowel) := (a.toNat - firstLead, b.toNat - firstVowel)
  let (syllable, tail) := (a.toNat - firstSyllable, b.toNat - noTail)
  if firstLead ≤ a.toNat && lead < leadCount && firstVowel ≤ b.toNat && vowel < vowelCount then
    some (Char.ofNat (firstSyllable + (lead * vowelCount + vowel) * tailCount))
  else if firstSyllable ≤ a.toNat && syllable < leadCount * vowelCount * tailCount &&
      syllable % tailCount == 0 && noTail < b.toNat && tail < tailCount then
    some (Char.ofNat (a.toNat + tail))
  else none

/-! ### Taking apart -/

/-- The most marks that one character stands for besides its letter. -/
def maxMarks : Nat := 4

/-- The character with up to `marks` of its marks behind it. -/
def takeApart : (marks : Nat) → Char → List Char
  | 0, c => [c]
  | marks + 1, c =>
    match compositions.find? fun (_, _, n) => n == c.toNat with
    | some (a, b, _) => takeApart marks (Char.ofNat a) ++ [Char.ofNat b]
    | none => [c]

/-- Puts a mark behind those of a lower class that follow it. -/
def sortMark (c : Char) : List Char → List Char
  | [] => [c]
  | d :: ds =>
    if 0 < combiningClass d && combiningClass d < combiningClass c then d :: sortMark c ds
    else c :: d :: ds

/-- A text with the marks behind their letters. -/
def decompose (cs : List Char) : List Char :=
  (cs.flatMap fun c => (splitSyllable? c).getD (takeApart maxMarks c)).foldr sortMark []

/-! ### Putting together -/

/-- The character that stands for two. -/
def pair? (a b : Char) : Option Char :=
  (joinSyllable? a b).or <|
    (compositions.find? fun (m, n, _) => m == a.toNat && n == b.toNat).map
      fun (_, _, n) => Char.ofNat n

/-- Puts marks together with a letter, from which those of `between`, the last one first, keep
them apart unless they have a lower class. -/
def putTogether (letter : Char) (between : List Char) : List Char → List Char
  | [] => letter :: between.reverse
  | c :: cs =>
    let isNear := between.head?.all fun d => combiningClass d < combiningClass c
    match if isNear then pair? letter c else none with
    | some letter => putTogether letter between cs
    | none =>
      if combiningClass c = 0 then letter :: between.reverse ++ putTogether c [] cs
      else putTogether letter (c :: between) cs

/-- The composed form of a text. -/
def compose (cs : List Char) : List Char :=
  match decompose cs with
  | [] => []
  | c :: cs => putTogether c [] cs

end Mjpeg.Text
