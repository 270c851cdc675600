import Mjpeg.Text.Width.Classes

/-!
# Columns that a text takes

Most characters take one column of a terminal. Those of East Asian scripts and the pictograms
take two, and marks that stand on the character before them take none.

Some characters are drawn as one, so that together they take fewer columns than apart: a
carriage return and a line feed, ligatures of a few scripts, and the sequences that spell one
pictograph. Whether a character joins those behind it can be told from the next few alone.
`step` therefore goes from the end of a text to its start, and `Behind` is what it has to know
of the text behind a character.
-/

namespace Mjpeg.Text

/-- What a text begins with, as far as the width of a character before it depends on that.
`joined` says that a zero-width joiner precedes the letter. -/
inductive Opening where
  | plain
  | lineFeed
  | alef
  | lamed (joined : Bool)
  | ya (joined : Bool)
  /-- The vowel sign that a joiner ties to a letter ya. -/
  | vowelAndYa
  | tifinaghLetter (joined : Bool)
  /-- The Tifinagh joiner before a letter. -/
  | tifinaghPair
  | lisuTone
  | orkhonI (joined : Bool)
  | khmerLetter
  | kiratRaiE
  | kiratRaiAi
  | skinTone
  | regionalIndicator
  | picture
  /-- A zero-width joiner before a picture. -/
  | joinedPicture
  /-- The enclosing keycap before a joined picture. -/
  | joinedKeycap
  /-- Regional indicators before a joined picture: the first, and an even or odd number. -/
  | joinedRegion
  | joinedRegionsEven
  | joinedRegionsOdd
  /-- Tag characters before a joined picture: their end, behind so many letters. -/
  | joinedTags (letters : Nat)
  /-- Tag characters before a joined picture: so many digits from the left. -/
  | joinedTagDigits (digits : Nat)
  deriving Repr, DecidableEq

/-- A selector for the looks of the character before it. -/
inductive Selector where
  | none
  /-- A picture is to be drawn as a character. -/
  | text
  /-- A character is to be drawn as a picture. -/
  | emoji
  /-- A quotation mark is to be as wide as the letters of East Asia. -/
  | fullWidth
  deriving Repr, DecidableEq

/-- The start of the text behind a character: perhaps a selector, and what stands behind that. -/
structure Behind where
  opening : Opening
  selector : Selector
  deriving Repr, DecidableEq

namespace Behind

/-- Nothing of note. -/
def plain : Behind := ⟨.plain, .none⟩

/-- An opening without a selector. -/
def of (o : Opening) : Behind := ⟨o, .none⟩

end Behind

/-! ### Classes of characters -/

/-- The code point of a character lies between two others. -/
def isBetween (c : Char) (first last : Nat) : Bool := first ≤ c.toNat && c.toNat ≤ last

/-- An Arabic letter alef, with whatever marks. -/
def isAlef (c : Char) : Bool :=
  [0x622, 0x623, 0x625, 0x627, 0x671, 0x672, 0x673, 0x675, 0x773, 0x774].contains c.toNat ||
    isBetween c 0x870 0x882

/-- An Arabic letter lam, with whatever marks. -/
def isLam (c : Char) : Bool :=
  [0x644, 0x76A, 0x8A6, 0x8C7].contains c.toNat || isBetween c 0x6B5 0x6B8

/-- A Khmer letter that has a form below another one. -/
def isKhmerLetter (c : Char) : Bool :=
  CharRanges.has #[(0x1780, 0x1782), (0x1784, 0x1787), (0x1789, 0x178C), (0x178E, 0x1793),
    (0x1795, 0x1798), (0x179B, 0x179D), (0x17A0, 0x17A0), (0x17A2, 0x17A2), (0x17A7, 0x17A7),
    (0x17AB, 0x17AC), (0x17AF, 0x17AF)] c

/-- A Tifinagh consonant. -/
def isTifinaghLetter (c : Char) : Bool := isBetween c 0x2D31 0x2D65 || c.toNat == 0x2D6F

/-- A letter of which two spell a flag. -/
def isRegionalIndicator (c : Char) : Bool := isBetween c 0x1F1E6 0x1F1FF

/-- A skin tone of the pictograph before it. -/
def isSkinTone (c : Char) : Bool := isBetween c 0x1F3FB 0x1F3FF

/-- A letter among the tag characters. -/
def isTagLetter (c : Char) : Bool := isBetween c 0xE0061 0xE007A

/-- A digit among the tag characters. -/
def isTagDigit (c : Char) : Bool := isBetween c 0xE0030 0xE0039

/-- A mark that does not keep letters from forming a ligature. -/
def isLigatureMark (c : Char) : Bool :=
  CharRanges.has #[(0x34F, 0x34F), (0x17B4, 0x17B5), (0x180B, 0x180D), (0x180F, 0x180F),
    (0x200D, 0x200D), (0xFE00, 0xFE0F), (0xE0100, 0xE01EF)] c

/-- The emoji selector turns the character into a picture. -/
def isPicturable (c : Char) : Bool := picturableRanges.has c

/-- The text selector turns the picture into a character of one column. The ideographs in
squares stay as wide as they are. -/
def isTextable (c : Char) : Bool :=
  picturableRanges.has c && pictographRanges.has c && !isBetween c 0x1F200 0x1F2FF

/-! ### Characters by themselves -/

/-- The columns of a character before a text that does not matter to it, and what a text that
begins with the character has to tell. -/
def alone (c : Char) : Nat × Behind :=
  let n := c.toNat
  if n < 0x300 && n != 0xAD then (1, .plain)
  else if isAlef c then (1, .of .alef)
  else if n == 0x5DC then (1, .of (.lamed false))
  else if isKhmerLetter c then (1, .of .khmerLetter)
  else if n == 0x17D8 then (3, .plain)
  else if n == 0x1A10 then (1, .of (.ya false))
  else if isTifinaghLetter c then (1, .of (.tifinaghLetter false))
  else if n == 0xA4FC || n == 0xA4FD then (1, .of .lisuTone)
  else if n == 0xFE01 then (0, ⟨.plain, .fullWidth⟩)
  else if n == 0xFE0E then (0, ⟨.plain, .text⟩)
  else if n == 0xFE0F then (0, ⟨.plain, .emoji⟩)
  else if n == 0x10C03 then (1, .of (.orkhonI false))
  else if n == 0x16D67 then (1, .of .kiratRaiE)
  else if n == 0x16D68 then (1, .of .kiratRaiAi)
  else if isRegionalIndicator c then (1, .of .regionalIndicator)
  else if isSkinTone c then (2, .of .skinTone)
  else if pictographRanges.has c then (2, .of .picture)
  else if markRanges.has c || blankRanges.has c then (0, .plain)
  else if wideRanges.has c then (2, .plain)
  else (1, .plain)

/-- The columns that a character takes by itself. -/
def charWidth (c : Char) : Nat := (alone c).1

/-! ### Characters before others -/

/-- A ligature may begin before this, and selectors do not prevent it. -/
def Opening.isLigature : Opening → Bool
  | lamed _ | ya _ | vowelAndYa | tifinaghLetter _ | tifinaghPair | lisuTone | orkhonI _
  | khmerLetter => true
  | _ => false

/-- The same with a zero-width joiner before it. -/
def Opening.join : Opening → Opening
  | lamed _ => lamed true
  | ya _ => ya true
  | tifinaghLetter _ => tifinaghLetter true
  | orkhonI _ => orkhonI true
  | o => o

/-- What a selector leaves of the text behind it: the emoji selector also stands within joined
pictures. -/
def Opening.select (o : Opening) (s : Selector) : Behind :=
  if o.isLigature || o = .alef then ⟨o, s⟩
  else if s = .emoji && (o = .joinedPicture || o = .joinedKeycap) then ⟨o, s⟩
  else ⟨.plain, s⟩

/-- The columns that a character adds which is one with the text behind it, and what a text that
begins with both has to tell; none when the character stands for itself. -/
def joinLigature? (c : Char) (o : Opening) : Option (Int × Opening) :=
  let n := c.toNat
  match o with
  | .alef =>
    if isLam c then some (0, .plain)
    else if markRanges.has c then some (0, .alef)
    else none
  | .lamed true => if n = 0x5D0 then some (0, .plain) else none
  | .khmerLetter => if n = 0x17D2 then some (-1, .plain) else none
  | .ya true => if n = 0x1A17 then some (0, .vowelAndYa) else none
  | .vowelAndYa => if n = 0x1A15 then some (0, .plain) else none
  | .tifinaghLetter joined =>
    if n = 0x2D7F then some (1, .tifinaghPair)
    else if joined && isTifinaghLetter c then some (0, .plain)
    else none
  | .tifinaghPair => if isTifinaghLetter c then some (-1, .plain) else none
  | .lisuTone => if isBetween c 0xA4F8 0xA4FB then some (0, .plain) else none
  | .orkhonI true => if n = 0x10C32 then some (0, .plain) else none
  | .kiratRaiE =>
    if n = 0x16D63 || n = 0x16D69 then some (0, .plain)
    else if n = 0x16D67 then some (0, .kiratRaiAi)
    else if n = 0x16D68 then some (1, .kiratRaiE)
    else none
  | .kiratRaiAi => if n = 0x16D63 then some (0, .plain) else none
  | _ => none

/-- The same for the sequences that spell one pictograph. -/
def joinPicture? (c : Char) (o : Opening) : Option (Int × Opening) :=
  let n := c.toNat
  match o with
  | .skinTone => if tonedRanges.has c then some (0, .picture) else none
  | .regionalIndicator => if isRegionalIndicator c then some (1, .picture) else none
  | .picture => if n = 0x200D then some (0, .joinedPicture) else none
  | .joinedPicture =>
    if n = 0x20E3 then some (0, .joinedKeycap)
    else if isRegionalIndicator c then some (1, .joinedRegion)
    else if isSkinTone c then some (0, .skinTone)
    else if n = 0xE007F then some (0, .joinedTags 0)
    else if pictographRanges.has c then some (0, .picture)
    else none
  | .joinedRegion | .joinedRegionsOdd =>
    if isRegionalIndicator c then some (-1, .joinedRegionsEven) else none
  | .joinedRegionsEven => if isRegionalIndicator c then some (3, .joinedRegionsOdd) else none
  | .joinedTags letters =>
    if isTagLetter c && letters < 6 then some (0, .joinedTags (letters + 1))
    else if isTagDigit c && letters < 5 then some (0, .joinedTagDigits 1)
    else if n = 0x1F3F4 && 3 ≤ letters then some (0, .picture)
    else none
  | .joinedTagDigits digits =>
    if isTagDigit c && digits < 3 then some (0, .joinedTagDigits (digits + 1))
    else if n = 0x1F3F4 && digits = 3 then some (0, .picture)
    else none
  | _ => none

/-- The columns that a character adds before an opening. -/
def stepOpening (c : Char) (o : Opening) : Int × Behind :=
  if o.isLigature && c.toNat = 0x200D then (0, .of o.join)
  else if o.isLigature && isLigatureMark c then (0, .of o)
  else match (joinLigature? c o).or (joinPicture? c o) with
    | some (columns, o) => (columns, .of o)
    | none =>
      let (columns, behind) := alone c
      (columns, behind)

/-- The columns that a character adds which no emoji selector follows. -/
def stepPlain (c : Char) (b : Behind) : Int × Behind :=
  if c.toNat ≤ 0xA0 then
    if c = '\n' then (1, .of .lineFeed)
    else if c = '\r' && b = .of .lineFeed then (0, .plain)
    else (1, .plain)
  else if b = .plain then
    let (columns, behind) := alone c
    (columns, behind)
  else if c.toNat = 0xFE0F then (0, b.opening.select .emoji)
  else if c.toNat = 0xFE0E then (0, b.opening.select .text)
  else if c.toNat = 0xFE01 then (0, b.opening.select .fullWidth)
  else if b.selector = .text && isTextable c then (1, .plain)
  else if b.selector = .fullWidth && [0x2018, 0x2019, 0x201C, 0x201D].contains c.toNat then
    (2, .plain)
  else stepOpening c b.opening

/-- The columns that a character adds to a text behind it, and what the longer text has to tell.
They may be fewer than none, when a column was counted for a character that now turns out to be
one with others. -/
def step (c : Char) (b : Behind) : Int × Behind :=
  if b.selector = .emoji then
    if isPicturable c then
      (if b.opening = .joinedPicture || b.opening = .joinedKeycap then 0 else 2, .of .picture)
    else
      let isKept := b.opening.isLigature || b.opening = .alef
      stepPlain c (if isKept then .of b.opening else .plain)
  else stepPlain c b

/-- The columns that a text takes, and what it begins with. -/
def measure (cs : List Char) : Int × Behind :=
  cs.foldr (fun c (columns, behind) =>
    let (more, behind) := step c behind
    (columns + more, behind)) (0, .plain)

/-- The columns that a text takes. -/
def width (cs : List Char) : Nat := (measure cs).1.toNat

@[simp]
theorem width_nil : width [] = 0 := rfl

theorem ne_nil_of_lt_width {n : Nat} {cs : List Char} (h : n < width cs) : cs ≠ [] := by
  rintro rfl
  simp at h

end Mjpeg.Text
