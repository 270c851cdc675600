import Mjpeg.Text.Split
import Mjpeg.Text.Width

/-!
# Lines of limited width

`wrap` breaks a line that takes more columns than there are. It breaks between words where it
can. A word goes onto the next line when it fits there, and is cut when it fits onto no line; a
line with at most two columns left is full.
-/

namespace Mjpeg.Output

/-- The start of a line. -/
structure LineStart where
  /-- The words so far, the last one first. -/
  words : List (List Char)
  width : Nat
  deriving Repr, DecidableEq

namespace LineStart

/-- A line without words. -/
def empty : LineStart := ⟨[], 0⟩

/-- No word stands on the line. -/
def isEmpty (l : LineStart) : Bool := l.words.isEmpty

/-- The columns that part the next word from those before it. -/
def gap (l : LineStart) : Nat := if l.isEmpty then 0 else 1

/-- The line with one more word. A line does not begin with a blank. -/
def add (l : LineStart) (word : List Char) : LineStart :=
  if l.isEmpty && word.isEmpty then l
  else ⟨word :: l.words, l.width + l.gap + Text.width word⟩

/-- The line as it is printed. -/
def text (l : LineStart) : List Char := List.intercalate [' '] l.words.reverse

/-- Nothing more goes onto the line. -/
def isFull (limit : Nat) (l : LineStart) : Bool := limit - 2 < l.width

end LineStart

/-- How many characters of a word fit into a number of columns, behind `count` others. -/
def fitting (count columns : Nat) : List Char → Nat
  | [] => count
  | c :: cs =>
    if Text.charWidth c ≤ columns then fitting (count + 1) (columns - Text.charWidth c) cs
    else count

/-- The lines that some words fill behind the start of the first. -/
def fillLines (limit : Nat) (words : List (List Char)) (line : LineStart) : List (List Char) :=
  match words with
  | [] => if line.isEmpty then [] else [line.text]
  | word :: rest =>
    let room := limit - line.width - line.gap
    if line.width + line.gap + Text.width word ≤ limit then
      let line := line.add word
      if line.isFull limit then line.text :: fillLines limit rest .empty
      else fillLines limit rest line
    else if late : !line.isEmpty && room ≤ 2 then
      line.text :: fillLines limit (word :: rest) .empty
    else if wide : limit < Text.width word then
      let n := max 1 (fitting 0 room word)
      (line.add (word.take n)).text :: fillLines limit (word.drop n :: rest) .empty
    else
      let next := LineStart.empty.add word
      if next.isFull limit then line.text :: next.text :: fillLines limit rest .empty
      else line.text :: fillLines limit rest next
termination_by (words.flatten.length + words.length, line.words.length)
decreasing_by
  all_goals
    grind [LineStart.isEmpty, LineStart.empty, List.flatten_cons, List.length_pos_iff,
      Text.ne_nil_of_lt_width]

/-- The lines that a line becomes where there are `limit` columns. -/
def wrap (limit : Nat) (line : List Char) : List (List Char) :=
  if Text.width line ≤ limit then [line]
  else fillLines limit (Text.splitAll (· == ' ') line) .empty

end Mjpeg.Output
