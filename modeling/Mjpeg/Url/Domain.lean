import Mjpeg.Text.Split
import Mjpeg.Url.Domain.Direction
import Mjpeg.Url.Domain.Label
import Mjpeg.Url.Domain.Mapping
import Mjpeg.Url.Punycode

/-!
# Domain names

A domain name is used in ASCII. Its characters are replaced by those that they stand for, so that
the name is in small letters, and a label with other characters than those of ASCII is written in
Punycode behind `xn--`. A label that is written so already has to be as it would have been
written here.
-/

namespace Mjpeg.Url.Domain

/-- What a label in Punycode starts with. -/
def punycodeMark : List Char := ['x', 'n', '-', '-']

/-- The most characters of a label that is written in Punycode, and of a label in Punycode. -/
def maxLabel : Nat := 1000

@[inherit_doc maxLabel]
def maxPunycode : Nat := 2000

/-- A character of ASCII. -/
def isAscii (c : Char) : Bool := c.toNat < 0x80

/-- A label in ASCII, and the text that it stands for. -/
structure Label where
  ascii : List Char
  text : List Char
  deriving Repr, DecidableEq

/-- The text that some Punycode stands for in a domain name. It has a character that made the
Punycode necessary. -/
def decodeLabel? (code : List Char) : Option (List Char) := do
  if code.length > maxPunycode || code.getLast? = some '-' then none
  let text ← Punycode.decode? code
  let isSettled := text.all (fun c => standsFor? c == some [c]) && Text.compose text == text
  if isSettled && !text.all isAscii && isSound text then some text else none

/-- The label of a composed text. -/
def label? (text : List Char) : Option Label :=
  if punycodeMark.isPrefixOf text then
    (decodeLabel? (text.drop punycodeMark.length)).map (⟨text, ·⟩)
  else if text.all isAscii then some ⟨text, text⟩
  else if text.length ≤ maxLabel && isSound text then
    some ⟨punycodeMark ++ Punycode.encode text, text⟩
  else none

/-- A domain name in ASCII. -/
def toAscii? (name : List Char) : Option (List Char) := do
  let text := Text.compose (← name.mapM standsFor?).flatten
  let labels ← (Text.splitAll (· == '.') text).mapM label?
  let hasBothWays := labels.any fun l => l.text.any isRightToLeft
  if hasBothWays && !labels.all (isOneWay ·.text) then none
  return List.intercalate ['.'] (labels.map Label.ascii)

end Mjpeg.Url.Domain
