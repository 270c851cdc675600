import Mjpeg.Duration
import Mjpeg.Text.Alphanumeric
import Mjpeg.Text.Split

/-!
# Directives of a log filter

A directive sets the greatest verbosity for what it names: the targets that begin with a given
text, the events with a given field, or what happens within a span of a given name. One that
names nothing stands for everything. It is written

* as a level, or
* as a target, perhaps with `[span]`, `[{field}]` or `[span{field=value}]` behind it, and then
  perhaps with an equal sign and a level; without a level everything is shown.

White space belongs to the text around it, and makes part of a target.
-/

namespace Mjpeg.Log

/-- A field that a directive asks for. -/
structure FieldMatch where
  name : String
  /-- The value that the field is to have, if that matters. -/
  value : Option String
  deriving Repr, DecidableEq

/-- A verbosity limit for what a directive names: 0 shows nothing, 1 errors only, 5
everything. -/
structure Directive where
  /-- The text with which the targets begin; none stands for every target. -/
  target : Option String
  /-- The name of the span around the events. -/
  span : Option String
  fields : List FieldMatch
  verbosity : Nat
  deriving Repr, DecidableEq

/-! ### Levels -/

/-- The name of a verbosity limit. -/
def verbosityName : Nat → String
  | 0 => "off"
  | 1 => "error"
  | 2 => "warn"
  | 3 => "info"
  | 4 => "debug"
  | _ => "trace"

/-- The greatest verbosity. -/
def maxVerbosity : Nat := 5

/-- The verbosity limit of that number, or of that name in whatever case. -/
def verbosity? (text : List Char) : Option Nat :=
  match parseNat64? text with
  | some n => if n ≤ maxVerbosity then some n else none
  | none =>
    (List.range (maxVerbosity + 1)).find? fun v =>
      Text.eqIgnoringCase text (verbosityName v).toList

namespace Directive

/-- The directive for a target, or for every target. -/
def ofTarget (target : Option String) (verbosity : Nat) : Directive := ⟨target, none, [], verbosity⟩

/-! ### Reading -/

/-- A character with which a target may begin. -/
def startsTarget (c : Char) : Bool := ['-', ':', '_'].contains c || Text.isAlphanumeric c

/-- A value as it is shown: a whole number in its shortest form. -/
def shownValue (text : List Char) : String :=
  match parseNat64? text, text with
  | some n, _ => toString n
  | none, '-' :: c :: cs =>
    match parseNat64? (c :: cs) with
    | some 0 => if c.isDigit then "0" else String.ofList text
    | some n => if c.isDigit && n ≤ Int64.minValue.toInt.natAbs then "-" ++ toString n
        else String.ofList text
    | none => String.ofList text
  | none, _ => String.ofList text

/-- The field that a text names, with the value behind an equal sign. -/
def parseField? (text : List Char) : Option FieldMatch :=
  if text.isEmpty then none
  else match Text.splitAll (· == '=') text with
    | name :: value :: _ => some ⟨String.ofList name, some (shownValue value)⟩
    | pieces => some ⟨String.ofList pieces.flatten, none⟩

/-- A text in which each character has a mark. The marks tell where the parts of a directive
begin and end, and the characters are what the parts consist of. -/
abbrev Marked := List (Char × Char)

/-- The characters of a part. -/
def content (part : Marked) : List Char := part.map (·.2)

/-- The part before a mark that satisfies `p`, and the rest from that mark on. -/
def cut (p : Char → Bool) (text : Marked) : Marked × Marked :=
  (text.takeWhile (!p ·.1), text.dropWhile (!p ·.1))

/-- The span and the field between brackets, the first of which has been read, and what stands
behind them. -/
def parseScope? (text : Marked) : Option (Option String × List FieldMatch × Marked) :=
  let (name, rest) := cut (fun c => c == ']' || c == '\x7b') text
  match rest with
  | (']', _) :: rest => some (some (String.ofList (content name)), [], rest)
  | ('\x7b', _) :: rest =>
    let (field, rest) := cut (· == '\x7d') rest
    match rest, parseField? (content field) with
    | _ :: (']', _) :: rest, some field =>
      some (if name.isEmpty then none else some (String.ofList (content name)), [field], rest)
    | _, _ => none
  | _ => none

/-- The level behind an equal sign, with the unmarked text at its end. An empty one shows
everything, as does none. -/
def parseLevel? (unmarked : List Char) : Marked → Option Nat
  | [] => some maxVerbosity
  | ('=', _) :: level =>
    let level := content level ++ unmarked
    if level.isEmpty then some maxVerbosity else verbosity? level
  | _ => none

/-- The directive of a text that is all target or all level. -/
def parseName (text : List Char) : Directive :=
  match verbosity? text with
  | some v => ofTarget none v
  | none => ofTarget (some (String.ofList text)) maxVerbosity

/-- The directive that a text spells. It is looked for behind the blanks at the start, but its
parts are taken from the same places of the whole text: the characters without blanks around
them are the marks of the first characters of the text. -/
def parse? (text : List Char) : Option Directive :=
  let body := Text.trim text
  let unmarked := text.drop body.length
  let (name, rest) := cut (fun c => c == '=' || c == '[') (body.zip text)
  let target := if name.isEmpty then none else some (String.ofList (content name))
  if !(body.head?.any fun c => c == '[' || startsTarget c) then none
  else match rest with
    | [] => some (parseName text)
    | ('[', _) :: rest => do
      let (span, fields, level) ← parseScope? rest
      return ⟨target, span, fields, ← parseLevel? unmarked level⟩
    | level => (parseLevel? unmarked level).map (ofTarget target)

/-! ### Showing -/

/-- The text of a field. -/
def displayField (f : FieldMatch) : String :=
  match f.value with
  | none => f.name
  | some value => f.name ++ "=" ++ value

/-- The text of a directive. -/
def display (d : Directive) : String :=
  let fields := if d.fields.isEmpty then ""
    else "\x7b" ++ ",".intercalate (d.fields.map displayField) ++ "\x7d"
  let scope := if d.span.isNone && d.fields.isEmpty then ""
    else "[" ++ d.span.getD "" ++ fields ++ "]"
  let named := d.target.getD "" ++ scope
  let isNamed := d.target.isSome || d.span.isSome || !d.fields.isEmpty
  (if isNamed then named ++ "=" else named) ++ verbosityName d.verbosity

/-! ### Order -/

/-- The order of fields: one with a value is more specific. -/
def compareFields (a b : FieldMatch) : Ordering :=
  (compare a.value.isSome b.value.isSome).then <|
    (compare a.name b.name).then (compare a.value b.value)

/-- The order of directives by what they name. The more specific one is greater: the one with
the longer target, with a span, with more fields, or else the later one in the dictionary. -/
def compareNames (a b : Directive) : Ordering :=
  (compare (a.target.map String.utf8ByteSize) (b.target.map String.utf8ByteSize)).then <|
    (compare a.span.isSome b.span.isSome).then <|
    (compare a.fields.length b.fields.length).then <|
    (compare a.target b.target).then <|
    (compare a.span b.span).then (List.compareLex compareFields a.fields b.fields)

end Directive

end Mjpeg.Log
