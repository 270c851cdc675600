import Mjpeg.Bytes.Search

/-!
# Splitting at a delimiter

`Splits` is a cursor over the pieces of a byte string that a delimiter closes, in order and
without overlap. It remembers how many bytes it has passed, so that a caller can keep what
was not closed yet, and may be called again when it has no piece left. `split` runs the cursor
to its end and adds the unclosed rest as a last piece when there is one. `splitShared?` answers
the same pieces as views of the data, so that nothing is copied.
-/

namespace Mjpeg.Bytes

/-- A cursor over the pieces of a byte string that are closed by `delimiter`. -/
structure Splits where
  /-- What lies behind the last delimiter passed. -/
  rest : Bytes
  delimiter : Bytes
  /-- How many pieces may still be taken; `none` is no limit. -/
  remaining : Option Nat
  /-- The number of bytes passed, delimiters included. -/
  consumed : Nat
  deriving Repr, DecidableEq

namespace Splits

/-- The cursor at the start of `data`. -/
def start (data delimiter : Bytes) (limit : Option Nat) : Splits :=
  ⟨data, delimiter, limit, 0⟩

/-- The piece up to the next delimiter, and the cursor behind that delimiter. -/
def next? (s : Splits) : Option (Bytes × Splits) :=
  if s.remaining = some 0 then none
  else match find s.rest s.delimiter with
    | none => none
    | some pos =>
      let passed := pos + s.delimiter.length
      some (s.rest.take pos,
        { s with
          rest := s.rest.drop passed
          remaining := s.remaining.map (· - 1)
          consumed := s.consumed + passed })

/-- A call for the next piece: the answer, and the cursor behind the call, which stays as it is when
the answer is none. -/
def next (s : Splits) : Option Bytes × Splits :=
  match s.next? with
  | none => (none, s)
  | some (piece, s') => (some piece, s')

/-- What so many calls for the next piece answer, in order, and the cursor behind them. -/
def calls : Nat → Splits → List (Option Bytes) × Splits
  | 0, s => ([], s)
  | n + 1, s =>
    let (answer, s') := s.next
    let (answers, last) := calls n s'
    (answer :: answers, last)

/-- At most `fuel` more pieces behind those taken, of which the last comes first, and the
cursor behind them. -/
def takePieces : Nat → List Bytes → Splits → List Bytes × Splits
  | 0, taken, s => (taken.reverse, s)
  | fuel + 1, taken, s =>
    match s.next? with
    | none => (taken.reverse, s)
    | some (piece, s') => takePieces fuel (piece :: taken) s'

/-- Every piece that is left, and the cursor behind the last one. A piece takes at least one
byte with its delimiter, so the length of the rest bounds their number. -/
def toPieces (s : Splits) : List Bytes × Splits :=
  takePieces s.rest.length [] s

end Splits

/-- The pieces of `data` between delimiters, at most `limit` of them closed by one, and then
the rest unless it is empty. -/
def split (data delimiter : Bytes) (limit : Option Nat) : List Bytes :=
  let (pieces, last) := (Splits.start data delimiter limit).toPieces
  if last.rest.isEmpty then pieces else pieces ++ [last.rest]

/-! ### Shared data -/

/-- A view of a byte string: where it starts and how long it is. -/
structure View where
  start : Nat
  length : Nat
  deriving Repr, DecidableEq

/-- The bytes that a view shows, unless it reaches beyond the end of the data. -/
def View.read? (v : View) (data : Bytes) : Option Bytes :=
  if v.start + v.length ≤ data.length then some ((data.drop v.start).take v.length) else none

/-- The views of pieces that stand one behind the other from `start` on, with a delimiter behind
each but the last. -/
def views (delimiter : Bytes) (start : Nat) : List Bytes → List View
  | [] => []
  | piece :: pieces =>
    ⟨start, piece.length⟩ :: views delimiter (start + piece.length + delimiter.length) pieces

/-- The pieces of a split as views of the data, unless one of them lies outside. -/
def splitShared? (data delimiter : Bytes) (limit : Option Nat) : Option (List Bytes) :=
  (views delimiter 0 (split data delimiter limit)).mapM (View.read? · data)

end Mjpeg.Bytes
