import Mjpeg.SourceError
import Mjpeg.Bytes

/-!
# The other side of a stream

What the server of a stream will do is given beforehand: for every connection attempt, how it
is answered, and for an attempt that succeeds, what the body will bring. Each answer takes a
number of milliseconds.
-/

namespace Mjpeg.Stream

/-- What waiting for the body brings. -/
inductive BodyEvent where
  | chunk (bytes : Bytes)
  /-- The server ends the body. -/
  | ended
  | failed (error : SourceError)
  /-- Nothing ever comes. -/
  | stalled
  deriving Repr, DecidableEq

/-- How an attempt is answered. -/
inductive Answer where
  /-- With a body, whose events each come so many milliseconds after the one before. -/
  | accepted (contentType : Option String) (body : List (Nat × BodyEvent))
  | failed (error : SourceError)
  /-- Not at all. -/
  | silent
  deriving Repr, DecidableEq

/-- One connection attempt: the milliseconds until the answer, and the answer. -/
structure Attempt where
  delay : Nat
  answer : Answer
  deriving Repr, DecidableEq

/-- How an attempt fails when nobody listens. -/
def refused : SourceError := .io ⟨.connectionRefused, none⟩

end Mjpeg.Stream
