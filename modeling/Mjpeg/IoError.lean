/-!
# Failures of reading and writing

What can go wrong with a file, a connection or a sink: a kind, and the system's own words for
it when it has any.
-/

namespace Mjpeg

/-- The kinds of input and output failure that are told apart. -/
inductive IoErrorKind where
  | interrupted
  | wouldBlock
  | timedOut
  | notFound
  | permissionDenied
  | connectionRefused
  | connectionReset
  | brokenPipe
  | unexpectedEof
  | invalidData
  | alreadyExists
  | other
  deriving Repr, DecidableEq, Inhabited

/-- The text of a failure about which nothing but its kind is known. -/
def IoErrorKind.message : IoErrorKind → String
  | interrupted => "operation interrupted"
  | wouldBlock => "operation would block"
  | timedOut => "timed out"
  | notFound => "entity not found"
  | permissionDenied => "permission denied"
  | connectionRefused => "connection refused"
  | connectionReset => "connection reset"
  | brokenPipe => "broken pipe"
  | unexpectedEof => "unexpected end of file"
  | invalidData => "invalid data"
  | alreadyExists => "entity already exists"
  | other => "other error"

/-- A failure of reading or writing. -/
structure IoError where
  kind : IoErrorKind
  /-- The words of whoever reported it; they may be empty. -/
  detail : Option String
  deriving Repr, DecidableEq, Inhabited

/-- The text of a failure. -/
def IoError.message (e : IoError) : String := e.detail.getD e.kind.message

end Mjpeg
