import Mjpeg.Part

/-!
# Writing frames to a sink

A sink is the list of what its writes and flushes will come to: a write takes some of the
bytes it is offered or fails, a flush succeeds or fails. Past the lists, writes take all they
are offered and flushes succeed.

A writer puts the delimiter before the first part and behind every part, so that a reader can
take a part without waiting for the next one. A short write is continued, and what was
interrupted is tried again, so neither shows in what the sink has taken.
-/

namespace Mjpeg

/-- What one write comes to. -/
inductive WriteAnswer where
  /-- So many bytes at most are taken; none at all means that the sink is closed. -/
  | accept (limit : Nat)
  | failed (error : IoError)
  deriving Repr, DecidableEq

/-- What the writes and flushes of a sink will come to, and how many were made. -/
structure Sink where
  writes : List WriteAnswer
  /-- A failure of a flush, or none. -/
  flushes : List (Option IoError)
  writeCalls : Nat
  flushCalls : Nat
  deriving Repr, DecidableEq

namespace Sink

/-- A sink that has not been used. -/
def start (writes : List WriteAnswer) (flushes : List (Option IoError)) : Sink :=
  ⟨writes, flushes, 0, 0⟩

/-- A sink that takes everything. -/
def unlimited : Sink := start [] []

/-- What handing a message to a sink comes to. -/
structure Delivery where
  sink : Sink
  /-- The bytes that the sink has taken. -/
  written : Bytes
  outcome : Except FrameError Unit
  deriving Repr

/-- Writes a message piece by piece. -/
def writeAll (flushes : List (Option IoError)) (writeCalls flushCalls : Nat) :
    List WriteAnswer → Bytes → Delivery
  | writes, [] => ⟨⟨writes, flushes, writeCalls, flushCalls⟩, [], .ok ()⟩
  | [], message => ⟨⟨[], flushes, writeCalls + 1, flushCalls⟩, message, .ok ()⟩
  | .accept 0 :: writes, _ =>
    ⟨⟨writes, flushes, writeCalls + 1, flushCalls⟩, [], .error .connectionClosed⟩
  | .accept (n + 1) :: writes, message =>
    let later := writeAll flushes (writeCalls + 1) flushCalls writes (message.drop (n + 1))
    { later with written := message.take (n + 1) ++ later.written }
  | .failed e :: writes, message =>
    if e.kind = .interrupted then writeAll flushes (writeCalls + 1) flushCalls writes message
    else ⟨⟨writes, flushes, writeCalls + 1, flushCalls⟩, [], .error (.io e)⟩

/-- Flushes until a flush is not interrupted. -/
def flush (writes : List WriteAnswer) (writeCalls flushCalls : Nat) :
    List (Option IoError) → Sink × Except FrameError Unit
  | [] => (⟨writes, [], writeCalls, flushCalls + 1⟩, .ok ())
  | none :: flushes => (⟨writes, flushes, writeCalls, flushCalls + 1⟩, .ok ())
  | some e :: flushes =>
    if e.kind = .interrupted then flush writes writeCalls (flushCalls + 1) flushes
    else (⟨writes, flushes, writeCalls, flushCalls + 1⟩, .error (.io e))

/-- Writes a whole message and flushes it. -/
def deliver (s : Sink) (message : Bytes) : Delivery :=
  let written := writeAll s.flushes s.writeCalls s.flushCalls s.writes message
  match written.outcome with
  | .error _ => written
  | .ok () =>
    let (sink, outcome) := flush written.sink.writes written.sink.writeCalls
      written.sink.flushCalls written.sink.flushes
    { written with sink, outcome }

end Sink

/-- A writer of frames. -/
structure Writer where
  boundary : Boundary
  sink : Sink
  /-- The opening delimiter has been handed to the sink. -/
  started : Bool

namespace Writer

/-- A writer that has written nothing. -/
def start (boundary : Boundary) (sink : Sink) : Writer := ⟨boundary, sink, false⟩

/-- What a call of a writer comes to. -/
structure Call where
  writer : Writer
  /-- The bytes that the sink has taken during the call. -/
  written : Bytes
  outcome : Except FrameError Unit

/-- Hands a message to the sink, behind the opening delimiter if that is still to come. -/
def deliver (w : Writer) (message : Bytes) : Call :=
  -- the opening delimiter is offered once, taken or not
  let opening := if w.started then [] else w.boundary.delimiter
  let delivery := w.sink.deliver (opening ++ message)
  { writer := { w with sink := delivery.sink, started := true }
    written := delivery.written
    outcome := delivery.outcome }

/-- Writes one part and the delimiter that closes it. -/
def send (w : Writer) (contentType : String) (payload : Bytes) : Call :=
  w.deliver (Part.encode contentType payload ++ w.boundary.delimiter)

/-- Writes a frame under its own content type, or as a JPEG image when it has none. -/
def writeFrame (w : Writer) (frame : Frame) : Call :=
  w.send (frame.contentType?.getD "image/jpeg") frame.payload

/-- Ends the body: two dashes behind the last delimiter. -/
def finish (w : Writer) : Call := w.deliver [45, 45, 13, 10]

end Writer

end Mjpeg
