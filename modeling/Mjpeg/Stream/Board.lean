import Mjpeg.Stream.Task

/-!
# What can be seen of a stream

The board shows the state of the connection, five counters and the frames published so far. It
is a record of the actions of the task, and of nothing else.
-/

namespace Mjpeg.Stream

/-- What the actions of a task come to. -/
structure Board where
  state : ConnectionState := .disconnected
  /-- How many attempts were made. -/
  attempts : Nat := 0
  /-- How many attempts became sessions. -/
  sessions : Nat := 0
  /-- How many frames were published. -/
  frames : Nat := 0
  /-- How many segments were malformed. -/
  malformed : Nat := 0
  /-- How many attempts and sessions ended, other than by being stopped. -/
  disconnects : Nat := 0
  /-- The frames published, the latest first. -/
  published : List Frame := []
  /-- How often the state was assigned, be it to the value it had. -/
  assignments : Nat := 0
  /-- How many answers were sources. -/
  opened : Nat := 0
  /-- How many sources were let go of. -/
  released : Nat := 0

namespace Board

/-- The latest frame. -/
def latest? (b : Board) : Option Frame := b.published.head?

/-- The state is assigned. -/
def assign (b : Board) (state : ConnectionState) : Board :=
  { b with state, assignments := b.assignments + 1 }

/-- The board after one more action. -/
def record (b : Board) : Action → Board
  | .starting | .received _ _ => b
  | .connecting => { b.assign .connecting with attempts := b.attempts + 1 }
  | .opened => { b with opened := b.opened + 1 }
  | .connected _ => { b.assign .streaming with sessions := b.sessions + 1 }
  | .skipped _ => { b with malformed := b.malformed + 1 }
  | .published f => { b with frames := b.frames + 1, published := f :: b.published }
  | .released => { b with released := b.released + 1 }
  | .disconnected _ _ => { b.assign .disconnected with disconnects := b.disconnects + 1 }
  | .stopped => b.assign .disconnected

end Board

/-- The event that the log shows for an action of a stream from `url`. -/
def Action.event? (url : String) : Action → Option Log.Event
  | .starting => some ⟨.info, .stream, "frame stream starting", [("url", .plain url)]⟩
  | .connecting | .opened | .released => none
  | .connected b =>
    some ⟨.info, .stream, "frame stream connected", [("boundary", .plain b.display)]⟩
  | .received chunk buffered =>
    some ⟨.trace, .stream, "chunk received",
      [("len", .number chunk.length), ("buffered", .number buffered)]⟩
  | .skipped length => some (Decoder.skippedEvent length)
  | .published f => some ⟨.debug, .stream, "frame extracted", [("len", .number f.size)]⟩
  | .disconnected reason retryIn =>
    some ⟨.warn, .stream, "frame stream disconnected, retrying",
      [("url", .plain url), ("error", .plain reason.message), ("retry_in", .plain retryIn.display)]⟩
  | .stopped => some ⟨.info, .stream, "frame stream stopped", [("url", .plain url)]⟩

end Mjpeg.Stream
