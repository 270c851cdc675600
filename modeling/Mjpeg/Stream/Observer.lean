import Mjpeg.Stream.Board

/-!
# Those who watch a stream

A waiter is promised the first frame published after it was made. It sees the frames through a
queue that keeps the latest `queueSize`. One that asks for a frame that is not kept any more is
told how far it lags, and goes on at the oldest frame kept (`Queue.await`). A subscription reports
whether anything changed since it was last checked, and the value that stands. Neither tells the
stream anything.
-/

namespace Mjpeg.Stream

/-- The number of frames that a waiter can fall behind by without missing one. -/
def queueSize : Nat := 16

/-- The frames that are kept for those who wait, the latest first, and how many were sent. -/
structure Queue where
  kept : List Frame
  sent : Nat

namespace Queue

/-- A queue to which nothing was sent. -/
def empty : Queue := ⟨[], 0⟩

/-- One more frame is sent. A full queue gives up its oldest one. -/
def send (q : Queue) (f : Frame) : Queue := ⟨(f :: q.kept).take queueSize, q.sent + 1⟩

/-- The queue to which some frames were sent, the latest of which comes first. -/
def ofPublished (published : List Frame) : Queue := published.foldr (fun f q => q.send f) empty

/-- What one receives who asks for the next frame. -/
inductive Received where
  | nothing
  /-- So many frames are not kept any more. -/
  | lagged (skipped : Nat)
  | frame (frame : Frame)

/-- What one receives who is past `next` frames. -/
def receive (q : Queue) (next : Nat) : Received :=
  if q.sent ≤ next then .nothing
  else if next + q.kept.length < q.sent then .lagged (q.sent - q.kept.length - next)
  else
    match q.kept[q.sent - (next + 1)]? with
    | none => .nothing
    | some f => .frame f

/-- One who lags is told so at a frame that was sent. -/
theorem lt_of_receive {q : Queue} {next skipped : Nat} (h : q.receive next = .lagged skipped) :
    next < q.sent ∧ 0 < skipped := by
  rw [receive] at h
  split at h
  · exact absurd h (by simp)
  · split at h
    · obtain rfl := Received.lagged.inj h
      omega
    · split at h <;> exact absurd h (by simp)

/-- Receives until there is a frame, or nothing. One who lags goes on at the oldest frame kept. The
answer comes with the number of frames skipped, `missed` of them before. -/
def await (q : Queue) (next missed : Nat) : Option Frame × Nat :=
  match h : q.receive next with
  | .nothing => (none, missed)
  | .lagged skipped =>
    have := lt_of_receive h
    q.await (next + skipped) (missed + skipped)
  | .frame f => (some f, missed)
termination_by q.sent - next

end Queue

/-- One who waits for a frame. -/
structure Waiter where
  /-- How many frames had been published when it was made. -/
  seen : Nat
  /-- It has answered. -/
  finished : Bool
  deriving Repr, DecidableEq

namespace Waiter

/-- What a waiter says. -/
inductive Answer where
  | pending
  /-- A frame, or none because the stream is over. -/
  | frame (frame : Option Frame)
  /-- It has answered before. -/
  | finished
  deriving Repr, DecidableEq

/-- What a waiter says when `published`, the latest first, has been published, and how many
frames it has missed. `ended` says that nothing more will be published. -/
def poll (w : Waiter) (published : List Frame) (ended : Bool) : Answer × Nat × Waiter :=
  if w.finished then (.finished, 0, w)
  else match (Queue.ofPublished published).await w.seen 0 with
    | (some frame, missed) => (.frame (some frame), missed, { w with finished := true })
    | (none, missed) =>
      if ended then (.frame none, missed, { w with finished := true })
      else (.pending, missed, w)

/-- The event of a waiter that has missed frames. -/
def missedEvent (missed : Nat) : Log.Event :=
  ⟨.debug, .stream, "next_frame fell behind, skipping ahead", [("skipped", .number missed)]⟩

end Waiter

/-- Whether a watched value changed since the last check. -/
inductive Change where
  | changed
  | unchanged
  /-- Nothing can change any more, because there is no stream. -/
  | closed
  deriving Repr, DecidableEq

/-- What a subscription reports: it has seen `seen` versions of a value that is at `version`. -/
def Change.since (seen version : Nat) (closed : Bool) : Change :=
  if closed then .closed else if seen = version then .unchanged else .changed

end Mjpeg.Stream
