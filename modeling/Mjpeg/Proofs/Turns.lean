import Mjpeg.Proofs.Moves

/-!
# The turns of a running task

A task that is due takes one of ten turns. `Turn` lists them as rules, each with the moment at
which it is taken: an attempt is made, an attempt or a session fails, is left because the other
side stays silent for too long, or goes on. Whatever a task does when it is due is one of these
(`fire_turn`), so what every turn preserves holds of a task that is carried through time.

What the other side takes until it answers is an optional number of milliseconds, `none` when it
never answers. `IsLate` compares it with the time it has.
-/

namespace Mjpeg.Stream

/-! ### What is waited for -/

/-- The time until the answer to an attempt, if one comes. -/
def Attempt.answerTime? (a : Attempt) : Option Nat :=
  match a.answer with
  | .silent => none
  | .accepted _ _ | .failed _ => some a.delay

/-- The time until the next event of a body, if one comes. -/
def nextTime? : List (Nat × BodyEvent) → Option Nat
  | [] | (_, .stalled) :: _ => none
  | (delay, _) :: _ => some delay

/-- What is waited for needs strictly more time than `limit`. -/
def IsLate (limit : Nat) (time? : Option Nat) : Prop := ∀ time ∈ time?, limit < time

theorem isLate_none (limit : Nat) : IsLate limit none := by
  rintro time ⟨⟩

@[simp] theorem isLate_some_iff {limit time : Nat} : IsLate limit (some time) ↔ limit < time :=
  ⟨fun h => h time rfl, fun h _ heq => Option.some.inj heq ▸ h⟩

/-- Why a session is over when the other side says so. -/
def BodyEvent.closing? : BodyEvent → Option Failure
  | .ended => some .ended
  | .failed e => some (.source e)
  | .chunk _ | .stalled => none

/-- What a task does when a chunk arrives, until it waits again or the session is over. -/
def chunkActions (decoder : Decoder) (bytes : Bytes) : List Action :=
  .received bytes decoder.buffered :: (decoder.push bytes).drain.found.map Task.actionOfFind

/-! ### The rules -/

/-- What a task does at a moment at which it is due, and where it stands then. -/
inductive Turn : Task → Nat → List Action → Task → Prop
  /-- The pause is over: the next attempt is made. -/
  | attempt {config script fallback} (a : Attempt) (now : Nat) :
      Turn ⟨config, a :: script, fallback, .pausing now⟩ now [.connecting]
        ⟨config, script, fallback, .connecting now a⟩
  /-- Past the script an attempt fails at once. -/
  | refused {config fallback} (now : Nat) :
      Turn ⟨config, [], fallback, .pausing now⟩ now
        [.connecting, .disconnected (.source fallback) config.retryDelay]
        ⟨config, [], fallback, .pausing (now + config.retryDelay.millis)⟩
  /-- No answer came in time. -/
  | unanswered {config script fallback since} {a : Attempt}
      (late : IsLate config.idleTimeout.millis a.answerTime?) :
      Turn ⟨config, script, fallback, .connecting since a⟩ (since + config.idleTimeout.millis)
        [.disconnected (.connectTimeout config.idleTimeout) config.retryDelay]
        ⟨config, script, fallback,
          .pausing (since + config.idleTimeout.millis + config.retryDelay.millis)⟩
  /-- The attempt fails. -/
  | failed {config script fallback since delay e} (inTime : delay ≤ config.idleTimeout.millis) :
      Turn ⟨config, script, fallback, .connecting since ⟨delay, .failed e⟩⟩ (since + delay)
        [.disconnected (.source e) config.retryDelay]
        ⟨config, script, fallback, .pausing (since + delay + config.retryDelay.millis)⟩
  /-- The answer announces no boundary. -/
  | unusable {config script fallback since delay contentType body e}
      (inTime : delay ≤ config.idleTimeout.millis)
      (boundary : Boundary.ofContentType? contentType = .error e) :
      Turn ⟨config, script, fallback, .connecting since ⟨delay, .accepted contentType body⟩⟩
        (since + delay) [.opened, .released, .disconnected (.frame e) config.retryDelay]
        ⟨config, script, fallback, .pausing (since + delay + config.retryDelay.millis)⟩
  /-- The answer announces a boundary: a session begins. -/
  | connected {config script fallback since delay contentType body b}
      (inTime : delay ≤ config.idleTimeout.millis)
      (boundary : Boundary.ofContentType? contentType = .ok b) :
      Turn ⟨config, script, fallback, .connecting since ⟨delay, .accepted contentType body⟩⟩
        (since + delay) [.opened, .connected b]
        ⟨config, script, fallback,
          .streaming (since + delay) (.start b config.maxBuffer) body⟩
  /-- Nothing arrived in time. -/
  | idle {config script fallback since decoder body}
      (late : IsLate config.idleTimeout.millis (nextTime? body)) :
      Turn ⟨config, script, fallback, .streaming since decoder body⟩
        (since + config.idleTimeout.millis)
        [.released, .disconnected (.idle config.idleTimeout) config.retryDelay]
        ⟨config, script, fallback,
          .pausing (since + config.idleTimeout.millis + config.retryDelay.millis)⟩
  /-- The other side ends the session. -/
  | closed {config script fallback since decoder delay body} {event : BodyEvent} {reason : Failure}
      (inTime : delay ≤ config.idleTimeout.millis) (closing : event.closing? = some reason) :
      Turn ⟨config, script, fallback, .streaming since decoder ((delay, event) :: body)⟩
        (since + delay) [.released, .disconnected reason config.retryDelay]
        ⟨config, script, fallback, .pausing (since + delay + config.retryDelay.millis)⟩
  /-- A chunk arrives. -/
  | chunk {config script fallback since decoder delay body} {bytes : Bytes}
      (inTime : delay ≤ config.idleTimeout.millis)
      (fits : (decoder.push bytes).drain.error = none) :
      Turn ⟨config, script, fallback, .streaming since decoder ((delay, .chunk bytes) :: body)⟩
        (since + delay) (chunkActions decoder bytes)
        ⟨config, script, fallback,
          .streaming (since + delay) (decoder.push bytes).drain.decoder body⟩
  /-- A chunk arrives that leaves too many unclosed bytes behind. -/
  | overflow {config script fallback since decoder delay body} {bytes : Bytes} {e : FrameError}
      (inTime : delay ≤ config.idleTimeout.millis)
      (error : (decoder.push bytes).drain.error = some e) :
      Turn ⟨config, script, fallback, .streaming since decoder ((delay, .chunk bytes) :: body)⟩
        (since + delay)
        (chunkActions decoder bytes ++ [.released, .disconnected (.frame e) config.retryDelay])
        ⟨config, script, fallback, .pausing (since + delay + config.retryDelay.millis)⟩

section Rules

variable {config : Config} {script : List Attempt} {fallback : SourceError} {since : Nat}

/-- The answer to an attempt, or the end of the time it had, is one of four turns. -/
theorem answered_turn (a : Attempt) :
    let t : Task := ⟨config, script, fallback, .connecting since a⟩
    let now := since + Task.answerTime config a
    Turn t now (t.answered now a).1 (t.answered now a).2 := by
  obtain ⟨delay, answer⟩ := a
  intro t now
  by_cases hdelay : delay > config.idleTimeout.millis
  · -- whatever the answer is, it comes too late
    have hnow : now = since + config.idleTimeout.millis := by
      cases answer <;> simp only [now, Task.answerTime] <;> omega
    have hlate : IsLate config.idleTimeout.millis (Attempt.answerTime? ⟨delay, answer⟩) := by
      cases answer with
      | silent => exact isLate_none _
      | accepted | failed => exact isLate_some_iff.mpr hdelay
    rw [Task.answered, if_pos hdelay, hnow]
    exact Turn.unanswered hlate
  · rw [Task.answered, if_neg hdelay]
    have hle : delay ≤ config.idleTimeout.millis := Nat.le_of_not_lt hdelay
    have hmin : min delay config.idleTimeout.millis = delay := Nat.min_eq_left hle
    cases answer with
    | silent => exact Turn.unanswered (isLate_none _)
    | failed e =>
      have hnow : now = since + delay := congrArg (since + ·) hmin
      rw [hnow]
      exact Turn.failed hle
    | accepted contentType body =>
      have hnow : now = since + delay := congrArg (since + ·) hmin
      rw [hnow]
      dsimp only
      cases hboundary : Boundary.ofContentType? contentType with
      | error e => exact Turn.unusable hle hboundary
      | ok b => exact Turn.connected hle hboundary

/-- The next event of a body, or the end of the time it had, is one of four turns. -/
theorem nextEvent_turn (decoder : Decoder) (body : List (Nat × BodyEvent)) :
    let t : Task := ⟨config, script, fallback, .streaming since decoder body⟩
    let now := since + Task.eventTime config body
    Turn t now (t.nextEvent now decoder body).1 (t.nextEvent now decoder body).2 := by
  intro t now
  cases body with
  | nil => exact Turn.idle (isLate_none _)
  | cons event body =>
    obtain ⟨delay, event⟩ := event
    by_cases hdelay : delay > config.idleTimeout.millis
    · have hnow : now = since + config.idleTimeout.millis := by
        cases event <;> simp only [now, Task.eventTime] <;> omega
      have hlate : IsLate config.idleTimeout.millis (nextTime? ((delay, event) :: body)) := by
        cases event with
        | stalled => exact isLate_none _
        | chunk | ended | failed => exact isLate_some_iff.mpr hdelay
      unfold Task.nextEvent
      dsimp only
      rw [if_pos hdelay, hnow]
      exact Turn.idle hlate
    · unfold Task.nextEvent
      dsimp only
      rw [if_neg hdelay]
      have hle : delay ≤ config.idleTimeout.millis := Nat.le_of_not_lt hdelay
      have hmin : min delay config.idleTimeout.millis = delay := Nat.min_eq_left hle
      cases event with
      | stalled => exact Turn.idle (isLate_none _)
      | ended | failed =>
        have hnow : now = since + delay := congrArg (since + ·) hmin
        rw [hnow]
        exact Turn.closed hle rfl
      | chunk bytes =>
        have hnow : now = since + delay := congrArg (since + ·) hmin
        rw [hnow]
        dsimp only [Task.receive]
        cases herror : (decoder.push bytes).drain.error with
        | none => exact Turn.chunk hle herror
        | some e => exact Turn.overflow hle herror

end Rules

/-- **What a task does when it is due is one of the turns.** -/
theorem fire_turn {t : Task} {now : Nat} (h : t.due? = some now) :
    Turn t now (t.fire now).1 (t.fire now).2 := by
  obtain ⟨config, script, fallback, phase⟩ := t
  cases phase with
  | unstarted | dropped | stopped => exact absurd h (by simp [Task.due?])
  | pausing wake =>
    obtain rfl : wake = now := by
      simp only [Task.due?] at h
      split at h
      · exact absurd h (by simp)
      · exact Option.some.inj h
    cases script with
    | nil => exact Turn.refused wake
    | cons a script => exact Turn.attempt a wake
  | connecting since a =>
    obtain rfl := Option.some.inj h
    exact answered_turn a
  | streaming since decoder body =>
    obtain rfl := Option.some.inj h
    exact nextEvent_turn decoder body

end Mjpeg.Stream
