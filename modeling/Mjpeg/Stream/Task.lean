import Mjpeg.Stream.Config
import Mjpeg.Stream.Script

/-!
# The running part of a stream

A task keeps one connection going: it connects, decodes the body, and after any failure pauses
and connects again, until it is stopped. Time is a number of milliseconds, and nothing takes
time but waiting, so a task is a state machine: `due?` says when it will act next unless it is
stopped before, and `fire` is what it does then. An answer that takes exactly as long as the
other side may stay silent still counts.

`runUntil` carries a task to a given time and lists what it did on the way. It ends because a
step either uses up a piece of the script or, past the script, comes a pause later than the
one before.
-/

namespace Mjpeg.Stream

/-- What a task does, in the order in which it does it. -/
inductive Action where
  | starting
  /-- It asks for a connection. -/
  | connecting
  /-- The answer is a source, which it holds from now on. -/
  | opened
  /-- The answer announces a boundary. -/
  | connected (boundary : Boundary)
  /-- A chunk comes while so many bytes are buffered. -/
  | received (chunk : Bytes) (buffered : Nat)
  /-- A segment of so many bytes is malformed. -/
  | skipped (length : Nat)
  | published (frame : Frame)
  /-- It lets go of the source it holds. -/
  | released
  /-- The attempt or the session is over, and the next attempt is so far away. -/
  | disconnected (reason : Failure) (retryIn : Duration)
  | stopped
  deriving DecidableEq

/-- Where a task stands. -/
inductive Phase where
  | unstarted
  /-- Nobody can start it any more. -/
  | dropped
  /-- The next attempt is made at the time `wake`. -/
  | pausing (wake : Nat)
  /-- The attempt was made at the time `since`. -/
  | connecting (since : Nat) (attempt : Attempt)
  /-- The last sign of life came at the time `since`; `body` is still to come. -/
  | streaming (since : Nat) (decoder : Decoder) (body : List (Nat × BodyEvent))
  | stopped

/-- The running part of a stream. -/
structure Task where
  config : Config
  /-- What the attempts to come will come to. -/
  script : List Attempt
  /-- How every attempt fails at once when the script is used up. -/
  fallback : SourceError
  phase : Phase

namespace Task

/-- How long the answer to an attempt is waited for. -/
def answerTime (config : Config) (a : Attempt) : Nat :=
  match a.answer with
  | .silent => config.idleTimeout.millis
  | .accepted _ _ | .failed _ => min a.delay config.idleTimeout.millis

/-- How long the next event of a body is waited for. -/
def eventTime (config : Config) : List (Nat × BodyEvent) → Nat
  | [] | (_, .stalled) :: _ => config.idleTimeout.millis
  | (delay, _) :: _ => min delay config.idleTimeout.millis

/-- The time at which a task acts next. Without a pause between attempts that all fail at once
it would act without end at one moment, and such a task does not act. -/
def due? (t : Task) : Option Nat :=
  match t.phase with
  | .unstarted | .dropped | .stopped => none
  | .pausing wake =>
    if t.script.isEmpty && t.config.retryDelay.millis == 0 then none else some wake
  | .connecting since a => some (since + answerTime t.config a)
  | .streaming since _ body => some (since + eventTime t.config body)

/-- The end of an attempt or a session. -/
def disconnect (t : Task) (now : Nat) (reason : Failure) : List Action × Task :=
  ([.disconnected reason t.config.retryDelay],
    { t with phase := .pausing (now + t.config.retryDelay.millis) })

/-- The end of an attempt or a session for which a source had been opened. -/
def release (t : Task) (now : Nat) (reason : Failure) : List Action × Task :=
  let (actions, t) := t.disconnect now reason
  (.released :: actions, t)

/-- The action that goes with what a decoder comes across. -/
def actionOfFind : Decoder.Find → Action
  | .malformed length => .skipped length
  | .frame frame => .published frame

/-- A chunk arrives. -/
def receive (t : Task) (now : Nat) (decoder : Decoder) (bytes : Bytes)
    (body : List (Nat × BodyEvent)) : List Action × Task :=
  let drain := (decoder.push bytes).drain
  let seen := .received bytes decoder.buffered :: drain.found.map actionOfFind
  match drain.error with
  -- the frames found before the limit was passed are published all the same
  | none => (seen, { t with phase := .streaming now drain.decoder body })
  | some e =>
    let (actions, t) := t.release now (.frame e)
    (seen ++ actions, t)

/-- The next event of a body, or the end of the time it had. -/
def nextEvent (t : Task) (now : Nat) (decoder : Decoder) :
    List (Nat × BodyEvent) → List Action × Task
  | [] => t.release now (.idle t.config.idleTimeout)
  | (delay, event) :: body =>
    if delay > t.config.idleTimeout.millis then t.release now (.idle t.config.idleTimeout)
    else match event with
      | .chunk bytes => t.receive now decoder bytes body
      | .ended => t.release now .ended
      | .failed e => t.release now (.source e)
      | .stalled => t.release now (.idle t.config.idleTimeout)

/-- The answer to an attempt, or the end of the time it had. -/
def answered (t : Task) (now : Nat) (a : Attempt) : List Action × Task :=
  if a.delay > t.config.idleTimeout.millis then
    t.disconnect now (.connectTimeout t.config.idleTimeout)
  else match a.answer with
    | .silent => t.disconnect now (.connectTimeout t.config.idleTimeout)
    | .failed e => t.disconnect now (.source e)
    | .accepted contentType body =>
      match Boundary.ofContentType? contentType with
      | .error e =>
        let (actions, t) := t.release now (.frame e)
        (.opened :: actions, t)
      | .ok b =>
        ([.opened, .connected b],
          { t with phase := .streaming now (Decoder.start b t.config.maxBuffer) body })

/-- What a task does at the time `now` at which it is due. -/
def fire (t : Task) (now : Nat) : List Action × Task :=
  match t.phase with
  | .unstarted | .dropped | .stopped => ([], t)
  | .pausing _ =>
    match t.script with
    | [] =>
      let (actions, t) := t.disconnect now (.source t.fallback)
      (.connecting :: actions, t)
    | a :: script => ([.connecting], { t with script, phase := .connecting now a })
  | .connecting _ a => t.answered now a
  | .streaming _ decoder body => t.nextEvent now decoder body

/-! ### How much script is left -/

/-- The number of events of an answer. -/
def answerWork : Answer → Nat
  | .accepted _ body => body.length
  | .failed _ | .silent => 0

/-- The number of steps that a phase still has before the task pauses. -/
def phaseWork : Phase → Nat
  | .connecting _ a => answerWork a.answer + 2
  | .streaming _ _ body => body.length + 1
  | .unstarted | .dropped | .pausing _ | .stopped => 0

/-- The number of steps that attempts to come have. -/
def scriptWork (script : List Attempt) : Nat :=
  script.foldr (fun a n => answerWork a.answer + 3 + n) 0

/-- The number of steps that the script still has. -/
def work (t : Task) : Nat := scriptWork t.script + phaseWork t.phase

theorem work_disconnect (t : Task) (now : Nat) (reason : Failure) :
    (t.disconnect now reason).2.work = scriptWork t.script := rfl

theorem work_release (t : Task) (now : Nat) (reason : Failure) :
    (t.release now reason).2.work = scriptWork t.script := rfl

theorem work_receive_le (t : Task) (now : Nat) (decoder : Decoder) (bytes : Bytes)
    (body : List (Nat × BodyEvent)) :
    (t.receive now decoder bytes body).2.work ≤ scriptWork t.script + (body.length + 1) := by
  unfold receive
  dsimp only
  split
  · exact Nat.le_refl _
  · exact Nat.le_add_right _ _

theorem work_nextEvent_le (t : Task) (now : Nat) (decoder : Decoder)
    (body : List (Nat × BodyEvent)) :
    (t.nextEvent now decoder body).2.work ≤ scriptWork t.script + body.length := by
  unfold nextEvent
  split
  · exact Nat.le_refl _
  · split
    · exact Nat.le_add_right _ _
    · split
      · exact work_receive_le ..
      all_goals exact Nat.le_add_right _ _

theorem work_answered_lt (t : Task) (now : Nat) (a : Attempt) :
    (t.answered now a).2.work < scriptWork t.script + (answerWork a.answer + 2) := by
  unfold answered
  split
  · rw [work_disconnect]; omega
  · split
    · rw [work_disconnect]; omega
    · rw [work_disconnect]; omega
    · split
      · rw [work_release]; omega
      · rename_i _ contentType body hanswer _ b _
        rw [hanswer]
        exact Nat.lt_succ_self _

/-- A step uses up a piece of the script, or there is none and the next step is later. -/
theorem work_fire_lt_or {t : Task} {now : Nat} (h : t.due? = some now) :
    (t.fire now).2.work < t.work ∨
      (t.fire now).2.work = t.work ∧ ∀ next, (t.fire now).2.due? = some next → now < next := by
  obtain ⟨config, script, fallback, phase⟩ := t
  match phase, script with
  | .unstarted, _ | .dropped, _ | .stopped, _ => simp [due?] at h
  | .pausing wake, [] =>
    -- past the script an attempt fails at once, and the next one is a whole pause away
    have hpos : config.retryDelay.millis ≠ 0 := by
      intro h0
      simp [due?, h0] at h
    refine Or.inr ⟨rfl, fun next hnext => ?_⟩
    simp [fire, disconnect, due?, hpos] at hnext
    omega
  | .pausing wake, a :: script =>
    -- an attempt is taken from the script
    left
    simp only [fire, work, phaseWork, scriptWork, List.foldr_cons]
    omega
  | .connecting since a, script => exact Or.inl (work_answered_lt ..)
  | .streaming since decoder body, script =>
    exact Or.inl (Nat.lt_succ_of_le (work_nextEvent_le ..))

/-! ### Running -/

/-- Carries a task to the time `target`: what it did on the way, with the times, and where it
stands then. What is due at `target` itself is done. -/
def runUntil (target : Nat) (t : Task) : List (Nat × Action) × Task :=
  match _hdue : t.due? with
  | none => ([], t)
  | some now =>
    if now ≤ target then
      let step := t.fire now
      let run := step.2.runUntil target
      (step.1.map (now, ·) ++ run.1, run.2)
    else ([], t)
termination_by (t.work, target + 1 - t.due?.getD (target + 1))
decreasing_by
  rcases work_fire_lt_or _hdue with hlt | ⟨heq, hnext⟩
  · exact Prod.Lex.left _ _ hlt
  · rw [heq, _hdue]
    refine Prod.Lex.right _ ?_
    match hdue : (t.fire now).2.due? with
    | none => simp only [Option.getD_none, Option.getD_some]; omega
    | some next =>
      have := hnext next hdue
      simp only [Option.getD_some]
      omega

/-- Starts a task at the time `now`, or starts and stops it when it is not wanted any more. -/
def start (t : Task) (now : Nat) (cancelled : Bool) : List Action × Task :=
  match t.phase with
  | .unstarted =>
    if cancelled then ([.starting, .stopped], { t with phase := .stopped })
    else ([.starting], { t with phase := .pausing now })
  | _ => ([], t)

/-- Gives up a task that was not started. -/
def drop (t : Task) : Task :=
  match t.phase with
  | .unstarted => { t with phase := .dropped }
  | _ => t

/-- Stops a task. One that was not started stays so. -/
def stop (t : Task) : List Action × Task :=
  match t.phase with
  | .unstarted | .dropped | .stopped => ([], t)
  | .pausing _ | .connecting _ _ => ([.stopped], { t with phase := .stopped })
  | .streaming _ _ _ => ([.released, .stopped], { t with phase := .stopped })

end Task

end Mjpeg.Stream
