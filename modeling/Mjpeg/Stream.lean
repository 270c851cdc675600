import Mjpeg.Stream.Observer

/-!
# A stream and those who watch it

A stream keeps the latest frame of a camera. It is started once, runs until it is stopped, and
is watched through handles, waiters and subscriptions. `perform` carries out one operation at
the present moment; only `advance` and `wait` let time pass. What the task did meanwhile is
part of the answer.
-/

namespace Mjpeg

/-- A stream, its watchers and the present time. -/
structure Stream where
  task : Stream.Task
  now : Nat
  board : Stream.Board
  /-- Somebody asked for the stream to be stopped. -/
  cancelled : Bool
  /-- The stream was started. -/
  spawned : Bool
  /-- How many handles there are. -/
  handles : Nat
  waiters : List Stream.Waiter
  /-- For each subscription to the frames, how many it has seen. -/
  frameSeen : List Nat
  /-- For each subscription to the state, how many assignments it has seen. -/
  stateSeen : List Nat

namespace Stream

/-- A stream that was not started, with one handle. Past the script, attempts fail with
`fallback`. -/
def create (config : Config) (script : List Attempt) (fallback : SourceError) : Stream where
  task := ⟨config, script, fallback, .unstarted⟩
  now := 0
  board := {}
  cancelled := false
  spawned := false
  handles := 1
  waiters := []
  frameSeen := []
  stateSeen := []

/-- What can be asked of a stream and its watchers, which are numbered from zero in the order
in which they were made. -/
inductive Operation where
  | config
  | start
  | drop
  | advance (millis : Nat)
  | shutdown
  | clone
  | nextFrame
  | poll (waiter : Nat)
  /-- Lets time pass until the waiter answers, at most so long. -/
  | wait (waiter millis : Nat)
  | subscribe
  | checkFrame (subscription : Nat)
  | watchState
  | checkState (subscription : Nat)
  | isFinished
  deriving Repr, DecidableEq

/-- What an operation answers. -/
inductive Reply where
  | nothing
  | config (config : Config)
  /-- The number of a new handle, waiter or subscription. -/
  | number (n : Nat)
  | waiter (answer : Waiter.Answer)
  | timeout
  | frame (change : Change) (latest : Option Frame)
  | state (change : Change) (state : ConnectionState)
  | flag (value : Bool)
  deriving Repr, DecidableEq

/-- What an operation comes to. -/
structure Step where
  stream : Stream
  reply : Reply
  /-- What the task did, and when. -/
  actions : List (Nat × Action)
  /-- The number of frames that a waiter has missed. -/
  missed : Nat

/-- The stream has not been started and can be. -/
def isUnstarted (s : Stream) : Bool :=
  match s.task.phase with
  | .unstarted => true
  | _ => false

/-- There is no stream any more, only those who watched it. -/
def isGone (s : Stream) : Bool :=
  match s.task.phase with
  | .dropped | .stopped => true
  | _ => false

/-- No frame will be published any more. -/
def isOver (s : Stream) : Bool := s.cancelled || s.isGone

/-- The stream after its task did something and stands somewhere else. -/
def record (s : Stream) (actions : List Action) (task : Task) : Stream :=
  { s with task, board := actions.foldl Board.record s.board }

/-- Lets time pass up to the given moment. -/
def runTo (s : Stream) (time : Nat) : List (Nat × Action) × Stream :=
  let (actions, task) := s.task.runUntil time
  (actions, { s.record (actions.map (·.2)) task with now := time })

/-- Starts the stream, and does what is due at once. -/
def start (s : Stream) : List (Nat × Action) × Stream :=
  let (first, task) := s.task.start s.now s.cancelled
  let (later, s') := (s.record first task).runTo s.now
  (first.map (s.now, ·) ++ later,
    if s.isUnstarted then { s' with spawned := true, handles := s.handles + 1 } else s')

/-- Stops the stream for good. -/
def shutdown (s : Stream) : List (Nat × Action) × Stream :=
  let (actions, task) := s.task.stop
  (actions.map (s.now, ·), { s.record actions task with cancelled := true })

/-- The time of the first publication among some actions. -/
def firstPublication? (actions : List (Nat × Action)) : Option Nat :=
  actions.findSome? fun
    | (time, .published _) => some time
    | _ => none

/-- Asks a waiter, after the given actions. -/
def ask (s : Stream) (i : Nat) (w : Waiter) (actions : List (Nat × Action)) : Step :=
  let (answer, missed, w) := w.poll s.board.published s.isOver
  ⟨{ s with waiters := s.waiters.set i w }, .waiter answer, actions, missed⟩

/-- Lets time pass until a waiter answers, at most `millis`. -/
def wait (s : Stream) (i : Nat) (w : Waiter) (millis : Nat) : Step :=
  if (w.poll s.board.published s.isOver).1 = .pending then
    let deadline := s.now + millis
    match firstPublication? (s.task.runUntil deadline).1 with
    | some time =>
      let (actions, s) := s.runTo time
      s.ask i w actions
    | none =>
      let (actions, s) := s.runTo deadline
      ⟨s, .timeout, actions, 0⟩
  else s.ask i w []

/-- Carries out an operation. -/
def perform (s : Stream) : Operation → Step
  | .config => ⟨s, if s.isUnstarted then .config s.task.config else .nothing, [], 0⟩
  | .start => let (actions, s) := s.start; ⟨s, .nothing, actions, 0⟩
  | .drop => ⟨{ s with task := s.task.drop }, .nothing, [], 0⟩
  | .advance millis => let (actions, s) := s.runTo (s.now + millis); ⟨s, .nothing, actions, 0⟩
  | .shutdown => let (actions, s) := s.shutdown; ⟨s, .nothing, actions, 0⟩
  | .clone => ⟨{ s with handles := s.handles + 1 }, .number s.handles, [], 0⟩
  | .nextFrame =>
    ⟨{ s with waiters := s.waiters ++ [⟨s.board.frames, false⟩] }, .number s.waiters.length, [], 0⟩
  | .poll i =>
    match s.waiters[i]? with
    | none => ⟨s, .nothing, [], 0⟩
    | some w => s.ask i w []
  | .wait i millis =>
    match s.waiters[i]? with
    | none => ⟨s, .nothing, [], 0⟩
    | some w => s.wait i w millis
  | .subscribe => ⟨{ s with frameSeen := s.frameSeen ++ [0] }, .number s.frameSeen.length, [], 0⟩
  | .checkFrame i =>
    match s.frameSeen[i]? with
    | none => ⟨s, .nothing, [], 0⟩
    | some seen =>
      ⟨{ s with frameSeen := s.frameSeen.set i s.board.frames },
        .frame (.since seen s.board.frames s.isGone) s.board.latest?, [], 0⟩
  | .watchState => ⟨{ s with stateSeen := s.stateSeen ++ [0] }, .number s.stateSeen.length, [], 0⟩
  | .checkState i =>
    match s.stateSeen[i]? with
    | none => ⟨s, .nothing, [], 0⟩
    | some seen =>
      ⟨{ s with stateSeen := s.stateSeen.set i s.board.assignments },
        .state (.since seen s.board.assignments s.isGone) s.board.state, [], 0⟩
  | .isFinished =>
    ⟨s, if s.spawned then .flag s.isGone else .nothing, [], 0⟩

/-- The events that the log shows for a step of a stream from `url`. -/
def Step.events (step : Step) (url : String) : List Log.Event :=
  step.actions.filterMap (fun (_, action) => action.event? url) ++
    if step.missed = 0 then [] else [Waiter.missedEvent step.missed]

end Stream

end Mjpeg
