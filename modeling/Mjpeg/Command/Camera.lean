import Mjpeg.Command.Arguments
import Mjpeg.Command.Report
import Mjpeg.Http

/-!
# Commands that use a camera

`watch` prints the frames of a camera as they come, until as many as were asked for have been
printed. `snapshot` waits a while for one frame, writes it to a file and prints its record. A
command that has not ended when the patience of its environment does has no report.
-/

namespace Mjpeg.Command

/-- The connector for the URL of a camera. -/
def connector (url : String) : Except CommandError Http.Connector :=
  match Http.Connector.ofUrl url none with
  | .error e => .error (.ofSource "invalid stream url" e)
  | .ok c => .ok c

/-- The report of a command that failed before it did anything. -/
def Report.failed (env : Environment) (e : CommandError) : Report :=
  { files := env.files, error := some e }

/-- The settings that some arguments stand for. -/
def streamConfig (a : StreamArguments) : Except CommandError Stream.Config :=
  match a.config with
  | .error e => .error (.ofDuration e)
  | .ok config => .ok config

/-- Carries out some operations on a stream, one after the other. -/
def performAll (s : Stream) : List Stream.Operation → List Stream.Step
  | [] => []
  | op :: ops =>
    let step := s.perform op
    step :: performAll step.stream ops

/-! ### Watching -/

namespace Watch

/-- The publications among some actions, with their times. -/
def publications (actions : List (Nat × Stream.Action)) : List (Nat × Frame) :=
  actions.filterMap fun
    | (time, .published frame) => some (time, frame)
    | _ => none

/-- The event at the end of watching. -/
def closingEvent (board : Stream.Board) : Log.Event :=
  ⟨.info, .watch, "watch finished",
    [("frames", .number board.frames), ("sessions", .number board.sessions),
      ("disconnects", .number board.disconnects), ("malformed", .number board.malformed)]⟩

/-- What the loop over the frames has printed. -/
structure Printed where
  records : List FrameRecord
  /-- The time at which enough had been printed. -/
  ended? : Option Nat

/-- Prints the records of frames as they come, when some were printed before, until enough have
been printed. -/
def printing (count : Option Nat) (source : String) (printed : Nat) :
    List (Nat × Frame) → Printed
  | [] => ⟨[], none⟩
  | (time, frame) :: later =>
    let record : FrameRecord := ⟨printed + 1, source, frame, none⟩
    -- a frame is printed before it is asked whether that is enough
    if isEnough count (printed + 1) then ⟨[record], some time⟩
    else
      let rest := printing count source (printed + 1) later
      ⟨record :: rest.records, rest.ended?⟩

/-- The events and the board of a stream that is stopped at the given time. -/
def stoppedAt (url : String) (s : Stream) (time : Nat) : List Log.Event :=
  let steps := performAll s [.start, .advance time, .shutdown]
  steps.flatMap (·.events url) ++
    match steps.getLast? with
    | none => []
    | some last => [closingEvent last.stream.board]

/-- Carries out the command. -/
def report (arguments : WatchArguments) (env : Environment) : Option Report :=
  match streamConfig arguments.stream with
  | .error e => some (.failed env e)
  | .ok config =>
    match connector arguments.url with
    | .error e => some (.failed env e)
    | .ok c =>
      let s := Stream.create config env.camera.script env.camera.fallback
      -- a first run tells when enough has been printed, and a second one ends there
      let actions :=
        (performAll s [.start, .advance env.patience]).flatMap (·.actions)
      let printed := printing arguments.count c.target 0 (publications actions)
      printed.ended?.map fun time =>
        { records := printed.records
          closed := true
          events := stoppedAt c.target s time
          files := env.files }

end Watch

/-! ### Taking a snapshot -/

namespace Snapshot

/-- What the wait for the first frame comes to. -/
def answer? (steps : List Stream.Step) : Option Stream.Reply := (steps[2]?).map (·.reply)

/-- Writes the frame and prints its record. -/
def finish (arguments : SnapshotArguments) (env : Environment) (source : String)
    (events : List Log.Event) (frame : Frame) : Report :=
  match env.files.write arguments.output frame.payload with
  | .error e =>
    { events, files := env.files, error := some (.ofIo ("write " ++ arguments.output) e) }
  | .ok files =>
    { records := [⟨1, source, frame, some arguments.output⟩], closed := true, events, files }

/-- Carries out the command. -/
def report (arguments : SnapshotArguments) (env : Environment) : Option Report :=
  match Duration.parse arguments.timeout with
  | .error e => some (.failed env (.ofDuration e))
  | .ok timeout =>
    match connector arguments.url with
    | .error e => some (.failed env e)
    | .ok c =>
      match streamConfig arguments.stream with
      | .error e => some (.failed env e)
      | .ok config =>
        let s := Stream.create config env.camera.script env.camera.fallback
        let steps := performAll s
          [.nextFrame, .start, .wait 0 (min timeout.millis env.patience), .shutdown]
        let events := steps.flatMap (·.events c.target)
        match answer? steps with
        | some (.waiter (.frame (some frame))) =>
          some (finish arguments env c.target events frame)
        | some .timeout =>
          if timeout.millis ≤ env.patience then
            some
              { events, files := env.files
                error := some ⟨.timeout, "no frame received within " ++ timeout.display⟩ }
          else none
        | _ =>
          some
            { events, files := env.files
              error := some ⟨.failure, "stream stopped before a frame arrived"⟩ }

end Snapshot

end Mjpeg.Command
