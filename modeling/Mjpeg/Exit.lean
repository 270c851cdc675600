import Mjpeg.Duration
import Mjpeg.FrameError
import Mjpeg.SourceError

/-!
# How a command line ends

A command succeeds or fails with one message. The exit code tells a caller what kind of failure
it was: a refused permission, unusable input, a wrong argument, a timeout, a source that cannot
be used, or something inside the program or the system.
-/

namespace Mjpeg

/-- The kinds of ending, each with an exit code of its own. -/
inductive Exit where
  | success
  | failure
  | usageSyntax
  | sourceError
  | permissionDenied
  | dataInvalid
  | usage
  | timeout
  | internal
  deriving Repr, DecidableEq, Inhabited

/-- The exit code of an ending. -/
def Exit.code : Exit → Nat
  | success => 0
  | failure => 1
  | usageSyntax => 2
  | sourceError => 3
  | permissionDenied => 50
  | dataInvalid => 60
  | usage => 64
  | timeout => 124
  | internal => 125

/-- Why a command failed. -/
structure CommandError where
  exit : Exit
  message : String
  deriving Repr, DecidableEq, Inhabited

namespace CommandError

/-- The failure of a step that read or wrote. -/
def ofIo (context : String) (e : IoError) : CommandError :=
  let exit := match e.kind with
    | .permissionDenied => .permissionDenied
    | .timedOut | .wouldBlock => .timeout
    | .notFound | .connectionRefused => .failure
    | _ => .internal
  ⟨exit, context ++ ": " ++ e.message⟩

/-- The failure of a step that used a source. -/
def ofSource (context : String) (e : SourceError) : CommandError :=
  match e with
  | .invalidUrl _ _ => ⟨.usage, context ++ ": " ++ e.message⟩
  | .io inner => ofIo context inner
  | .request _ | .status _ _ => ⟨.sourceError, context ++ ": " ++ e.message⟩

/-- The failure of a step that took frames from a body or put them into one. -/
def ofFrame (context : String) (e : FrameError) : CommandError :=
  match e with
  | .io inner => ofIo context inner
  | .missingContentType | .missingBoundary _ | .bufferOverflow _ _ =>
    ⟨.dataInvalid, context ++ ": " ++ e.message⟩
  | .connectionClosed => ⟨.failure, context ++ ": " ++ e.message⟩

/-- The failure of an argument that should have been a duration. -/
def ofDuration (e : Duration.ParseError) : CommandError := ⟨.usage, e.message⟩

end CommandError

end Mjpeg
