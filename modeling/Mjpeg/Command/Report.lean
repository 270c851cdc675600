import Mjpeg.Exit
import Mjpeg.FileTree
import Mjpeg.Output
import Mjpeg.Stream

/-!
# What a command does

A command works in an environment: its standard input, the files of the working directory, and
a camera that answers as it will. Its report tells what it has printed, logged and written, and
how it ended.
-/

namespace Mjpeg.Command

/-- How the cameras behind all URLs answer. -/
structure Camera where
  /-- What the connection attempts of a stream come to. -/
  script : List Stream.Attempt
  /-- How attempts past the script fail. -/
  fallback : SourceError
  deriving Repr, DecidableEq

/-- What a command finds. -/
structure Environment where
  stdin : Bytes
  files : FileTree
  camera : Camera
  /-- The filter that the environment names. -/
  logFilter : Option String
  /-- The time that printed records carry. -/
  clock : String
  /-- For how many milliseconds a command that does not end by itself is waited for. -/
  patience : Nat

/-- What a command has done when it has ended. -/
structure Report where
  /-- The records that were printed, in order. -/
  records : List FrameRecord := []
  /-- The printing was brought to its end. -/
  closed : Bool := false
  /-- The events that were logged, in order, shown or not. -/
  events : List Log.Event := []
  files : FileTree
  /-- Why it failed, if it did. -/
  error : Option CommandError := none

/-- So many printed frames are enough. Without a number it is never enough. -/
def isEnough (count : Option Nat) (printed : Nat) : Bool :=
  match count with
  | none => false
  | some count => count ≤ printed

end Mjpeg.Command
