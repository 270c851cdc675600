/-!
# Log events

What the program tells about its work: a level, the part of the program that speaks, a
message and named values. Whether an event is shown, and how it is written down, is decided
by whoever collects the events.
-/

namespace Mjpeg.Log

/-- How much an event matters, from the least to the most. -/
inductive Level where
  | trace
  | debug
  | info
  | warn
  | error
  deriving Repr, DecidableEq, Inhabited

/-- The rank of a level: the more an event matters, the lower its rank. -/
def Level.verbosity : Level → Nat
  | error => 1
  | warn => 2
  | info => 3
  | debug => 4
  | trace => 5

/-- The name of a level in a log line. -/
def Level.label : Level → String
  | trace => "TRACE"
  | debug => "DEBUG"
  | info => "INFO"
  | warn => "WARN"
  | error => "ERROR"

/-- The name of a level in an option or a filter. -/
def Level.name : Level → String
  | trace => "trace"
  | debug => "debug"
  | info => "info"
  | warn => "warn"
  | error => "error"

/-- The parts of the program that log. -/
inductive Target where
  | decoder
  | stream
  | http
  | watch
  | extract
  deriving Repr, DecidableEq, Inhabited

/-- The path by which a filter selects a part of the program. -/
def Target.path : Target → String
  | decoder => "snapshooter_frame::decoder"
  | stream => "snapshooter_stream::stream"
  | http => "snapshooter_source::http"
  | watch => "snapshooter::cmd::watch"
  | extract => "snapshooter::cmd::extract"

/-- A named value of an event. -/
inductive Value where
  | number (n : Nat)
  /-- A text that stands in a log line as it is. -/
  | plain (s : String)
  /-- A text that stands in a log line between quotes. -/
  | quoted (s : String)
  deriving Repr, DecidableEq, Inhabited

/-- One event. -/
structure Event where
  level : Level
  target : Target
  message : String
  fields : List (String × Value)
  deriving Repr, DecidableEq, Inhabited

end Mjpeg.Log
