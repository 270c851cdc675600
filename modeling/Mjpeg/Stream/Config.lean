import Mjpeg.Decoder
import Mjpeg.Duration
import Mjpeg.SourceError

/-!
# Settings and failures of a stream
-/

namespace Mjpeg.Stream

/-- The settings of a stream. -/
structure Config where
  /-- The pause between a disconnect and the next attempt. -/
  retryDelay : Duration := ⟨5000⟩
  /-- How long the other side may stay silent. -/
  idleTimeout : Duration := ⟨3000⟩
  /-- The limit of the decoder. -/
  maxBuffer : Nat := defaultMaxBuffer
  deriving Repr, DecidableEq, Inhabited

/-- The state of the connection. -/
inductive ConnectionState where
  | disconnected
  | connecting
  | streaming
  deriving Repr, DecidableEq, Inhabited

/-- The name of a state. -/
def ConnectionState.name : ConnectionState → String
  | disconnected => "disconnected"
  | connecting => "connecting"
  | streaming => "streaming"

/-- Why an attempt or a session is over. -/
inductive Failure where
  | source (error : SourceError)
  | frame (error : FrameError)
  /-- The server closed the body. -/
  | ended
  /-- Nothing arrived for so long. -/
  | idle (limit : Duration)
  /-- No answer came for so long. -/
  | connectTimeout (limit : Duration)
  deriving Repr, DecidableEq

/-- The text of a failure. -/
def Failure.message : Failure → String
  | source error => "source error: " ++ error.message
  | frame error => "frame error: " ++ error.message
  | ended => "stream ended by server"
  | idle limit => "no data received for " ++ limit.display
  | connectTimeout limit => "no response within " ++ limit.display

end Mjpeg.Stream
