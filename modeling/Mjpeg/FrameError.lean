import Mjpeg.IoError
import Mjpeg.Text.Quoted

/-!
# What can go wrong with a multipart body
-/

namespace Mjpeg

/-- A reason why no boundary, no frame or no write came about. -/
inductive FrameError where
  /-- The response announces no content type at all. -/
  | missingContentType
  /-- The content type names no usable boundary. -/
  | missingBoundary (contentType : String)
  /-- More unclosed bytes have come together than the limit allows. -/
  | bufferOverflow (size max : Nat)
  | io (error : IoError)
  /-- The other side ended the body. -/
  | connectionClosed
  deriving Repr, DecidableEq, Inhabited

/-- The text of an error. -/
def FrameError.message : FrameError → String
  | missingContentType => "response has no content type"
  | missingBoundary contentType =>
    "content type " ++ Text.quoted contentType ++ " has no boundary parameter"
  | bufferOverflow size max =>
    "accumulation buffer overflow (" ++ toString size ++ " bytes, max " ++ toString max ++ ")"
  | io error => "multipart I/O error: " ++ error.message
  | connectionClosed => "stream closed (no further complete frame)"

end Mjpeg
