import Mjpeg.Bytes
import Mjpeg.Text.Blank

/-!
# Frames

A frame is one image of a stream, with the headers of the part that carried it.
-/

namespace Mjpeg

/-- One image and the headers it came with, in arrival order and with their names as sent. -/
structure Frame where
  headers : List (String × String)
  payload : Bytes
  deriving Repr, DecidableEq, Inhabited

namespace Frame

/-- The value of the first header of that name, in whatever case. -/
def header? (f : Frame) (name : String) : Option String :=
  (f.headers.find? fun (key, _) => Text.eqIgnoringCase key.toList name.toList).map (·.2)

/-- The declared content type of the image. -/
def contentType? (f : Frame) : Option String := f.header? "content-type"

/-- The number of octets of the image. -/
def size (f : Frame) : Nat := f.payload.length

end Frame

end Mjpeg
