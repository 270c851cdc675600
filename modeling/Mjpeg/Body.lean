import Mjpeg.Part

/-!
# A whole multipart body

The segments of a body are the pieces that its delimiters close, and its frames are those of
the segments that carry one. What stands behind the last delimiter belongs to no segment.
-/

namespace Mjpeg.Body

/-- The pieces of a body that are closed by a delimiter. -/
def segments (b : Boundary) (body : Bytes) : List Bytes :=
  (Bytes.Splits.start body b.delimiter none).toPieces.1

/-- What stands behind the last delimiter. -/
def remainder (b : Boundary) (body : Bytes) : Bytes :=
  (Bytes.Splits.start body b.delimiter none).toPieces.2.rest

/-- A segment that carries no frame although it is not blank. -/
def isMalformed (segment : Bytes) : Bool :=
  (Part.ofSegment? segment).isNone && !Bytes.isBlank segment

/-- The frames of a body, in order. -/
def frames (b : Boundary) (body : Bytes) : List Frame :=
  (segments b body).filterMap Part.ofSegment?

end Mjpeg.Body
