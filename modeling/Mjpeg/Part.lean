import Mjpeg.Boundary
import Mjpeg.Bytes.Splits
import Mjpeg.Frame

/-!
# Parts of a multipart body

A part is what stands between two delimiters: header lines, a blank line, the payload, and
the line end that belongs to the delimiter behind it.

`ofSegment?` reads a part. Bytes without a blank line, or with nothing behind the first one
but a line end, carry no frame. A header line that is not UTF-8, has no colon or has no name
is passed over. `encode` writes a part with a content type and a length.
-/

namespace Mjpeg.Part

/-- The name and the value of a header line. -/
def headerOfLine? (line : Bytes) : Option (String × String) := do
  let text ← Text.decode? line
  let (name, value) ← Text.splitOnce ':' text
  let name := Text.trim name
  if name.isEmpty then none else some (String.ofList name, String.ofList (Text.trim value))

/-- The headers of the lines before the blank line. -/
def headersOfHead (head : Bytes) : List (String × String) :=
  (Bytes.split head Bytes.crlf none).filterMap headerOfLine?

/-- The frame that a segment carries. -/
def ofSegment? (segment : Bytes) : Option Frame :=
  match Bytes.split segment Bytes.headEnd (some 1) with
  | [head, body] =>
    -- the line end before a delimiter belongs to the delimiter
    let payload := body.dropSuffix Bytes.crlf
    if payload.isEmpty then none else some ⟨headersOfHead head, payload⟩
  | _ => none

/-- The bytes of a part from behind its opening delimiter up to the closing one. -/
def encode (contentType : String) (payload : Bytes) : Bytes :=
  Bytes.crlf ++ (Bytes.ofText "Content-Type: " ++ (Bytes.ofText contentType ++ (Bytes.crlf ++
    (Bytes.ofText "Content-Length: " ++ (Bytes.ofText (toString payload.length) ++
      (Bytes.headEnd ++ (payload ++ Bytes.crlf)))))))

end Mjpeg.Part

namespace Mjpeg.Boundary

/-- A part with the delimiter that opens it. -/
def encodePart (b : Boundary) (contentType : String) (payload : Bytes) : Bytes :=
  b.delimiter ++ Part.encode contentType payload

end Mjpeg.Boundary
