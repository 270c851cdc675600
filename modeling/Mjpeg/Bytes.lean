/-!
# Byte strings

Segments, payloads and everything that travels over a connection are lists of octets.
`ofText` is the UTF-8 encoding of a text, so that the constants of a wire format can be
written as string literals and still reduce in the kernel.
-/

namespace Mjpeg

/-- A finite sequence of octets. -/
abbrev Bytes := List UInt8

namespace Bytes

/-- The UTF-8 encoding of a text. -/
def ofText (s : String) : Bytes :=
  s.toList.flatMap String.utf8EncodeChar

/-- The line end of every header line: carriage return, line feed. -/
def crlf : Bytes := [13, 10]

/-- The blank line between the headers of a part and its payload. -/
def headEnd : Bytes := [13, 10, 13, 10]

/-- An ASCII white-space octet: space, tab, line feed, form feed or carriage return. -/
def isBlankOctet (b : UInt8) : Bool :=
  b == 32 || b == 9 || b == 10 || b == 12 || b == 13

/-- Every octet is ASCII white space; the empty byte string is blank. -/
def isBlank (bs : Bytes) : Bool := bs.all isBlankOctet

/-- The bytes without one `suffix` at their end, or unchanged when they do not end so. -/
def dropSuffix (bs suffix : Bytes) : Bytes :=
  if suffix.isSuffixOf bs then bs.take (bs.length - suffix.length) else bs

end Bytes

end Mjpeg
