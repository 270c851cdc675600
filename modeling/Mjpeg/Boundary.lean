import Mjpeg.FrameError
import Mjpeg.Text.Blank
import Mjpeg.Text.Split
import Mjpeg.Text.Utf8

/-!
# Boundaries of a multipart body

A boundary is a non-empty token. On the wire it stands behind two dashes, and that
*delimiter* closes one part and opens the next.

A response announces its boundary in the content type `multipart/x-mixed-replace`, as the
parameter `boundary`. `ofContentType?` finds it: parameters are separated by the semicolons
outside double quotes, the first one named `boundary` counts, and its value may be quoted.
`contentType` is the announcement of a boundary, with the token bare.
-/

namespace Mjpeg

/-- The token that separates the parts of a body. -/
structure Boundary where
  token : Bytes
  token_ne_nil : token ≠ []
  deriving DecidableEq

namespace Boundary

/-- The boundary with the given token, unless the token is empty. -/
def ofToken? (token : Bytes) : Except FrameError Boundary :=
  if h : token = [] then .error (.missingBoundary "") else .ok ⟨token, h⟩

/-- What stands between two parts: two dashes and the token. -/
def delimiter (b : Boundary) : Bytes := 45 :: 45 :: b.token

theorem two_lt_length_delimiter (b : Boundary) : 2 < b.delimiter.length := by
  have := List.length_pos_iff.mpr b.token_ne_nil
  simp only [delimiter, List.length_cons]
  omega

/-! ### The announcement -/

/-- The pieces between the semicolons outside double quotes. `inQuotes` says whether the text
starts within quotes; every double quote turns that over. -/
def parameters (inQuotes : Bool) : List Char → List (List Char)
  | [] => [[]]
  | c :: cs =>
    let inQuotes := if c = '"' then !inQuotes else inQuotes
    if c = ';' && !inQuotes then [] :: parameters inQuotes cs
    else (parameters inQuotes cs).modifyHead (c :: ·)

/-- The value of a parameter without the double quotes around it. A value that opens a quote
and does not end with one has no meaning. -/
def unquote? : List Char → Option (List Char)
  | '"' :: cs => if cs.getLast? = some '"' then some cs.dropLast else none
  | cs => some cs

/-- The value of the first parameter named `boundary`, in whatever case. What precedes the
first semicolon is no parameter, and neither is a piece without an equal sign. -/
def boundaryValue? (contentType : List Char) : Option (List Char) :=
  ((parameters false contentType).tail.filterMap (Text.splitOnce '=')).find?
    (fun (key, _) => Text.eqIgnoringCase (Text.trim key) "boundary".toList)
    |>.map (fun (_, value) => Text.trim value)

/-- The boundary that a content type announces. -/
def ofContentType? (contentType : Option String) : Except FrameError Boundary :=
  match contentType with
  | none => .error .missingContentType
  | some text =>
    match (boundaryValue? text.toList).bind unquote? with
    | none | some [] => .error (.missingBoundary text)
    | some (c :: cs) => ofToken? ((c :: cs).flatMap String.utf8EncodeChar)

/-- The content type that announces a boundary. -/
def contentType (b : Boundary) : String :=
  "multipart/x-mixed-replace; boundary=" ++ String.ofList (Text.decodeLossy b.token)

/-- The delimiter as a log shows it. -/
def display (b : Boundary) : String :=
  "Boundary(" ++ Text.quoted (String.ofList (Text.decodeLossy b.delimiter)) ++ ")"

end Boundary

end Mjpeg
