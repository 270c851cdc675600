import Mjpeg.Output.Table
import Mjpeg.Text.JsonString
import Mjpeg.Writer

/-!
# Printing frames

A record is a frame with its number and where it came from. It is printed as a line of JSON, a
table, or a line of words; or the payload itself is printed; or the frames are put into a
multipart body again, which is closed when the last one has been printed.
-/

namespace Mjpeg

/-- How records are printed. -/
inductive OutputFormat where
  | json
  | table
  | pretty
  | raw
  | mjpeg
  deriving Repr, DecidableEq, Inhabited

/-- A frame that was taken from a source. -/
structure FrameRecord where
  /-- The number of the frame, from one on. -/
  index : Nat
  source : String
  frame : Frame
  /-- The file it was written to. -/
  path : Option String
  deriving Repr, DecidableEq

namespace Output

/-- The boundary of a body that is printed. -/
def boundary : Boundary := ⟨Bytes.ofText "snapshooter", by decide⟩

/-- A text or nothing in JSON. -/
def jsonOption : Option String → String
  | none => "null"
  | some s => Text.jsonString s

/-- A record as an object of JSON, printed at the time `clock`. -/
def jsonLine (clock : String) (r : FrameRecord) : String :=
  "\x7b\"index\":" ++ toString r.index ++ ",\"source\":" ++ Text.jsonString r.source ++
    ",\"content_type\":" ++ jsonOption r.frame.contentType? ++ ",\"size\":" ++
    toString r.frame.size ++ ",\"path\":" ++ jsonOption r.path ++ ",\"timestamp\":" ++
    Text.jsonString clock ++ "\x7d"

/-- A record as a table. -/
def tableText (r : FrameRecord) : String :=
  table ["#", "SIZE", "TYPE", "SOURCE", "PATH"]
    [toString r.index, toString r.frame.size, r.frame.contentType?.getD "-", r.source,
      r.path.getD "-"]

/-- A record in words. -/
def prettyLine (r : FrameRecord) : String :=
  "frame=" ++ toString r.index ++ " size=" ++ toString r.frame.size ++ " type=" ++
    r.frame.contentType?.getD "-" ++ " source=" ++ r.source ++
    match r.path with
    | none => ""
    | some path => " path=" ++ path

/-- The frames of some records as a body, which is closed if all were printed. -/
def body (w : Writer) (closed : Bool) : List FrameRecord → Bytes
  | [] => if closed then w.finish.written else []
  | r :: rs =>
    let call := w.writeFrame r.frame
    call.written ++ body call.writer closed rs

/-- What is printed for some records. `closed` says that no more will come. -/
def render (format : OutputFormat) (clock : String) (records : List FrameRecord)
    (closed : Bool) : Bytes :=
  match format with
  | .json => records.flatMap fun r => Bytes.ofText (jsonLine clock r ++ "\n")
  | .table => records.flatMap fun r => Bytes.ofText (tableText r ++ "\n")
  | .pretty => records.flatMap fun r => Bytes.ofText (prettyLine r ++ "\n")
  | .raw => records.flatMap fun r => r.frame.payload
  | .mjpeg => body (Writer.start boundary Sink.unlimited) closed records

end Output

end Mjpeg
