import Mjpeg.Log
import Mjpeg.Part

/-!
# Incremental decoding of a multipart body

A decoder is fed the body in chunks of any size and hands out the frames whose parts are
closed by a delimiter. It keeps the bytes behind the last delimiter it has passed, and
`scanned`, the number of leading bytes of those in which no delimiter begins and ends. A
search starts so far before that mark that a delimiter cut by a chunk border is found.

`pending` is the view of the buffer as a byte string. The same reading done at once on a whole
body, without chunks, mark or limit, is `Body.frames`.
-/

namespace Mjpeg

/-- The number of unclosed bytes a decoder accepts unless it is told otherwise: 16 MiB. -/
def defaultMaxBuffer : Nat := 16777216

/-- A reader of frames from a body that arrives in chunks. -/
structure Decoder where
  boundary : Boundary
  /-- The number of bytes without a delimiter that may come together. -/
  maxBuffer : Nat
  /-- What has been fed and not been passed yet. -/
  buffer : ByteArray
  /-- No delimiter lies within so many bytes at the start of the buffer. -/
  scanned : Nat
  /-- How many segments carried no frame although they were not blank. -/
  malformed : Nat

namespace Decoder

/-- A decoder that has been fed nothing. -/
def start (boundary : Boundary) (maxBuffer : Nat) : Decoder :=
  ⟨boundary, maxBuffer, ByteArray.empty, 0, 0⟩

/-- The bytes that have been fed and not been passed yet. -/
def pending (d : Decoder) : Bytes := d.buffer.data.toList

/-- The number of bytes kept. -/
def buffered (d : Decoder) : Nat := d.buffer.size

/-- Feeds a chunk. -/
def push (d : Decoder) (chunk : Bytes) : Decoder :=
  { d with buffer := d.buffer ++ chunk.toByteArray }

/-- The index from which the next delimiter is searched: one byte less than a delimiter before
the mark, or the start of the buffer. -/
def searchStart (d : Decoder) : Nat := d.scanned - (d.boundary.delimiter.length - 1)

theorem size_buffer_push (d : Decoder) (chunk : Bytes) :
    (d.push chunk).buffer.size = d.buffer.size + chunk.length := by
  simp [push]

/-- What asking a decoder for a frame comes to. -/
structure Pull where
  decoder : Decoder
  /-- The lengths of the malformed segments passed over, in order. -/
  skipped : List Nat
  /-- A frame, or none until more is fed, or the limit. -/
  outcome : Except FrameError (Option Frame)

/-- The decoder behind the segment of `pos` bytes at its start and the delimiter after it. -/
def pass (d : Decoder) (pos : Nat) : Decoder :=
  { d with
    buffer := d.buffer.extract (pos + d.boundary.delimiter.length) d.buffer.size
    scanned := 0 }

theorem size_buffer_pass_lt {d : Decoder} {i pos : Nat}
    (h : Bytes.findFrom d.buffer d.boundary.delimiter i = some pos) :
    (d.pass pos).buffer.size < d.buffer.size := by
  have := Bytes.le_size_of_findFrom h
  have := d.boundary.two_lt_length_delimiter
  simp only [pass, ByteArray.size_extract]
  omega

/-- The next frame: segments that carry none are passed over, and counted as malformed unless
they are blank. When no delimiter is left, the bytes kept are held against the limit. -/
def nextFrame (d : Decoder) : Pull :=
  match h : Bytes.findFrom d.buffer d.boundary.delimiter d.searchStart with
  | none =>
    { decoder := { d with scanned := d.buffer.size }
      skipped := []
      outcome :=
        if d.buffer.size > d.maxBuffer then .error (.bufferOverflow d.buffer.size d.maxBuffer)
        else .ok none }
  | some pos =>
    -- the segment is passed whether it carries a frame or not
    let segment := (d.buffer.extract 0 pos).data.toList
    let rest := d.pass pos
    have : rest.buffer.size < d.buffer.size := size_buffer_pass_lt h
    match Part.ofSegment? segment with
    | some frame => { decoder := rest, skipped := [], outcome := .ok (some frame) }
    | none =>
      if Bytes.isBlank segment then rest.nextFrame
      else
        let pull := { rest with malformed := rest.malformed + 1 }.nextFrame
        { pull with skipped := pos :: pull.skipped }
termination_by d.buffer.size

/-- The event of a malformed segment of so many bytes. -/
def skippedEvent (length : Nat) : Log.Event :=
  { level := .debug
    target := .decoder
    message := "skipping multipart segment without header separator"
    fields := [("segment_len", .number length)] }

/-- Asking for a frame adds nothing to the buffer. -/
theorem size_buffer_nextFrame_le (d : Decoder) :
    d.nextFrame.decoder.buffer.size ≤ d.buffer.size := by
  fun_induction nextFrame d with
  | case1 d hfind => exact Nat.le_refl _
  | case2 d pos hfind segment rest hlt frame hpart => exact Nat.le_of_lt hlt
  | case3 d pos hfind segment rest hlt hpart hblank ih => exact Nat.le_trans ih (Nat.le_of_lt hlt)
  | case4 d pos hfind segment rest hlt hpart hblank pull ih =>
    exact Nat.le_trans ih (Nat.le_of_lt hlt)

/-- A frame that is handed out takes bytes from the buffer. -/
theorem size_buffer_nextFrame_lt {d : Decoder} {frame : Frame}
    (h : d.nextFrame.outcome = .ok (some frame)) :
    d.nextFrame.decoder.buffer.size < d.buffer.size := by
  fun_induction nextFrame d with
  | case1 d hfind => dsimp only at h; split at h <;> simp at h
  | case2 d pos hfind segment rest hlt frame' hpart => exact hlt
  | case3 d pos hfind segment rest hlt hpart hblank ih => exact Nat.lt_trans (ih h) hlt
  | case4 d pos hfind segment rest hlt hpart hblank pull ih => exact Nat.lt_trans (ih h) hlt

/-! ### All frames at once -/

/-- What a decoder comes across. -/
inductive Find where
  /-- A malformed segment of so many bytes. -/
  | malformed (length : Nat)
  | frame (frame : Frame)
  deriving Repr, DecidableEq

/-- The frame that was come across, if it was one. -/
def Find.frame? : Find → Option Frame
  | malformed _ => none
  | frame f => some f

/-- The length of the malformed segment that was come across, if it was one. -/
def Find.malformed? : Find → Option Nat
  | malformed length => some length
  | frame _ => none

/-- What asking a decoder for every frame it can give comes to. -/
structure Drain where
  decoder : Decoder
  /-- What was come across, in order. -/
  found : List Find
  /-- The limit, when it ended the run. -/
  error : Option FrameError

/-- The frames that were handed out. -/
def Drain.frames (r : Drain) : List Frame := r.found.filterMap Find.frame?

/-- The lengths of the malformed segments that were passed over. -/
def Drain.skipped (r : Drain) : List Nat := r.found.filterMap Find.malformed?

/-- Every frame that is closed by a delimiter, up to the limit. -/
def drain (d : Decoder) : Drain :=
  match h : d.nextFrame with
  | { decoder := rest, skipped, outcome := .error e } =>
    { decoder := rest, found := skipped.map .malformed, error := some e }
  | { decoder := rest, skipped, outcome := .ok none } =>
    { decoder := rest, found := skipped.map .malformed, error := none }
  | { decoder := rest, skipped, outcome := .ok (some frame) } =>
    have : rest.buffer.size < d.buffer.size := by
      have lt := size_buffer_nextFrame_lt (d := d) (by rw [h])
      rwa [h] at lt
    let later := rest.drain
    { later with found := skipped.map .malformed ++ .frame frame :: later.found }
termination_by d.buffer.size

/-- What feeding one chunk and asking for every frame comes to. -/
structure Batch where
  decoder : Decoder
  /-- The lengths of the malformed segments passed over, in order. -/
  skipped : List Nat
  /-- The frames; or the limit, and then the frames before it are not handed out. -/
  outcome : Except FrameError (List Frame)

/-- Feeds a chunk and asks for every frame that it completes. -/
def decode (d : Decoder) (chunk : Bytes) : Batch :=
  let drain := (d.push chunk).drain
  { decoder := drain.decoder
    skipped := drain.skipped
    outcome := match drain.error with
      | none => .ok drain.frames
      | some e => .error e }

end Decoder

end Mjpeg
