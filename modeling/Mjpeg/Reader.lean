import Mjpeg.Decoder

/-!
# Reading frames from a source

A source is the list of what its reads will come to: bytes, the end, or a failure. One read
takes at most `readSize` bytes, so a long run of bytes is delivered over several reads, and
past the end of the list every read delivers nothing.

A reader asks its decoder for a frame first and reads only when there is none. A read that was
interrupted is tried again. An end or a failure is answered, and leaves the reader as it was,
so that a later call goes on from there.
-/

namespace Mjpeg

/-- The number of bytes that one read asks for. -/
def readSize : Nat := 16384

/-- What reading comes to, once or for as many reads as the bytes need. -/
inductive ReadEvent where
  /-- Bytes; an empty run is a read that delivers nothing. -/
  | data (bytes : Bytes)
  | eof
  | failed (error : IoError)
  deriving Repr, DecidableEq

/-- A reader of frames. -/
structure Reader where
  decoder : Decoder
  /-- What the reads to come will come to. -/
  source : List ReadEvent
  /-- How many reads were made. -/
  reads : Nat

namespace Reader

/-- A reader that has read nothing. -/
def start (boundary : Boundary) (maxBuffer : Nat) (source : List ReadEvent) : Reader :=
  ⟨Decoder.start boundary maxBuffer, source, 0⟩

/-- The same reader with more to come behind what is left of its source. -/
def feed (r : Reader) (source : List ReadEvent) : Reader :=
  { r with source := r.source ++ source }

/-- The number of bytes and events that a source still has. -/
def sourceSize : List ReadEvent → Nat
  | [] => 0
  | .data bytes :: source => bytes.length + 1 + sourceSize source
  | .eof :: source | .failed _ :: source => sourceSize source + 1

/-- The number of bytes a source still has. -/
def unread (r : Reader) : Nat :=
  r.source.foldl (fun n event => match event with
    | .data bytes => n + bytes.length
    | .eof | .failed _ => n) 0

/-- One read: what it delivers, and what is left of the source. -/
def readSource : List ReadEvent → Except IoError Bytes × List ReadEvent
  | [] => (.ok [], [])
  | .eof :: source => (.ok [], source)
  | .failed e :: source => (.error e, source)
  | .data bytes :: source =>
    match bytes.drop readSize with
    | [] => (.ok bytes, source)
    | b :: rest => (.ok (bytes.take readSize), .data (b :: rest) :: source)

theorem sourceSize_readSource_lt {source rest : List ReadEvent} {e : IoError}
    (h : readSource source = (.error e, rest)) : sourceSize rest < sourceSize source := by
  match source with
  | [] | .eof :: _ => simp [readSource] at h
  | .failed _ :: source =>
    simp only [readSource, Prod.mk.injEq] at h
    rw [← h.2]
    simp [sourceSize]
  | .data bytes :: _ =>
    unfold readSource at h
    dsimp only at h
    split at h <;> simp at h

theorem sourceSize_readSource_add_length_le {source rest : List ReadEvent} {bytes : Bytes}
    (h : readSource source = (.ok bytes, rest)) :
    sourceSize rest + bytes.length ≤ sourceSize source := by
  match source with
  | [] =>
    simp only [readSource, Prod.mk.injEq, Except.ok.injEq] at h
    simp [← h.1, ← h.2]
  | .eof :: source =>
    simp only [readSource, Prod.mk.injEq, Except.ok.injEq] at h
    simp [← h.1, ← h.2, sourceSize]
  | .failed _ :: _ => simp [readSource] at h
  | .data all :: source =>
    unfold readSource at h
    dsimp only at h
    split at h
    · simp only [Prod.mk.injEq, Except.ok.injEq] at h
      rw [← h.1, ← h.2]
      simp only [sourceSize]
      omega
    · rename_i b left hdrop
      simp only [Prod.mk.injEq, Except.ok.injEq] at h
      rw [← h.1, ← h.2, ← hdrop]
      simp only [sourceSize, List.length_drop, List.length_take]
      have : (all.drop readSize).length = left.length + 1 := by rw [hdrop]; rfl
      rw [List.length_drop] at this
      omega

/-- What asking a reader for a frame comes to. -/
structure Pull where
  reader : Reader
  /-- The lengths of the malformed segments passed over, in order. -/
  skipped : List Nat
  outcome : Except FrameError Frame

/-- The next frame. -/
def readFrame (r : Reader) : Pull :=
  -- the decoder is asked first, so that nothing complete waits for a read
  match r.decoder.nextFrame with
  | { decoder, skipped, outcome := .error e } =>
    { reader := { r with decoder }, skipped, outcome := .error e }
  | { decoder, skipped, outcome := .ok (some frame) } =>
    { reader := { r with decoder }, skipped, outcome := .ok frame }
  | { decoder, skipped, outcome := .ok none } =>
    match h : readSource r.source with
    | (.error e, source) =>
      have : sourceSize source < sourceSize r.source := sourceSize_readSource_lt h
      let after : Reader := { decoder, source, reads := r.reads + 1 }
      if e.kind = .interrupted then
        let pull := after.readFrame
        { pull with skipped := skipped ++ pull.skipped }
      else { reader := after, skipped, outcome := .error (.io e) }
    | (.ok [], source) =>
      { reader := { decoder, source, reads := r.reads + 1 }, skipped
        outcome := .error .connectionClosed }
    | (.ok (b :: bytes), source) =>
      have : sourceSize source < sourceSize r.source := by
        have := sourceSize_readSource_add_length_le h
        rw [List.length_cons] at this
        omega
      let after : Reader :=
        { decoder := decoder.push (b :: bytes), source, reads := r.reads + 1 }
      let pull := after.readFrame
      { pull with skipped := skipped ++ pull.skipped }
termination_by sourceSize r.source

/-- The number of bytes and events that a reader can still make frames of. -/
def weight (r : Reader) : Nat := r.decoder.buffer.size + sourceSize r.source

/-- A frame that is answered uses up some bytes. -/
theorem weight_readFrame_lt {r : Reader} {frame : Frame} (h : r.readFrame.outcome = .ok frame) :
    r.readFrame.reader.weight < r.weight := by
  fun_induction readFrame r with
  | case2 r decoder skipped found hnext =>
    have lt := Decoder.size_buffer_nextFrame_lt (d := r.decoder) (by rw [hnext])
    rw [hnext] at lt
    exact Nat.add_lt_add_right lt _
  | case3 r decoder skipped hnext e source hread hlt after hkind pull ih =>
    have le := Decoder.size_buffer_nextFrame_le r.decoder
    rw [hnext] at le
    exact Nat.lt_of_lt_of_le (ih h) (Nat.add_le_add le (Nat.le_of_lt hlt))
  | case6 r decoder skipped hnext b bytes source hread hlt after pull ih =>
    have le := Decoder.size_buffer_nextFrame_le r.decoder
    rw [hnext] at le
    have room := sourceSize_readSource_add_length_le hread
    have size := Decoder.size_buffer_push decoder (b :: bytes)
    refine Nat.lt_of_lt_of_le (ih h) ?_
    simp only [weight, after] at le ⊢
    omega
  | _ => exact absurd h (by simp)

/-! ### Iterating -/

/-- What the next step of an iteration comes to: an item, or none once the iteration is over. -/
structure Step where
  reader : Reader
  skipped : List Nat
  item : Option (Except FrameError Frame)
  /-- Nothing more will come from this iteration. -/
  done : Bool

/-- One step of an iteration over the frames. The end of the body ends it, and any other error
is its last item. -/
def nextItem (r : Reader) (done : Bool) : Step :=
  if done then { reader := r, skipped := [], item := none, done }
  else match r.readFrame with
    | { reader, skipped, outcome := .ok frame } =>
      { reader, skipped, item := some (.ok frame), done := false }
    | { reader, skipped, outcome := .error .connectionClosed } =>
      { reader, skipped, item := none, done := true }
    | { reader, skipped, outcome := .error e } =>
      { reader, skipped, item := some (.error e), done := true }

end Reader

end Mjpeg
