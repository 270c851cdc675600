import Mjpeg.Proofs.RoundTrip

/-!
# Frames and the limit

A batch feeds a chunk and asks for every frame that it completes. If too much is left behind the
last delimiter, its answer is the limit. The frames that it completed have been taken from the
buffer by then, so no later batch hands them out either.

`answerTo` says what a batch answers from the bytes fed before it and its chunk alone. A run of
batches answers just that, whether the limit was passed on the way or not (`HasRead.decodeAll`). So
the frames handed out are frames of the body, in order, and they are all of them exactly when no
batch that passes the limit completes a frame (`decodeAll_frames_eq_iff`).
-/

namespace Mjpeg.Decoder

open Bytes

variable {b : Boundary} {maxBuffer : Nat} {before chunk : Bytes} {chunks : List Bytes} {d : Decoder}

/-! ### The answer to a chunk -/

/-- The frames of the parts that a chunk closes behind the bytes before it. -/
def completedBy (b : Boundary) (before chunk : Bytes) : List Frame :=
  Body.frames b (Body.remainder b before ++ chunk)

/-- The answer to a chunk behind the bytes before it. -/
def answerTo (b : Boundary) (maxBuffer : Nat) (before chunk : Bytes) :
    Except FrameError (List Frame) :=
  let kept := (Body.remainder b (before ++ chunk)).length
  if kept > maxBuffer then .error (.bufferOverflow kept maxBuffer)
  else .ok (completedBy b before chunk)

/-- The answers to chunks that follow one another. -/
def answersTo (b : Boundary) (maxBuffer : Nat) (before : Bytes) :
    List Bytes → List (Except FrameError (List Frame))
  | [] => []
  | chunk :: chunks =>
    answerTo b maxBuffer before chunk :: answersTo b maxBuffer (before ++ chunk) chunks

/-- The frames of a body are those that its chunks complete one after the other. -/
theorem completedBy_append (b : Boundary) (before chunk more : Bytes) :
    completedBy b before (chunk ++ more) =
      completedBy b before chunk ++ completedBy b (before ++ chunk) more := by
  have hrest := (Body.segments_append b before chunk).2
  rw [completedBy, completedBy, completedBy, ← List.append_assoc, Body.frames_append, hrest]

theorem completedBy_nil_left (b : Boundary) (chunk : Bytes) :
    completedBy b [] chunk = Body.frames b chunk := by
  have hrest : Body.remainder b [] = [] :=
    (Body.segments_eq_nil_of_forall_not_occurs (not_occurs_nil b)).2
  rw [completedBy, hrest, List.nil_append]

theorem completedBy_nil_right (b : Boundary) (before : Bytes) : completedBy b before [] = [] := by
  have hsegments := (Body.segments_eq_nil_of_forall_not_occurs (Body.isCut b before).last).1
  rw [completedBy, List.append_nil, Body.frames, hsegments, List.filterMap_nil]

/-- A decoder that was fed some bytes and asked for all their frames. -/
structure HasRead (b : Boundary) (maxBuffer : Nat) (before : Bytes) (d : Decoder) : Prop where
  boundary : d.boundary = b
  maxBuffer : d.maxBuffer = maxBuffer
  marked : d.Marked
  pending : d.pending = Body.remainder b before

theorem hasRead_start (b : Boundary) (maxBuffer : Nat) :
    HasRead b maxBuffer [] (start b maxBuffer) where
  boundary := rfl
  maxBuffer := rfl
  marked := marked_of_scanned_eq_zero rfl
  pending := (Body.segments_eq_nil_of_forall_not_occurs (not_occurs_nil b)).2.symm

/-- **A batch answers what its chunk completes, or the limit**, and has read its chunk in either
case. -/
theorem HasRead.decode (h : HasRead b maxBuffer before d) (chunk : Bytes) :
    (d.decode chunk).outcome = answerTo b maxBuffer before chunk ∧
      HasRead b maxBuffer (before ++ chunk) (d.decode chunk).decoder := by
  have hreads := decode_reads h.marked chunk
  have hrest := hreads.rest
  have houtcome := hreads.outcome
  rw [h.boundary, h.pending, ← (Body.segments_append b before chunk).2] at hrest
  rw [hrest, h.boundary, h.maxBuffer, h.pending] at houtcome
  exact ⟨houtcome, hreads.passes.boundary.trans h.boundary,
    hreads.passes.maxBuffer.trans h.maxBuffer, hreads.marked, hrest⟩

/-- **The answers of a run of batches**, whether the limit was passed on the way or not. -/
theorem HasRead.decodeAll (h : HasRead b maxBuffer before d) (chunks : List Bytes) :
    (d.decodeAll chunks).answers = answersTo b maxBuffer before chunks := by
  induction chunks generalizing before d with
  | nil => rfl
  | cons chunk chunks ih =>
    obtain ⟨houtcome, hread⟩ := h.decode chunk
    rw [Decoder.decodeAll, answersTo]
    dsimp only
    rw [houtcome, ih hread]

/-! ### The frames handed out -/

/-- No chunk that passes the limit completes a frame. -/
def Lossless (b : Boundary) (maxBuffer : Nat) (before : Bytes) (chunks : List Bytes) : Prop :=
  ∀ early chunk late, chunks = early ++ chunk :: late →
    (Body.remainder b (before ++ (early.flatten ++ chunk))).length > maxBuffer →
    completedBy b (before ++ early.flatten) chunk = []

theorem lossless_cons_iff : Lossless b maxBuffer before (chunk :: chunks) ↔
    ((Body.remainder b (before ++ chunk)).length > maxBuffer → completedBy b before chunk = []) ∧
      Lossless b maxBuffer (before ++ chunk) chunks := by
  constructor
  · intro h
    refine ⟨fun hlimit => ?_, fun early next late heq hlimit => ?_⟩
    · simpa using h [] chunk chunks rfl (by simpa using hlimit)
    · simpa using h (chunk :: early) next late (by rw [heq]; rfl) (by simpa using hlimit)
  · rintro ⟨hfirst, hlater⟩ early next late heq hlimit
    cases early with
    | nil =>
      obtain ⟨rfl, rfl⟩ := List.cons_eq_cons.mp heq
      simpa using hfirst (by simpa using hlimit)
    | cons first early =>
      obtain ⟨rfl, htail⟩ := List.cons_eq_cons.mp heq
      simpa using hlater early next late htail (by simpa using hlimit)

/-- A batch hands out what its chunk completes, or nothing. -/
theorem framesOf_answerTo (b : Boundary) (maxBuffer : Nat) (before chunk : Bytes) :
    framesOf (answerTo b maxBuffer before chunk) =
      if (Body.remainder b (before ++ chunk)).length > maxBuffer then []
      else completedBy b before chunk := by
  rw [answerTo]
  split <;> rfl

/-- The frames handed out are frames of what was fed, in order. -/
theorem framesOf_answersTo_sublist (b : Boundary) (maxBuffer : Nat) (before : Bytes)
    (chunks : List Bytes) :
    ((answersTo b maxBuffer before chunks).flatMap framesOf).Sublist
      (completedBy b before chunks.flatten) := by
  induction chunks generalizing before with
  | nil => exact List.nil_sublist _
  | cons chunk chunks ih =>
    rw [answersTo, List.flatMap_cons, List.flatten_cons, completedBy_append, framesOf_answerTo]
    refine List.Sublist.append ?_ (ih (before ++ chunk))
    split
    · exact List.nil_sublist _
    · exact List.Sublist.refl _

/-- All frames are handed out exactly when nothing is lost. -/
theorem framesOf_answersTo_eq_iff (b : Boundary) (maxBuffer : Nat) (before : Bytes)
    (chunks : List Bytes) :
    (answersTo b maxBuffer before chunks).flatMap framesOf = completedBy b before chunks.flatten ↔
      Lossless b maxBuffer before chunks := by
  induction chunks generalizing before with
  | nil =>
    rw [answersTo, List.flatten_nil, completedBy_nil_right]
    exact iff_of_true rfl fun early chunk late heq => absurd heq.symm (by simp)
  | cons chunk chunks ih =>
    rw [answersTo, List.flatMap_cons, List.flatten_cons, completedBy_append, framesOf_answerTo,
      lossless_cons_iff, ← ih]
    by_cases hlimit : (Body.remainder b (before ++ chunk)).length > maxBuffer
    · rw [if_pos hlimit, List.nil_append]
      constructor
      · -- what is handed out later is no longer than what is completed later
        intro heq
        have hle := (framesOf_answersTo_sublist b maxBuffer (before ++ chunk) chunks).length_le
        have hlength := congrArg List.length heq
        rw [List.length_append] at hlength
        have hnone : completedBy b before chunk = [] :=
          List.eq_nil_of_length_eq_zero (by omega)
        rw [hnone, List.nil_append] at heq
        exact ⟨fun _ => hnone, heq⟩
      · rintro ⟨hnone, heq⟩
        rw [hnone hlimit, List.nil_append, heq]
    · rw [if_neg hlimit, List.append_cancel_left_eq]
      exact ⟨fun heq => ⟨fun h => absurd h hlimit, heq⟩, fun h => h.2⟩

theorem length_answersTo (b : Boundary) (maxBuffer : Nat) (before : Bytes) (chunks : List Bytes) :
    (answersTo b maxBuffer before chunks).length = chunks.length := by
  induction chunks generalizing before with
  | nil => rfl
  | cons chunk chunks ih => rw [answersTo, List.length_cons, ih, List.length_cons]

theorem getElem?_answersTo (b : Boundary) (maxBuffer : Nat) (before : Bytes) (early : List Bytes)
    (chunk : Bytes) (late : List Bytes) :
    (answersTo b maxBuffer before (early ++ chunk :: late))[early.length]? =
      some (answerTo b maxBuffer (before ++ early.flatten) chunk) := by
  induction early generalizing before with
  | nil => simp [answersTo]
  | cons first early ih => simpa [answersTo] using ih (before ++ first)

/-- **What chunk by chunk decoding hands out.** Each batch answers the frames of the parts that its
chunk closes, or the limit when too much is left behind the last delimiter, and then hands out no
frame. The frames handed out by all batches are frames of the body, each once and in order. They
are all of them exactly when no batch that answers the limit closes a part with a frame. -/
theorem decodeAll_frames_eq_iff (b : Boundary) (maxBuffer : Nat) (chunks : List Bytes) :
    let fed := (start b maxBuffer).decodeAll chunks
    fed.answers.length = chunks.length ∧
    (∀ early chunk late, chunks = early ++ chunk :: late →
      let kept := (Body.remainder b (early.flatten ++ chunk)).length
      Body.frames b (early.flatten ++ chunk) =
        Body.frames b early.flatten ++ completedBy b early.flatten chunk ∧
      fed.answers[early.length]? = some (if kept > maxBuffer then
        .error (.bufferOverflow kept maxBuffer) else .ok (completedBy b early.flatten chunk))) ∧
    fed.frames.Sublist (Body.frames b chunks.flatten) ∧
    (fed.frames = Body.frames b chunks.flatten ↔
      ∀ early chunk late, chunks = early ++ chunk :: late →
        (Body.remainder b (early.flatten ++ chunk)).length > maxBuffer →
        completedBy b early.flatten chunk = []) := by
  intro fed
  have hanswers : fed.answers = answersTo b maxBuffer [] chunks :=
    (hasRead_start b maxBuffer).decodeAll chunks
  rw [Feed.frames, hanswers, ← completedBy_nil_left]
  refine ⟨length_answersTo .., ?_, framesOf_answersTo_sublist .., ?_⟩
  · rintro early chunk late rfl kept
    exact ⟨Body.frames_append .., getElem?_answersTo b maxBuffer [] early chunk late⟩
  · exact framesOf_answersTo_eq_iff b maxBuffer [] chunks

/-- A chunk that completes a frame and leaves nine bytes where eight are allowed: the answer is the
limit, and the frame is not handed out then or when another chunk follows. -/
theorem decodeAll_frame_lost :
    let b : Boundary := ⟨[66], by decide⟩
    let chunks := [ofText "--B\r\n\r\nX\r\n--B123456789", ofText "--B"]
    let fed := (start b 8).decodeAll chunks
    Body.frames b chunks.flatten = [⟨[], [88]⟩] ∧
      fed.answers = [.error (.bufferOverflow 9 8), .ok []] ∧ fed.frames = [] ∧
      ¬ (Body.frames b chunks.flatten).Sublist fed.frames := by
  intro b chunks fed
  have hanswers : fed.answers = [.error (.bufferOverflow 9 8), .ok []] :=
    ((hasRead_start b 8).decodeAll chunks).trans (by decide)
  have hbody : Body.frames b chunks.flatten = [⟨[], [88]⟩] := by decide
  have hframes : fed.frames = [] := by
    rw [Feed.frames, hanswers]
    rfl
  refine ⟨hbody, hanswers, hframes, ?_⟩
  rw [hbody, hframes]
  exact fun hsublist => absurd hsublist.length_le (by decide)

end Mjpeg.Decoder
