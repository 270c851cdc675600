import Mjpeg.Proofs.Decoding
import Mjpeg.Proofs.Parts
import Mjpeg.Writer

/-!
# Reading what was written

A writer lays parts out one behind the other, with the delimiter before the first and behind
each of them, so that the leftmost cut of a written body are an empty piece and the parts
(`Writer.segments_body`). What stands behind the last delimiter is nothing, or the four bytes that
end a body.

A decoder that is fed a body in chunks and asked for all frames after each has handed out the
frames of what it was fed so far (`Decoder.decodeAll_reads`). So the parts come back, each as
soon as the bytes of its own sending are fed, whatever the chunks are.
-/

namespace Mjpeg

open Bytes

/-! ### The writer -/

/-- The sink takes everything. -/
structure Sink.Unlimited (s : Sink) : Prop where
  writes : s.writes = []
  flushes : s.flushes = []

theorem Sink.unlimited_unlimited : Sink.unlimited.Unlimited := ⟨rfl, rfl⟩

theorem Sink.Unlimited.deliver {s : Sink} (h : s.Unlimited) (message : Bytes) :
    (s.deliver message).written = message ∧ (s.deliver message).sink.Unlimited := by
  obtain ⟨writes, flushes, writeCalls, flushCalls⟩ := s
  obtain ⟨rfl, rfl⟩ := h
  cases message <;> exact ⟨rfl, rfl, rfl⟩

namespace Writer

variable {w : Writer} {b : Boundary} {parts : List (String × Bytes)} {finished : Bool}

/-- The delimiter that is still to come before the first part. -/
def opening (w : Writer) : Bytes := if w.started then [] else w.boundary.delimiter

/-- The sink of a call took a message, behind the opening delimiter if that was to come. -/
structure Call.Delivers (w : Writer) (message : Bytes) (c : Call) : Prop where
  boundary : c.writer.boundary = w.boundary
  started : c.writer.started = true
  sink : c.writer.sink.Unlimited
  written : c.written = w.opening ++ message

theorem deliver_delivers (h : w.sink.Unlimited) (message : Bytes) :
    Call.Delivers w message (w.deliver message) where
  boundary := rfl
  started := rfl
  sink := (h.deliver _).2
  written := (h.deliver _).1

/-- What sending parts one after the other comes to. -/
structure Sent where
  writer : Writer
  /-- The bytes that the sink has taken. -/
  written : Bytes

/-- Sends parts, each a content type and a payload, one after the other. -/
def sendAll (w : Writer) : List (String × Bytes) → Sent
  | [] => ⟨w, []⟩
  | (contentType, payload) :: parts =>
    let call := w.send contentType payload
    let later := call.writer.sendAll parts
    ⟨later.writer, call.written ++ later.written⟩

/-- The bytes that a sink without limits takes when parts are sent, and the body is ended or
not. -/
def body (b : Boundary) (parts : List (String × Bytes)) (finished : Bool) : Bytes :=
  let sent := (start b .unlimited).sendAll parts
  if finished then sent.written ++ sent.writer.finish.written else sent.written

/-- The segments that some parts make up. -/
def encoded (parts : List (String × Bytes)) : List Bytes :=
  parts.map fun (contentType, payload) => Part.encode contentType payload

@[simp] theorem encoded_nil : encoded [] = [] := rfl

@[simp] theorem encoded_cons (contentType : String) (payload : Bytes)
    (parts : List (String × Bytes)) :
    encoded ((contentType, payload) :: parts) =
      Part.encode contentType payload :: encoded parts := rfl

/-- A writer that has started puts the delimiter behind each part. -/
theorem sendAll_of_started (hstarted : w.started = true) (hsink : w.sink.Unlimited)
    (parts : List (String × Bytes)) :
    (w.sendAll parts).written = closed w.boundary.delimiter (encoded parts) ∧
      (w.sendAll parts).writer.started = true ∧ (w.sendAll parts).writer.sink.Unlimited := by
  induction parts generalizing w with
  | nil => exact ⟨rfl, hstarted, hsink⟩
  | cons part parts ih =>
    obtain ⟨contentType, payload⟩ := part
    have hcall : Call.Delivers w (Part.encode contentType payload ++ w.boundary.delimiter)
        (w.send contentType payload) := deliver_delivers hsink _
    obtain ⟨hwritten, hlater⟩ := ih hcall.started hcall.sink
    refine ⟨?_, hlater⟩
    rw [sendAll]
    dsimp only
    rw [hwritten, hcall.written, opening, if_pos hstarted, hcall.boundary, List.nil_append,
      encoded_cons, closed_cons, List.append_assoc]

/-- What ends a body behind its last delimiter. -/
def ending (finished : Bool) : Bytes := if finished then [45, 45, 13, 10] else []

/-- Nothing is written when nothing is sent and the body is not ended. -/
theorem body_nil_false (b : Boundary) : body b [] false = [] := rfl

/-- **Otherwise a delimiter comes first, and then each part with the delimiter behind it.** -/
theorem body_eq (h : parts ≠ [] ∨ finished = true) :
    body b parts finished = closed b.delimiter ([] :: encoded parts) ++ ending finished := by
  have hstart : (start b .unlimited).sink.Unlimited := Sink.unlimited_unlimited
  cases parts with
  | nil =>
    obtain rfl := h.resolve_left (· rfl)
    have hfinish := (deliver_delivers hstart [45, 45, 13, 10]).written
    change [] ++ (deliver (start b .unlimited) [45, 45, 13, 10]).written = _
    rw [hfinish]
    simp [opening, start, ending]
  | cons part parts =>
    obtain ⟨contentType, payload⟩ := part
    have hcall : Call.Delivers (start b .unlimited)
        (Part.encode contentType payload ++ b.delimiter)
        ((start b .unlimited).send contentType payload) := deliver_delivers hstart _
    obtain ⟨hwritten, hstarted, hsink⟩ := sendAll_of_started hcall.started hcall.sink parts
    have hsent : ((start b .unlimited).sendAll ((contentType, payload) :: parts)).written =
        closed b.delimiter ([] :: encoded ((contentType, payload) :: parts)) := by
      rw [sendAll]
      dsimp only
      rw [hwritten, hcall.written, hcall.boundary]
      simp [opening, start]
    cases finished with
    | false =>
      rw [body, if_neg (by decide), hsent]
      simp [ending]
    | true =>
      have hfinish := (deliver_delivers hsink [45, 45, 13, 10]).written
      rw [opening, if_pos hstarted, List.nil_append] at hfinish
      rw [body, if_pos rfl, hsent]
      exact congrArg (closed b.delimiter _ ++ ·) hfinish

/-! ### What a reader makes of it -/

/-- No line end stands in the token. -/
structure OneLine (b : Boundary) : Prop where
  cr : 13 ∉ b.token
  lf : 10 ∉ b.token

/-- A part that a reader can tell from what is around it: its content type holds no line end,
and the delimiter does not occur in it. -/
structure Readable (b : Boundary) (part : String × Bytes) : Prop where
  contentType : ¬ crlf <:+: ofText part.1
  delimiter : ¬ b.delimiter <:+: Part.encode part.1 part.2

/-- The frame that a part is read back as. -/
def frameOf? : String × Bytes → Option Frame
  | (contentType, payload) =>
    if payload.isEmpty then none else some ⟨Part.headersOf contentType payload, payload⟩

/-- The delimiter is longer than the dashes that end a body, and no line end goes on with it. -/
theorem not_occurs_ending (h : OneLine b) (finished : Bool) (i : Nat) :
    ¬ Occurs b.delimiter (ending finished) i := by
  intro hocc
  have hin := infix_iff_exists_occurs.mpr ⟨i, hocc⟩
  cases finished with
  | false => exact b.delimiter_ne_nil (List.infix_nil.mp hin)
  | true =>
    obtain ⟨c, token, htoken⟩ := List.exists_cons_of_ne_nil b.token_ne_nil
    have hcr := h.cr
    simp only [ending, Boundary.delimiter, htoken, if_true, List.infix_cons_iff,
      List.cons_prefix_cons] at hin
    -- only the two dashes could begin a delimiter, and a carriage return stands behind them
    rcases hin with ⟨-, -, rfl, -⟩ | hin
    · exact hcr (htoken ▸ List.mem_cons_self)
    · simp at hin

theorem firstClosed_encoded (h : OneLine b) (hparts : ∀ part ∈ parts, Readable b part) :
    FirstClosed b.delimiter ([] :: encoded parts) := by
  refine firstClosed_cons_iff.mpr ⟨?_, fun segment hmem => ?_⟩
  · exact ⟨List.prefix_refl _, fun j hj => absurd hj (Nat.not_lt_zero j)⟩
  · obtain ⟨part, hpart, rfl⟩ := List.mem_map.mp hmem
    exact Part.firstAt_encode b h.lf (hparts part hpart).delimiter

/-- **The leftmost cut of a written body**, unless nothing was written: an empty piece, the
parts, and what ends a body. -/
theorem segments_body (h : OneLine b) (hparts : ∀ part ∈ parts, Readable b part)
    (hwritten : parts ≠ [] ∨ finished = true) :
    Body.segments b (body b parts finished) = [] :: encoded parts ∧
      Body.remainder b (body b parts finished) = ending finished :=
  Body.eq_of_isCut
    ⟨body_eq hwritten, firstClosed_encoded h hparts, not_occurs_ending h finished⟩

theorem filterMap_encoded (hparts : ∀ part ∈ parts, Readable b part) :
    (encoded parts).filterMap Part.ofSegment? = parts.filterMap frameOf? := by
  rw [encoded, List.filterMap_map]
  refine List.filterMap_congr fun part hpart => ?_
  exact Part.ofSegment?_encode (hparts part hpart).contentType part.2

theorem countP_encoded (hparts : ∀ part ∈ parts, Readable b part) :
    (encoded parts).countP Body.isMalformed = parts.countP (·.2.isEmpty) := by
  rw [encoded, List.countP_map]
  refine List.countP_congr fun part hpart => ?_
  rw [Function.comp_apply, Part.isMalformed_encode (hparts part hpart).contentType]

/-- **A written body read at once**: a frame for each part with a payload, a malformed segment
for each part without one, and what ends a body left over. -/
theorem body_reads (h : OneLine b) (hparts : ∀ part ∈ parts, Readable b part)
    (finished : Bool) :
    Body.frames b (body b parts finished) = parts.filterMap frameOf? ∧
      (Body.segments b (body b parts finished)).countP Body.isMalformed =
        parts.countP (·.2.isEmpty) ∧
      Body.remainder b (body b parts finished) = ending finished := by
  by_cases hwritten : parts ≠ [] ∨ finished = true
  · obtain ⟨hsegments, hremainder⟩ := segments_body h hparts hwritten
    have hframe : Part.ofSegment? [] = none := rfl
    have hblank : Body.isMalformed [] = false := rfl
    refine ⟨?_, ?_, hremainder⟩
    · rw [Body.frames, hsegments, List.filterMap_cons, hframe, filterMap_encoded hparts]
    · rw [hsegments, List.countP_cons, hblank, countP_encoded hparts]
      rfl
  · obtain ⟨rfl, rfl⟩ : parts = [] ∧ finished = false := by
      simpa using hwritten
    obtain ⟨hsegments, hremainder⟩ :=
      Body.segments_eq_nil_of_forall_not_occurs (b := b) (not_occurs_ending h false)
    change Body.segments b [] = [] at hsegments
    rw [body_nil_false, Body.frames, hsegments]
    exact ⟨rfl, rfl, hremainder⟩

end Writer

namespace Decoder

variable {d : Decoder}

/-- What feeding chunks one after the other and asking for all frames after each comes to. -/
structure Feed where
  decoder : Decoder
  /-- The answers, one for each chunk. -/
  answers : List (Except FrameError (List Frame))

/-- Decodes chunks one after the other. An error ends nothing. -/
def decodeAll (d : Decoder) : List Bytes → Feed
  | [] => ⟨d, []⟩
  | chunk :: chunks =>
    let batch := d.decode chunk
    let later := batch.decoder.decodeAll chunks
    ⟨later.decoder, batch.outcome :: later.answers⟩

/-- The frames of an answer. -/
def framesOf : Except FrameError (List Frame) → List Frame
  | .ok frames => frames
  | .error _ => []

/-- The frames that were handed out, in order. -/
def Feed.frames (r : Feed) : List Frame := r.answers.flatMap framesOf

/-- No answer is an error: the limit was never exceeded. -/
def Feed.WithinLimit (r : Feed) : Prop := ∀ answer ∈ r.answers, ∃ frames, answer = .ok frames

theorem decodeAll_append (d : Decoder) (chunks later : List Bytes) :
    (d.decodeAll (chunks ++ later)).answers =
      (d.decodeAll chunks).answers ++ ((d.decodeAll chunks).decoder.decodeAll later).answers := by
  induction chunks generalizing d with
  | nil => rfl
  | cons chunk chunks ih =>
    rw [List.cons_append, decodeAll, decodeAll]
    dsimp only
    rw [ih, List.cons_append]

/-- A batch passed every segment of what was kept and the chunk, and answers their frames unless
too much is left. -/
structure Batch.Reads (d : Decoder) (chunk : Bytes) (r : Batch) : Prop where
  passes : Passes (d.push chunk) (Body.segments d.boundary (d.pending ++ chunk)) r.decoder
  marked : r.decoder.Marked
  rest : r.decoder.pending = Body.remainder d.boundary (d.pending ++ chunk)
  outcome : r.outcome = if r.decoder.pending.length > d.maxBuffer then
      .error (.bufferOverflow r.decoder.pending.length d.maxBuffer)
    else .ok (Body.frames d.boundary (d.pending ++ chunk))

/-- **Spec of `decode`.** -/
theorem decode_reads (h : d.Marked) (chunk : Bytes) : Batch.Reads d chunk (d.decode chunk) := by
  have hreads := drain_reads (h.push chunk)
  have hframes := hreads.frames_eq
  have hpasses := hreads.passes
  have hrest := hreads.rest
  rw [pending_push] at hframes hpasses hrest
  refine ⟨hpasses, hreads.marked, hrest, ?_⟩
  dsimp only [decode]
  rw [hreads.error, hframes]
  split <;> rename_i heq <;> split at heq
  · exact absurd heq (by simp)
  · rename_i hle
    exact (if_neg hle).symm
  · rename_i hgt
    rw [← Option.some.inj heq]
    exact (if_pos hgt).symm
  · exact absurd heq (by simp)

theorem Batch.Reads.eq_frames {chunk : Bytes} {r : Batch} (h : Batch.Reads d chunk r)
    {frames : List Frame} (hok : r.outcome = .ok frames) :
    frames = Body.frames d.boundary (d.pending ++ chunk) := by
  have houtcome := h.outcome
  rw [hok] at houtcome
  split at houtcome
  · exact absurd houtcome (by simp)
  · exact Except.ok.inj houtcome

/-- **Feeding chunks reads their concatenation** as long as the limit is not exceeded. -/
theorem decodeAll_reads (h : d.Marked) (hclear : ∀ i, ¬ Occurs d.boundary.delimiter d.pending i)
    (chunks : List Bytes) (hlimit : (d.decodeAll chunks).WithinLimit) :
    Passes (d.push chunks.flatten) (Body.segments d.boundary (d.pending ++ chunks.flatten))
        (d.decodeAll chunks).decoder ∧
      (d.decodeAll chunks).decoder.pending =
        Body.remainder d.boundary (d.pending ++ chunks.flatten) ∧
      (d.decodeAll chunks).frames = Body.frames d.boundary (d.pending ++ chunks.flatten) := by
  induction chunks generalizing d with
  | nil =>
    obtain ⟨hsegments, hremainder⟩ := Body.segments_eq_nil_of_forall_not_occurs hclear
    rw [List.flatten_nil, push_nil, List.append_nil, Body.frames, hsegments, hremainder]
    exact ⟨Passes.refl d, rfl, rfl⟩
  | cons chunk chunks ih =>
    -- what is kept behind the first chunk holds no delimiter, so the others are read from there
    have hreads := decode_reads h chunk
    obtain ⟨⟨frames, hok⟩, hlater⟩ := List.forall_mem_cons.mp hlimit
    have hboundary : (d.decode chunk).decoder.boundary = d.boundary := hreads.passes.boundary
    have hclear' := (Body.isCut d.boundary (d.pending ++ chunk)).last
    rw [← hreads.rest, ← hboundary] at hclear'
    obtain ⟨hpasses, hrest, hframes⟩ := ih hreads.marked hclear' hlater
    rw [hboundary, hreads.rest] at hpasses hrest hframes
    obtain ⟨hsegments, hremainder⟩ :=
      Body.segments_append d.boundary (d.pending ++ chunk) chunks.flatten
    rw [List.append_assoc] at hsegments hremainder
    rw [List.flatten_cons, hsegments, hremainder]
    refine ⟨?_, hrest, ?_⟩
    · rw [← push_push]
      exact (hreads.passes.push chunks.flatten).trans hpasses
    · rw [Body.frames, hsegments, List.filterMap_append]
      change framesOf (d.decode chunk).outcome ++ _ = _
      rw [hok, hreads.eq_frames hok]
      exact congrArg (Body.frames d.boundary (d.pending ++ chunk) ++ ·) hframes

/-- The limit is not exceeded when no more is fed than it allows. -/
theorem withinLimit_of_length_le (h : d.Marked) (chunks : List Bytes)
    (hle : d.pending.length + chunks.flatten.length ≤ d.maxBuffer) :
    (d.decodeAll chunks).WithinLimit := by
  induction chunks generalizing d with
  | nil => exact fun answer hmem => absurd hmem List.not_mem_nil
  | cons chunk chunks ih =>
    have hreads := decode_reads h chunk
    have hmax : (d.decode chunk).decoder.maxBuffer = d.maxBuffer := hreads.passes.maxBuffer
    have hpending := congrArg List.length hreads.passes.pending
    rw [pending_push, List.length_append, List.length_append] at hpending
    rw [List.flatten_cons, List.length_append] at hle
    refine List.forall_mem_cons.mpr ⟨⟨_, hreads.outcome.trans (if_neg ?_)⟩, ?_⟩
    · omega
    · exact ih hreads.marked (by omega)

/-- A fresh decoder that is fed chunks within its limit has read their concatenation. -/
theorem decodeAll_start_reads (b : Boundary) (maxBuffer : Nat) (chunks : List Bytes)
    (hlimit : ((start b maxBuffer).decodeAll chunks).WithinLimit) :
    let fed := (start b maxBuffer).decodeAll chunks
    fed.frames = Body.frames b chunks.flatten ∧
      fed.decoder.malformed = (Body.segments b chunks.flatten).countP Body.isMalformed ∧
      fed.decoder.buffered = (Body.remainder b chunks.flatten).length := by
  intro fed
  obtain ⟨hpasses, hrest, hframes⟩ := decodeAll_reads (d := start b maxBuffer)
    (marked_of_scanned_eq_zero rfl) (not_occurs_nil b) chunks hlimit
  refine ⟨hframes, ?_, ?_⟩
  · exact hpasses.malformed.trans (Nat.zero_add _)
  · rw [buffered, ← length_pending]
    exact congrArg List.length hrest

theorem Feed.WithinLimit.of_append {chunks later : List Bytes}
    (h : (d.decodeAll (chunks ++ later)).WithinLimit) : (d.decodeAll chunks).WithinLimit := by
  intro answer hmem
  refine h answer ?_
  rw [decodeAll_append]
  exact List.mem_append_left _ hmem

/-- **Decoding undoes writing**, however the body is cut into chunks: one frame for each part
with a payload, with that payload and the trimmed content type, and one malformed segment for
each part without. As soon as the bytes of some sendings have been fed the frames of their parts
have been handed out, and nothing is kept behind them until more is fed. What ends a body is
kept. -/
theorem decodeAll_body (b : Boundary) (maxBuffer : Nat) (parts : List (String × Bytes))
    (finished : Bool) (hline : Writer.OneLine b)
    (hparts : ∀ part ∈ parts, Writer.Readable b part) (chunks : List Bytes)
    (hchunks : chunks.flatten = Writer.body b parts finished)
    (hlimit : ((start b maxBuffer).decodeAll chunks).WithinLimit) :
    let fed := (start b maxBuffer).decodeAll chunks
    fed.frames = parts.filterMap Writer.frameOf? ∧
      fed.decoder.malformed = parts.countP (·.2.isEmpty) ∧
      fed.decoder.buffered = (if finished then 4 else 0) ∧
      ∀ early late sent rest, chunks = early ++ late → parts = sent ++ rest →
        let soFar := (start b maxBuffer).decodeAll early
        (Writer.body b sent false <+: early.flatten →
          sent.filterMap Writer.frameOf? <+: soFar.frames) ∧
        (early.flatten = Writer.body b sent false →
          soFar.frames = sent.filterMap Writer.frameOf? ∧ soFar.decoder.buffered = 0) := by
  intro fed
  obtain ⟨hframes, hmalformed, hbuffered⟩ := decodeAll_start_reads b maxBuffer chunks hlimit
  obtain ⟨hall, hcount, hending⟩ := Writer.body_reads hline hparts finished
  rw [hchunks] at hframes hmalformed hbuffered
  refine ⟨hframes.trans hall, hmalformed.trans hcount, ?_, ?_⟩
  · rw [hbuffered, hending]
    cases finished <;> rfl
  · rintro early late sent rest rfl rfl soFar
    have hearly : soFar.WithinLimit := hlimit.of_append
    obtain ⟨hframes', -, hbuffered'⟩ := decodeAll_start_reads b maxBuffer early hearly
    have hsent : ∀ part ∈ sent, Writer.Readable b part :=
      fun part hmem => hparts part (List.mem_append_left rest hmem)
    obtain ⟨hall', -, hending'⟩ := Writer.body_reads hline hsent false
    constructor
    · -- what was fed goes on behind these sendings, and frames that were complete stay
      rintro ⟨more, hmore⟩
      rw [hframes', ← hmore, ← hall', Body.frames_append]
      exact List.prefix_append _ _
    · intro hwritten
      rw [hwritten] at hframes' hbuffered'
      refine ⟨hframes'.trans hall', ?_⟩
      rw [hbuffered', hending']
      rfl

/-- A payload that is a blank line, and a part without a payload. -/
theorem decodeAll_body_blank_line :
    let b : Boundary := ⟨[66], by decide⟩
    let parts := [("image/jpeg ", headEnd), ("image/png", [])]
    let body := Writer.body b parts true
    let fed := (start b defaultMaxBuffer).decodeAll [body.take 5, body.drop 5]
    fed.frames = [⟨[("Content-Type", "image/jpeg"), ("Content-Length", "4")], headEnd⟩] ∧
      fed.decoder.malformed = 1 ∧ fed.decoder.buffered = 4 := by
  intro b parts body fed
  have hflatten : [body.take 5, body.drop 5].flatten = body := by simp
  have hlimit : fed.WithinLimit := by
    refine withinLimit_of_length_le (marked_of_scanned_eq_zero rfl) _ ?_
    rw [hflatten]
    decide +kernel
  have hparts : ∀ part ∈ parts, Writer.Readable b part := by
    simp only [parts, List.forall_mem_cons, List.not_mem_nil, false_implies, implies_true, and_true]
    exact ⟨⟨by decide, by decide +kernel⟩, ⟨by decide, by decide +kernel⟩⟩
  obtain ⟨hframes, hmalformed, hbuffered, -⟩ := decodeAll_body b defaultMaxBuffer parts true
    ⟨by decide, by decide⟩ hparts _ hflatten hlimit
  refine ⟨hframes.trans ?_, hmalformed, hbuffered⟩
  decide

end Decoder

end Mjpeg
