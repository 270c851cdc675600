import Mjpeg.Decoder
import Mjpeg.Proofs.Pieces
import Mjpeg.Proofs.Searching

/-!
# Incremental decoding

A decoder hands out the frames of the segments that it passes, in order, and passes the
segments of what it was fed, in order. `Passes d passed d'` accounts for this: what the buffer
of `d` holds are the segments `passed`, each with its delimiter, and what the buffer of `d'`
holds, and the count of malformed segments grew by those among them.

* The search from the `scanned` mark finds what a search of the whole buffer finds
  (`findFrom_searchStart`), because no delimiter lies before the mark (`Marked`).
* One call of `nextFrame` passes segments up to the first that carries a frame, or else all of
  them (`nextFrame_reads`), and `drain` passes all of them (`drain_reads`).
* Feeding may come at any time, since what was passed stays passed (`Passes.push`). So a run of
  calls in any order reads the body as if it had come at once (`run_reads`).
-/

namespace Mjpeg

open Bytes

namespace Decoder

variable {d d' d'' : Decoder} {passed later : List Bytes} {chunk : Bytes} {pos : Nat}

/-! ### The buffer as a byte string -/

@[simp] theorem length_pending (d : Decoder) : d.pending.length = d.buffer.size := by
  simp [pending]

@[simp] theorem pending_start (b : Boundary) (maxBuffer : Nat) :
    (start b maxBuffer).pending = [] := rfl

@[simp] theorem pending_push (d : Decoder) (chunk : Bytes) :
    (d.push chunk).pending = d.pending ++ chunk := by
  simp [pending, push]

@[simp] theorem push_nil (d : Decoder) : d.push [] = d := by
  simp [push]

theorem push_push (d : Decoder) (chunk next : Bytes) :
    (d.push chunk).push next = d.push (chunk ++ next) := by
  simp [push, ByteArray.append_assoc]

theorem pending_count (d : Decoder) (malformed : Nat) :
    ({ d with malformed } : Decoder).pending = d.pending := rfl

theorem pending_pass (d : Decoder) (pos : Nat) :
    (d.pass pos).pending = d.pending.drop (pos + d.boundary.delimiter.length) := by
  simp [pending, pass, ByteArray.data_extract, List.extract]

theorem toList_extract (d : Decoder) (pos : Nat) :
    (d.buffer.extract 0 pos).data.toList = d.pending.take pos := by
  simp [pending, ByteArray.data_extract, List.extract]

/-! ### The mark -/

/-- No delimiter lies within the part of the buffer before the mark. -/
structure Marked (d : Decoder) : Prop where
  le : d.scanned ≤ d.pending.length
  clear : ∀ i, ¬ Occurs d.boundary.delimiter (d.pending.take d.scanned) i

theorem not_occurs_nil (b : Boundary) (i : Nat) : ¬ Occurs b.delimiter [] i := by
  intro h
  have hle := h.le_length b.delimiter_ne_nil
  have hpos := b.two_lt_length_delimiter
  simp only [List.length_nil] at hle
  omega

theorem marked_of_scanned_eq_zero (h : d.scanned = 0) : d.Marked where
  le := h ▸ Nat.zero_le _
  clear := by
    rw [h, List.take_zero]
    exact not_occurs_nil d.boundary

theorem Marked.push (h : d.Marked) (chunk : Bytes) : (d.push chunk).Marked where
  le := by
    rw [pending_push, List.length_append]
    exact Nat.le_add_right_of_le h.le
  clear := by
    rw [pending_push]
    have htake : (d.pending ++ chunk).take d.scanned = d.pending.take d.scanned :=
      List.take_append_of_le_length h.le
    exact fun i hocc => h.clear i (htake ▸ hocc)

/-- **The mark loses no delimiter**: the search that starts a delimiter's length before it
finds what a search of the whole buffer finds. -/
theorem findFrom_searchStart (h : d.Marked) :
    findFrom d.buffer d.boundary.delimiter d.searchStart =
      find d.pending d.boundary.delimiter := by
  rw [findFrom_eq]
  refine (find_eq_map_find_drop d.boundary.delimiter_ne_nil fun i hi hocc => ?_).symm
  -- a delimiter that begins so early also ends before the mark
  have hcut : d.pending = d.pending.take d.scanned ++ d.pending.drop d.scanned :=
    (List.take_append_drop ..).symm
  have hocc' : Occurs d.boundary.delimiter d.pending i := hocc
  rw [hcut] at hocc'
  refine h.clear i (hocc'.of_append ?_)
  rw [List.length_take_of_le h.le]
  unfold searchStart at hi
  omega

/-! ### What a decoder has passed -/

/-- From `d`, a decoder came to `d'` by passing segments at the start of its buffer. -/
structure Passes (d : Decoder) (passed : List Bytes) (d' : Decoder) : Prop where
  boundary : d'.boundary = d.boundary
  maxBuffer : d'.maxBuffer = d.maxBuffer
  pending : d.pending = closed d.boundary.delimiter passed ++ d'.pending
  first : FirstClosed d.boundary.delimiter passed
  malformed : d'.malformed = d.malformed + passed.countP Body.isMalformed

theorem Passes.refl (d : Decoder) : Passes d [] d := ⟨rfl, rfl, rfl, firstClosed_nil _, rfl⟩

theorem Passes.trans (h : Passes d passed d') (h' : Passes d' later d'') :
    Passes d (passed ++ later) d'' where
  boundary := h'.boundary.trans h.boundary
  maxBuffer := h'.maxBuffer.trans h.maxBuffer
  pending := by rw [h.pending, h'.pending, h.boundary, closed_append, List.append_assoc]
  first := h.first.append (h.boundary ▸ h'.first)
  malformed := by rw [h'.malformed, h.malformed, List.countP_append, Nat.add_assoc]

/-- What was passed stays passed when more is fed. -/
theorem Passes.push (h : Passes d passed d') (chunk : Bytes) :
    Passes (d.push chunk) passed (d'.push chunk) where
  boundary := h.boundary
  maxBuffer := h.maxBuffer
  pending := by
    rw [pending_push, pending_push, h.pending, List.append_assoc]
    rfl
  first := h.first
  malformed := h.malformed

/-- The segments passed are the first of the buffer's segments. -/
theorem Passes.segments_eq (h : Passes d passed d') :
    Body.segments d.boundary d.pending = passed ++ Body.segments d.boundary d'.pending ∧
      Body.remainder d.boundary d.pending = Body.remainder d.boundary d'.pending := by
  rw [h.pending]
  exact Body.segments_closed_append h.first d'.pending

/-- Moving the mark passes nothing. -/
theorem passes_mark (d : Decoder) (scanned : Nat) : Passes d [] { d with scanned } :=
  ⟨rfl, rfl, rfl, firstClosed_nil _, rfl⟩

/-- The segment before the first delimiter, and the buffer behind it. -/
theorem pass_pending (h : find d.pending d.boundary.delimiter = some pos) :
    d.pending = closed d.boundary.delimiter [d.pending.take pos] ++ (d.pass pos).pending ∧
      FirstClosed d.boundary.delimiter [d.pending.take pos] := by
  have hfirst := (find_eq_some_iff d.boundary.delimiter_ne_nil).mp h
  constructor
  · rw [closed_cons, closed_nil, List.append_nil, List.append_assoc, pending_pass,
      ← hfirst.occurs.drop_eq, List.take_append_drop]
  · exact firstClosed_cons_iff.mpr
      ⟨hfirst.take d.boundary.delimiter_ne_nil, firstClosed_nil _⟩

variable {segment : Bytes} {f : Frame}

/-- A segment that is not malformed is passed. -/
theorem passes_pass (h : find d.pending d.boundary.delimiter = some pos)
    (hsegment : segment = d.pending.take pos) (hmalformed : Body.isMalformed segment = false) :
    Passes d [segment] (d.pass pos) := by
  obtain ⟨hpending, hfirst⟩ := pass_pending h
  rw [← hsegment] at hpending hfirst
  refine ⟨by simp only [pass], by simp only [pass], hpending, hfirst, ?_⟩
  simp only [pass, List.countP_cons, hmalformed, List.countP_nil]
  rfl

/-- A malformed segment is passed and counted. -/
theorem passes_pass_malformed (h : find d.pending d.boundary.delimiter = some pos)
    (hsegment : segment = d.pending.take pos) (hmalformed : Body.isMalformed segment = true) :
    Passes d [segment] { d.pass pos with malformed := (d.pass pos).malformed + 1 } := by
  obtain ⟨hpending, hfirst⟩ := pass_pending h
  rw [← hsegment, ← pending_count (d.pass pos)] at hpending
  rw [← hsegment] at hfirst
  refine ⟨by simp only [pass], by simp only [pass], hpending, hfirst, ?_⟩
  simp only [pass, List.countP_cons, hmalformed, List.countP_nil]
  rfl

/-! ### One call -/

/-- What a decoder comes across in a segment: nothing in one that is blank. -/
def Find.ofSegment? (segment : Bytes) : Option Find :=
  match Part.ofSegment? segment with
  | some f => some (.frame f)
  | none => if isBlank segment then none else some (.malformed segment.length)

theorem Find.ofSegment?_of_some (h : Part.ofSegment? segment = some f) :
    Find.ofSegment? segment = some (.frame f) := by
  rw [Find.ofSegment?, h]

theorem Find.ofSegment?_of_none (h : Part.ofSegment? segment = none) :
    Find.ofSegment? segment =
      if isBlank segment then none else some (.malformed segment.length) := by
  rw [Find.ofSegment?, h]

theorem filterMap_ofSegment?_frame? (segments : List Bytes) :
    (segments.filterMap Find.ofSegment?).filterMap Find.frame? =
      segments.filterMap Part.ofSegment? := by
  rw [List.filterMap_filterMap]
  congr 1
  funext segment
  cases hpart : Part.ofSegment? segment with
  | some f =>
    rw [Find.ofSegment?_of_some hpart]
    rfl
  | none =>
    rw [Find.ofSegment?_of_none hpart]
    split <;> rfl

/-- The frame of an answer. -/
def frameOf? : Except FrameError (Option Frame) → Option Frame
  | .ok frame? => frame?
  | .error _ => none

/-- What a call came across, in order. -/
def Pull.found (p : Pull) : List Find :=
  p.skipped.map .malformed ++ (frameOf? p.outcome).toList.map .frame

/-- The answer when no delimiter is left and so many bytes are kept. -/
def heldAgainst (maxBuffer size : Nat) : Except FrameError (Option Frame) :=
  if size > maxBuffer then .error (.bufferOverflow size maxBuffer) else .ok none

/-- A call passed some segments and answers what they come to. -/
structure Pull.Reads (d : Decoder) (passed : List Bytes) (p : Pull) : Prop where
  passes : Passes d passed p.decoder
  marked : p.decoder.Marked
  found : p.found = passed.filterMap Find.ofSegment?
  outcome : (∃ frame, p.outcome = .ok (some frame)) ∨
    (∀ i, ¬ Occurs d.boundary.delimiter p.decoder.pending i) ∧
      p.outcome = heldAgainst d.maxBuffer p.decoder.pending.length

theorem Pull.Reads.frames (h : Pull.Reads d passed p) :
    (frameOf? p.outcome).toList = passed.filterMap Part.ofSegment? := by
  rw [← filterMap_ofSegment?_frame?, ← h.found, Pull.found, List.filterMap_append]
  have hskipped : (p.skipped.map Find.malformed).filterMap Find.frame? = [] := by
    simp [List.filterMap_map, Function.comp_def, Find.frame?]
  have hframe : ((frameOf? p.outcome).toList.map Find.frame).filterMap Find.frame? =
      (frameOf? p.outcome).toList := by
    simp [List.filterMap_map, Function.comp_def, Find.frame?]
  rw [hskipped, hframe, List.nil_append]

/-- **Spec of `nextFrame`.** -/
theorem nextFrame_reads (h : d.Marked) : ∃ passed, Pull.Reads d passed d.nextFrame := by
  fun_induction nextFrame d with
  | case1 d hfind =>
    -- no delimiter: the mark moves to the end of the buffer
    rw [findFrom_searchStart h, find_eq_none_iff d.boundary.delimiter_ne_nil] at hfind
    refine ⟨[], passes_mark d _, ⟨?_, ?_⟩, ?_, Or.inr ⟨hfind, ?_⟩⟩
    · exact (length_pending d).ge
    · intro i hocc
      have hall : d.pending.take d.buffer.size = d.pending :=
        List.take_of_length_le (length_pending d).le
      exact hfind i (hall ▸ hocc)
    · unfold Pull.found
      dsimp only
      split <;> rfl
    · exact congrArg (heldAgainst d.maxBuffer) (length_pending d).symm
  | case2 d pos hfind segment rest hlt f hpart =>
    -- a segment with a frame ends the call
    rw [findFrom_searchStart h] at hfind
    have hpass : Passes d [segment] rest :=
      passes_pass hfind (toList_extract d pos) (by simp [Body.isMalformed, hpart])
    refine ⟨[segment], hpass, marked_of_scanned_eq_zero rfl, ?_, Or.inl ⟨f, rfl⟩⟩
    rw [List.filterMap_cons, Find.ofSegment?_of_some hpart]
    rfl
  | case3 d pos hfind segment rest hlt hpart hblank ih =>
    -- a blank segment is passed and the call goes on
    rw [findFrom_searchStart h] at hfind
    have hpass : Passes d [segment] rest :=
      passes_pass hfind (toList_extract d pos) (by simp [Body.isMalformed, hblank])
    obtain ⟨passed, hreads⟩ := ih (marked_of_scanned_eq_zero rfl)
    refine ⟨segment :: passed, hpass.trans hreads.passes, hreads.marked, ?_, ?_⟩
    · rw [hreads.found, List.filterMap_cons, Find.ofSegment?_of_none hpart, if_pos hblank]
    · rw [← hpass.boundary, ← hpass.maxBuffer]
      exact hreads.outcome
  | case4 d pos hfind segment rest hlt hpart hblank pull ih =>
    -- a malformed segment is passed and counted
    rw [findFrom_searchStart h] at hfind
    have hpass : Passes d [segment] { rest with malformed := rest.malformed + 1 } :=
      passes_pass_malformed hfind (toList_extract d pos) (by simp [Body.isMalformed, hpart, hblank])
    have hlength : segment.length = pos := by
      have hle := ((find_eq_some_iff d.boundary.delimiter_ne_nil).mp hfind).le_length
        d.boundary.delimiter_ne_nil
      have hsegment : segment = d.pending.take pos := toList_extract d pos
      rw [hsegment, List.length_take_of_le (by omega)]
    obtain ⟨passed, hreads⟩ := ih (marked_of_scanned_eq_zero rfl)
    refine ⟨segment :: passed, hpass.trans hreads.passes, hreads.marked, ?_, ?_⟩
    · rw [List.filterMap_cons, Find.ofSegment?_of_none hpart, if_neg hblank, hlength]
      exact congrArg (.malformed pos :: ·) hreads.found
    · rw [← hpass.boundary, ← hpass.maxBuffer]
      exact hreads.outcome

theorem Marked.nextFrame (h : d.Marked) : d.nextFrame.decoder.Marked := by
  obtain ⟨passed, hreads⟩ := nextFrame_reads h
  exact hreads.marked

/-- A call that leaves no delimiter has passed every segment. -/
theorem Pull.Reads.segments_eq {p : Pull} (h : Pull.Reads d passed p)
    (hnone : ∀ i, ¬ Occurs d.boundary.delimiter p.decoder.pending i) :
    Body.segments d.boundary d.pending = passed ∧
      Body.remainder d.boundary d.pending = p.decoder.pending := by
  obtain ⟨hsegments, hremainder⟩ := h.passes.segments_eq
  obtain ⟨hnil, hrest⟩ := Body.segments_eq_nil_of_forall_not_occurs hnone
  rw [hnil, List.append_nil] at hsegments
  exact ⟨hsegments, hremainder.trans hrest⟩

/-- Without a delimiter a call moves the mark and holds the buffer against the limit. -/
theorem nextFrame_of_clear (h : d.Marked)
    (hclear : ∀ i, ¬ Occurs d.boundary.delimiter d.pending i) :
    d.nextFrame = ⟨{ d with scanned := d.buffer.size }, [],
      heldAgainst d.maxBuffer d.pending.length⟩ := by
  have hfind : findFrom d.buffer d.boundary.delimiter d.searchStart = none := by
    rw [findFrom_searchStart h, find_eq_none_iff d.boundary.delimiter_ne_nil]
    exact hclear
  rw [nextFrame, length_pending]
  split
  · rfl
  · rename_i pos hpos
    exact absurd (hpos.symm.trans hfind) (by simp)

theorem scanned_nextFrame (d : Decoder) (hnone : frameOf? d.nextFrame.outcome = none) :
    d.nextFrame.decoder.scanned = d.nextFrame.decoder.buffer.size := by
  fun_induction nextFrame d with
  | case1 d hfind => rfl
  | case2 d pos hfind segment rest hlt f hpart => exact absurd hnone (Option.some_ne_none f)
  | case3 d pos hfind segment rest hlt hpart hblank ih => exact ih hnone
  | case4 d pos hfind segment rest hlt hpart hblank pull ih => exact ih hnone

/-- **Asking again in vain changes nothing**, and is answered as before. -/
theorem nextFrame_nextFrame (h : d.Marked) (hnone : frameOf? d.nextFrame.outcome = none) :
    d.nextFrame.decoder.nextFrame.decoder = d.nextFrame.decoder ∧
      d.nextFrame.decoder.nextFrame.outcome = d.nextFrame.outcome := by
  have hscanned := scanned_nextFrame d hnone
  obtain ⟨passed, hreads⟩ := nextFrame_reads h
  rcases hreads.outcome with ⟨f, hf⟩ | ⟨hclear, hheld⟩
  · rw [hf] at hnone
    exact absurd hnone (Option.some_ne_none f)
  · have hagain := nextFrame_of_clear hreads.marked (hreads.passes.boundary ▸ hclear)
    constructor
    · rw [hagain, ← hscanned]
    · rw [hagain, hheld, hreads.passes.maxBuffer]

/-- A run of calls passed every segment and came across what they hold. -/
structure Drain.Reads (d : Decoder) (r : Drain) : Prop where
  passes : Passes d (Body.segments d.boundary d.pending) r.decoder
  marked : r.decoder.Marked
  rest : r.decoder.pending = Body.remainder d.boundary d.pending
  found : r.found = (Body.segments d.boundary d.pending).filterMap Find.ofSegment?
  error : r.error = if r.decoder.pending.length > d.maxBuffer then
      some (.bufferOverflow r.decoder.pending.length d.maxBuffer) else none

/-- A call without a frame is a whole run. -/
private theorem reads_of_no_frame {p : Pull} {error : Option FrameError}
    (h : Pull.Reads d passed p) (hframe : frameOf? p.outcome = none)
    (herror : p.outcome = match error with
      | some e => .error e
      | none => .ok none) :
    Drain.Reads d ⟨p.decoder, p.skipped.map .malformed, error⟩ := by
  rcases h.outcome with ⟨f, hf⟩ | ⟨hnone, hheld⟩
  · rw [hf] at hframe
    exact absurd hframe (Option.some_ne_none f)
  · obtain ⟨hsegments, hremainder⟩ := h.segments_eq hnone
    refine ⟨hsegments ▸ h.passes, h.marked, hremainder.symm, ?_, ?_⟩
    · rw [hsegments, ← h.found, Pull.found, hframe]
      simp
    · rw [hheld, heldAgainst] at herror
      dsimp only
      split at herror <;> cases error <;> simp_all

/-- **Spec of `drain`.** -/
theorem drain_reads (h : d.Marked) : Drain.Reads d d.drain := by
  fun_induction drain d with
  | case1 d rest skipped e hnext =>
    obtain ⟨passed, hreads⟩ := nextFrame_reads h
    rw [hnext] at hreads
    exact reads_of_no_frame hreads rfl rfl
  | case2 d rest skipped hnext =>
    obtain ⟨passed, hreads⟩ := nextFrame_reads h
    rw [hnext] at hreads
    exact reads_of_no_frame hreads rfl rfl
  | case3 d rest skipped f hnext hlt more ih =>
    obtain ⟨passed, hreads⟩ := nextFrame_reads h
    rw [hnext] at hreads
    have hmore := ih hreads.marked
    -- the segments are those passed by the first call and those of what it left
    obtain ⟨hsegments, hremainder⟩ := hreads.passes.segments_eq
    have hboundary : rest.boundary = d.boundary := hreads.passes.boundary
    have hmax : rest.maxBuffer = d.maxBuffer := hreads.passes.maxBuffer
    refine ⟨?_, hmore.marked, ?_, ?_, ?_⟩
    · rw [hsegments, ← hboundary]
      exact hreads.passes.trans hmore.passes
    · rw [hremainder, ← hboundary]
      exact hmore.rest
    · rw [hsegments, List.filterMap_append, ← hreads.found, ← hboundary]
      dsimp only
      rw [hmore.found]
      simp [Pull.found, frameOf?]
    · rw [← hmax]
      exact hmore.error

theorem Drain.Reads.frames_eq {r : Drain} (h : Drain.Reads d r) :
    r.frames = Body.frames d.boundary d.pending := by
  rw [Drain.frames, h.found, filterMap_ofSegment?_frame?]
  rfl

/-! ### Runs of calls -/

/-- What can be asked of a decoder. -/
inductive Call where
  | push (chunk : Bytes)
  | nextFrame
  deriving Repr, DecidableEq

/-- What some calls come to. -/
structure Run where
  decoder : Decoder
  /-- The answers to the calls of `nextFrame`, in order. -/
  answers : List (Except FrameError (Option Frame))

/-- Carries out calls one after the other. An error ends nothing. -/
def run (d : Decoder) : List Call → Run
  | [] => ⟨d, []⟩
  | .push chunk :: calls => (d.push chunk).run calls
  | .nextFrame :: calls =>
    let later := d.nextFrame.decoder.run calls
    ⟨later.decoder, d.nextFrame.outcome :: later.answers⟩

/-- The frames handed out, in order. -/
def Run.frames (r : Run) : List Frame := r.answers.filterMap frameOf?

/-- The bytes that some calls feed, in order. -/
def fed : List Call → Bytes
  | [] => []
  | .push chunk :: calls => chunk ++ fed calls
  | .nextFrame :: calls => fed calls

/-- **A run passes some segments of what it is fed, and hands out their frames.** It may start
with a decoder that was fed a body and has passed some of its segments. -/
theorem run_reads {whole : Decoder} (h : Passes whole passed d) (hmarked : d.Marked)
    (calls : List Call) :
    ∃ later, Passes (whole.push (fed calls)) (passed ++ later) (d.run calls).decoder ∧
      (d.run calls).decoder.Marked ∧
      (d.run calls).frames = later.filterMap Part.ofSegment? := by
  induction calls generalizing whole passed d with
  | nil =>
    refine ⟨[], ?_, hmarked, rfl⟩
    rw [fed, push_nil, List.append_nil]
    exact h
  | cons call calls ih =>
    cases call with
    | push chunk =>
      obtain ⟨later, hpasses, hmarked', hframes⟩ := ih (h.push chunk) (hmarked.push chunk)
      refine ⟨later, ?_, hmarked', hframes⟩
      rw [fed, ← push_push]
      exact hpasses
    | nextFrame =>
      obtain ⟨here, hreads⟩ := nextFrame_reads hmarked
      obtain ⟨later, hpasses, hmarked', hframes⟩ := ih (h.trans hreads.passes) hreads.marked
      refine ⟨here ++ later, ?_, hmarked', ?_⟩
      · rw [← List.append_assoc]
        exact hpasses
      · rw [List.filterMap_append, ← hreads.frames, ← hframes]
        simp only [run, Run.frames, List.filterMap_cons]
        cases frameOf? d.nextFrame.outcome <;> rfl

/-- What a run from a fresh decoder has passed are the first segments of the body. -/
theorem run_start_reads (b : Boundary) (maxBuffer : Nat) (calls : List Call) :
    ∃ passed, Passes ((start b maxBuffer).push (fed calls)) passed
        ((start b maxBuffer).run calls).decoder ∧
      ((start b maxBuffer).run calls).decoder.Marked ∧
      ((start b maxBuffer).run calls).frames = passed.filterMap Part.ofSegment? :=
  run_reads (Passes.refl _) (marked_of_scanned_eq_zero rfl) calls

/-- A call finds a frame exactly when a segment of the buffer carries one. -/
theorem exists_frame_iff (h : d.Marked) :
    (∃ f, d.nextFrame.outcome = .ok (some f)) ↔
      ∃ segment ∈ Body.segments d.boundary d.pending, (Part.ofSegment? segment).isSome := by
  obtain ⟨passed, hreads⟩ := nextFrame_reads h
  have hframes := hreads.frames
  constructor
  · rintro ⟨f, hf⟩
    rw [hf] at hframes
    have hmem : f ∈ passed.filterMap Part.ofSegment? := by
      rw [← hframes]
      exact List.mem_singleton.mpr rfl
    obtain ⟨segment, hsegment, hpart⟩ := List.mem_filterMap.mp hmem
    refine ⟨segment, ?_, Option.isSome_iff_exists.mpr ⟨f, hpart⟩⟩
    rw [hreads.passes.segments_eq.1]
    exact List.mem_append_left _ hsegment
  · rintro ⟨segment, hsegment, hpart⟩
    rcases hreads.outcome with hf | ⟨hnone, hheld⟩
    · exact hf
    · -- every segment was passed, so that one was, and its frame was handed out
      obtain ⟨f, hf⟩ := Option.isSome_iff_exists.mp hpart
      have hmem : f ∈ passed.filterMap Part.ofSegment? :=
        List.mem_filterMap.mpr ⟨segment, (hreads.segments_eq hnone).1 ▸ hsegment, hf⟩
      rw [← hframes, hheld, heldAgainst] at hmem
      split at hmem <;> exact absurd hmem List.not_mem_nil

/-- A call without a frame passes every segment and holds what is left against the limit. -/
theorem nextFrame_of_forall_eq_none (h : d.Marked)
    (hnone : ∀ segment ∈ Body.segments d.boundary d.pending, Part.ofSegment? segment = none) :
    Passes d (Body.segments d.boundary d.pending) d.nextFrame.decoder ∧
      d.nextFrame.decoder.pending = Body.remainder d.boundary d.pending ∧
      d.nextFrame.outcome =
        heldAgainst d.maxBuffer (Body.remainder d.boundary d.pending).length := by
  obtain ⟨passed, hreads⟩ := nextFrame_reads h
  rcases hreads.outcome with hf | ⟨hclear, hheld⟩
  · obtain ⟨segment, hsegment, hpart⟩ := (exists_frame_iff h).mp hf
    rw [hnone segment hsegment] at hpart
    exact absurd hpart (by simp)
  · obtain ⟨hsegments, hremainder⟩ := hreads.segments_eq hclear
    exact ⟨hsegments ▸ hreads.passes, hremainder.symm, hremainder ▸ hheld⟩

/-- **Incremental decoding is batch decoding, whatever the order of calls.** After any calls, a
number `j` of segments of the body fed so far has been passed: the frames handed out are
theirs, the buffer holds the body without them and their delimiters, and the malformed ones
among them are counted. A further call finds a frame exactly when a segment not passed yet
carries one; otherwise it passes all segments and holds the rest against the limit. -/
theorem run_eq_batch (b : Boundary) (maxBuffer : Nat) (calls : List Call) :
    let body := fed calls
    let segments := Body.segments b body
    let rest := Body.remainder b body
    let run := (start b maxBuffer).run calls
    let next := run.decoder.nextFrame
    IsCut b.delimiter body segments rest ∧
    ∃ j ≤ segments.length,
      run.frames = (segments.take j).filterMap Part.ofSegment? ∧
      body = closed b.delimiter (segments.take j) ++ run.decoder.pending ∧
      run.decoder.malformed = (segments.take j).countP Body.isMalformed ∧
      ((∃ f, next.outcome = .ok (some f)) ↔
        ∃ segment ∈ segments.drop j, (Part.ofSegment? segment).isSome) ∧
      ((∀ segment ∈ segments.drop j, Part.ofSegment? segment = none) →
        run.frames = segments.filterMap Part.ofSegment? ∧
        next.decoder.pending = rest ∧
        next.decoder.malformed = segments.countP Body.isMalformed ∧
        next.outcome = if rest.length > maxBuffer then
          .error (.bufferOverflow rest.length maxBuffer) else .ok none) := by
  intro body segments rest run next
  obtain ⟨passed, hpasses, hmarked, hframes⟩ := run_start_reads b maxBuffer calls
  have hboundary : run.decoder.boundary = b := hpasses.boundary
  have hmax : run.decoder.maxBuffer = maxBuffer := hpasses.maxBuffer
  -- what was passed are the first segments of the body, so `j` is their number
  have hfed : ((start b maxBuffer).push body).pending = body := by simp
  have hsegments : segments = passed ++ Body.segments b run.decoder.pending :=
    (congrArg (Body.segments b) hfed).symm.trans hpasses.segments_eq.1
  have hremainder : rest = Body.remainder b run.decoder.pending :=
    (congrArg (Body.remainder b) hfed).symm.trans hpasses.segments_eq.2
  have htake : segments.take passed.length = passed := by rw [hsegments, List.take_left]
  have hdrop : segments.drop passed.length = Body.segments b run.decoder.pending := by
    rw [hsegments, List.drop_left]
  have hmalformed : run.decoder.malformed = passed.countP Body.isMalformed := by
    rw [hpasses.malformed]
    exact Nat.zero_add _
  refine ⟨Body.isCut b body, passed.length, ?_, ?_, ?_, ?_, ?_, ?_⟩
  · rw [hsegments, List.length_append]
    exact Nat.le_add_right _ _
  · rw [htake]
    exact hframes
  · rw [htake]
    exact hfed.symm.trans hpasses.pending
  · rw [htake, hmalformed]
  · rw [hdrop, ← hboundary]
    exact exists_frame_iff hmarked
  · rw [hdrop, ← hboundary]
    intro hnone
    obtain ⟨hall, hpending, houtcome⟩ := nextFrame_of_forall_eq_none hmarked hnone
    rw [hboundary] at hnone hall hpending houtcome
    have hempty : (Body.segments b run.decoder.pending).filterMap Part.ofSegment? = [] :=
      List.filterMap_eq_nil_iff.mpr hnone
    refine ⟨?_, hpending.trans hremainder.symm, ?_, ?_⟩
    · rw [hsegments, List.filterMap_append, hempty, List.append_nil]
      exact hframes
    · rw [hsegments, List.countP_append, ← hmalformed]
      exact hall.malformed
    · rw [hremainder, ← hmax]
      exact houtcome

end Decoder

end Mjpeg
