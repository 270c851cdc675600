import Mjpeg.Proofs.Limit

/-!
# What a limit has room for

The bytes behind the last delimiter are held against the limit at the end of each chunk, so what a
limit has room for depends on where the chunks of a body end.

* All beginnings of a body come within the limit exactly when its remainder does, and each segment
  together with all but the last byte of the delimiter that closes it (`Body.fits_iff`). Those
  bytes are kept when a chunk ends just there (`Body.remainder_before_closing`).
* Batches report the limit exactly when one of the beginnings that they end with is too long
  (`overflows_decodeAll_iff`). Single bytes end with every beginning, and one chunk only with the
  whole body (`decodeAll_overflows_iff`).
-/

namespace Mjpeg.Bytes

/-- Without its last byte a delimiter does not close a piece. -/
theorem FirstAt.not_occurs_dropLast {d piece : Bytes} (h : FirstAt d (piece ++ d) piece.length)
    (hne : d ≠ []) (i : Nat) : ¬ Occurs d (piece ++ d.dropLast) i := by
  intro hocc
  have hle := hocc.le_length hne
  have hpos := List.length_pos_iff.mpr hne
  rw [List.length_append, List.length_dropLast] at hle
  refine h.least i (by omega) ?_
  have hmore := hocc.append [d.getLast hne]
  rwa [List.append_assoc, List.dropLast_concat_getLast] at hmore

end Mjpeg.Bytes

namespace Mjpeg.Body

open Bytes

variable {b : Boundary} {maxBuffer : Nat} {body front : Bytes}

/-- Each segment with all but the last byte of its delimiter comes within the limit, and so does
what is behind the last delimiter. -/
structure Fits (b : Boundary) (maxBuffer : Nat) (body : Bytes) : Prop where
  segments : ∀ segment ∈ segments b body, segment.length + b.delimiter.length - 1 ≤ maxBuffer
  remainder : (remainder b body).length ≤ maxBuffer

instance (b : Boundary) (maxBuffer : Nat) (body : Bytes) : Decidable (Fits b maxBuffer body) :=
  decidable_of_iff ((∀ segment ∈ segments b body,
      segment.length + b.delimiter.length - 1 ≤ maxBuffer) ∧ (remainder b body).length ≤ maxBuffer)
    ⟨fun h => ⟨h.1, h.2⟩, fun h => ⟨h.1, h.2⟩⟩

/-- **What is kept just before a segment is closed**: the segment, and the delimiter but for its
last byte. -/
theorem remainder_before_closing {segment : Bytes} (h : segment ∈ Body.segments b body) :
    ∃ front, front <+: body ∧
      (Body.remainder b front).length = segment.length + b.delimiter.length - 1 := by
  obtain ⟨early, late, hsegments⟩ := List.append_of_mem h
  have hcut := isCut b body
  rw [hsegments] at hcut
  obtain ⟨hearly, hfirst⟩ : FirstClosed b.delimiter early ∧
      FirstAt b.delimiter (segment ++ b.delimiter) segment.length :=
    ⟨fun piece hpiece => hcut.first piece (List.mem_append_left _ hpiece),
      hcut.first segment (by simp)⟩
  have hkept := segments_eq_nil_of_forall_not_occurs
    (hfirst.not_occurs_dropLast b.delimiter_ne_nil)
  refine ⟨closed b.delimiter early ++ (segment ++ b.delimiter.dropLast), ?_, ?_⟩
  · rw [hcut.joined, closed_append, closed_cons, List.append_assoc, List.prefix_append_right_inj,
      List.append_assoc, List.prefix_append_right_inj, List.append_assoc]
    exact (List.dropLast_prefix _).trans (List.prefix_append _ _)
  · have hpos := List.length_pos_iff.mpr b.delimiter_ne_nil
    rw [(segments_closed_append hearly _).2, hkept.2, List.length_append, List.length_dropLast]
    omega

/-- What is kept of the beginning of a body comes within a limit that has room for the body. -/
theorem Fits.length_remainder_le (h : Fits b maxBuffer body) (hfront : front <+: body) :
    (Body.remainder b front).length ≤ maxBuffer := by
  obtain ⟨more, rfl⟩ := hfront
  obtain ⟨hsegments, hremainder⟩ := segments_append b front more
  have hcut := isCut b (Body.remainder b front ++ more)
  cases hlater : Body.segments b (Body.remainder b front ++ more) with
  | nil =>
    -- what is kept is never closed, so it is part of the remainder
    have hjoined := congrArg List.length hcut.joined
    rw [hlater, closed_nil, List.nil_append, ← hremainder, List.length_append] at hjoined
    have hle := h.remainder
    omega
  | cons segment later =>
    -- what is kept ends before the delimiter that closes it does
    rw [hlater] at hcut
    have hfirst := hcut.firstAt b.delimiter_ne_nil
    have hopen : ¬ segment.length + b.delimiter.length ≤ (Body.remainder b front).length :=
      fun hle => (isCut b front).last _ (hfirst.occurs.of_append hle)
    have hle := h.segments segment (by rw [hsegments, hlater]; simp)
    omega

/-- **A limit has room for a body exactly when it has for what is kept of each beginning.** -/
theorem fits_iff : Fits b maxBuffer body ↔
    ∀ front, front <+: body → (Body.remainder b front).length ≤ maxBuffer := by
  constructor
  · exact fun h front hfront => h.length_remainder_le hfront
  · refine fun h => ⟨fun segment hsegment => ?_, h body List.prefix_rfl⟩
    obtain ⟨front, hfront, hlength⟩ := remainder_before_closing hsegment
    exact hlength ▸ h front hfront

/-- Two bytes and a delimiter of three need room for four: the fifth closes the segment. -/
example : let b : Boundary := ⟨[66], by decide⟩
    Fits b 4 (ofText "xy--B") ∧ ¬ Fits b 3 (ofText "xy--B") := by
  decide

end Mjpeg.Body

namespace Mjpeg.Decoder

open Bytes

variable {b : Boundary} {maxBuffer : Nat} {before front chunk : Bytes} {chunks : List Bytes}

/-- The limit was reported. -/
def Feed.Overflows (r : Feed) : Prop :=
  ∃ size max, .error (.bufferOverflow size max) ∈ r.answers

/-- All that was fed at the end of each chunk. -/
def ends (before : Bytes) : List Bytes → List Bytes
  | [] => []
  | chunk :: chunks => (before ++ chunk) :: ends (before ++ chunk) chunks

theorem ends_append (before : Bytes) (early late : List Bytes) :
    ends before (early ++ late) = ends before early ++ ends (before ++ early.flatten) late := by
  induction early generalizing before with
  | nil => simp [ends]
  | cons chunk early ih => simp [ends, ih]

theorem isPrefix_of_mem_ends (h : front ∈ ends before chunks) :
    front <+: before ++ chunks.flatten := by
  induction chunks generalizing before with
  | nil => exact absurd h List.not_mem_nil
  | cons chunk chunks ih =>
    rw [List.flatten_cons, ← List.append_assoc]
    rcases List.mem_cons.mp h with rfl | hlater
    · exact List.prefix_append _ _
    · exact ih hlater

/-- A batch reports the limit exactly when too much is left behind its chunk. -/
theorem answerTo_eq_overflow_iff :
    (∃ size max, .error (.bufferOverflow size max) = answerTo b maxBuffer before chunk) ↔
      maxBuffer < (Body.remainder b (before ++ chunk)).length := by
  rw [answerTo]
  split
  · rename_i hlimit
    exact iff_of_true ⟨_, _, rfl⟩ hlimit
  · rename_i hlimit
    exact iff_of_false (by simp) hlimit

theorem overflow_mem_answersTo_iff :
    (∃ size max, .error (.bufferOverflow size max) ∈ answersTo b maxBuffer before chunks) ↔
      ∃ front ∈ ends before chunks, maxBuffer < (Body.remainder b front).length := by
  induction chunks generalizing before with
  | nil => simp [answersTo, ends]
  | cons chunk chunks ih =>
    simp only [answersTo, ends, List.mem_cons, exists_or, exists_eq_or_imp, ih,
      answerTo_eq_overflow_iff]

/-- **The limit is reported exactly when a chunk ends where too much is kept.** -/
theorem overflows_decodeAll_iff :
    ((start b maxBuffer).decodeAll chunks).Overflows ↔
      ∃ front ∈ ends [] chunks, maxBuffer < (Body.remainder b front).length := by
  rw [Feed.Overflows, (hasRead_start b maxBuffer).decodeAll]
  exact overflow_mem_answersTo_iff

theorem flatten_bytewise (body : Bytes) : (body.map ([·])).flatten = body :=
  List.flatMap_def.symm.trans (List.flatMap_singleton' body)

/-- Fed byte by byte, a chunk ends with each beginning of a body. -/
theorem mem_ends_bytewise (hne : front ≠ []) (more : Bytes) :
    front ∈ ends [] ((front ++ more).map ([·])) := by
  obtain ⟨early, byte, rfl⟩ := (List.eq_nil_or_concat' front).resolve_left hne
  rw [List.map_append, List.map_append, List.append_assoc, ends_append, flatten_bytewise]
  exact List.mem_append_right _ List.mem_cons_self

/-- Whoever feeds byte by byte without a report has room for the body. -/
theorem fits_of_not_overflows_bytewise {body : Bytes}
    (h : ¬ ((start b maxBuffer).decodeAll (body.map ([·]))).Overflows) :
    Body.Fits b maxBuffer body := by
  refine Body.fits_iff.mpr fun front ⟨more, hbody⟩ => Nat.not_lt.mp fun hlength => ?_
  have hne : front ≠ [] := by
    rintro rfl
    exact absurd hlength (Nat.not_lt.mpr ((Body.length_remainder_le b []).trans (Nat.zero_le _)))
  refine h (overflows_decodeAll_iff.mpr ⟨front, ?_, hlength⟩)
  exact hbody ▸ mem_ends_bytewise hne more

theorem not_overflows_of_fits (h : Body.Fits b maxBuffer chunks.flatten) :
    ¬ ((start b maxBuffer).decodeAll chunks).Overflows := by
  intro hoverflows
  obtain ⟨front, hmem, hlength⟩ := overflows_decodeAll_iff.mp hoverflows
  exact absurd hlength (Nat.not_lt.mpr (h.length_remainder_le (isPrefix_of_mem_ends hmem)))

/-- **The room that a body needs.** No way of cutting a body into chunks makes a decoder report the
limit exactly when each segment with all but the last byte of its delimiter comes within it, and so
does what is behind the last delimiter. Feeding single bytes tells: it makes the decoder report the
limit unless this holds. The body as one chunk does so exactly when what is behind the last
delimiter is too long. And no report comes about by feeding two chunks as one. -/
theorem decodeAll_overflows_iff (b : Boundary) (maxBuffer : Nat) (body : Bytes) :
    let rest := Body.remainder b body
    let overflows (chunks : List Bytes) := ((start b maxBuffer).decodeAll chunks).Overflows
    IsCut b.delimiter body (Body.segments b body) rest ∧
    ((∀ chunks : List Bytes, chunks.flatten = body → ¬ overflows chunks) ↔
      Body.Fits b maxBuffer body) ∧
    (overflows (body.map ([·])) ↔ ¬ Body.Fits b maxBuffer body) ∧
    (overflows [body] ↔ rest.length > maxBuffer) ∧
    ∀ (early : List Bytes) (one two : Bytes) (late : List Bytes),
      ¬ overflows (early ++ one :: two :: late) → ¬ overflows (early ++ (one ++ two) :: late) := by
  intro rest overflows
  have hall (h : Body.Fits b maxBuffer body) (chunks : List Bytes) (hbody : chunks.flatten = body) :
      ¬ overflows chunks := not_overflows_of_fits (hbody ▸ h)
  have hbytewise : ¬ overflows (body.map ([·])) ↔ Body.Fits b maxBuffer body :=
    ⟨fits_of_not_overflows_bytewise, fun h => hall h _ (flatten_bytewise body)⟩
  refine ⟨Body.isCut b body, ⟨fun h => hbytewise.mp (h _ (flatten_bytewise body)), hall⟩,
    (not_iff_comm.mp hbytewise).symm, ?_, ?_⟩
  · refine overflows_decodeAll_iff.trans ?_
    simp [ends, rest]
  · -- the merged chunks end with the same beginnings, but for the one between the two
    intro early one two late h hmerged
    obtain ⟨front, hmem, hlength⟩ := overflows_decodeAll_iff.mp hmerged
    refine h (overflows_decodeAll_iff.mpr ⟨front, ?_, hlength⟩)
    simp only [ends_append, ends, List.mem_append, List.mem_cons, List.append_assoc] at hmem ⊢
    exact hmem.imp_right .inr

end Mjpeg.Decoder
