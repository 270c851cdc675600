import Mathlib.Logic.Relation
import Mjpeg.Proofs.Decoding

/-!
# Searching on from the mark

A decoder does not search again what it has searched. That is sound as long as no delimiter lies
before the mark (`Marked`), and every request keeps it so (`Marked.performAll`): feeding adds bytes
behind the mark, passing a segment sets the mark back to the start, and a search in vain moves it to
the end of a buffer in which there is no delimiter.

A call goes on by turns, each of which passes one segment without a frame (`GoesOn`), and such a
turn may begin at any state between two requests. Wherever one begins, the call comes to what it
would come to if the mark stood at the start of the buffer (`Marked.nextFrame_eq`). What the cursor
counts from the place where it starts lies within the buffer (`segment?_eq`), and each turn takes a
delimiter from it, so the turns end (`exists_last_turn`).
-/

namespace Mjpeg.Decoder

open Bytes Relation

variable {b : Boundary} {d d' : Decoder} {pos length consumed : Nat}

/-! ### What is asked of a decoder -/

/-- What can be asked of a decoder, batches included. -/
inductive Request where
  | push (chunk : Bytes)
  | nextFrame
  | decode (chunk : Bytes)
  deriving Repr, DecidableEq

/-- The decoder behind a request, whatever the answer was. -/
def perform (d : Decoder) : Request → Decoder
  | .push chunk => d.push chunk
  | .nextFrame => d.nextFrame.decoder
  | .decode chunk => (d.decode chunk).decoder

/-- The decoder behind some requests. -/
def performAll (d : Decoder) (requests : List Request) : Decoder := requests.foldl perform d

theorem performAll_cons (d : Decoder) (request : Request) (requests : List Request) :
    d.performAll (request :: requests) = (d.perform request).performAll requests := rfl

/-- Asking for every frame is asking for a frame some times. -/
theorem decoder_drain (d : Decoder) :
    ∃ n, d.drain.decoder = d.performAll (List.replicate (n + 1) .nextFrame) := by
  fun_induction drain d with
  | case1 d rest skipped e hnext => exact ⟨0, (congrArg Pull.decoder hnext).symm⟩
  | case2 d rest skipped hnext => exact ⟨0, (congrArg Pull.decoder hnext).symm⟩
  | case3 d rest skipped f hnext hlt later ih =>
    obtain ⟨n, hn⟩ := ih
    refine ⟨n + 1, ?_⟩
    rw [List.replicate_succ, performAll_cons, perform, hnext]
    exact hn

/-- **A batch is a chunk that is fed and then calls for a frame**, so what holds between requests
holds within a batch. -/
theorem perform_decode (d : Decoder) (chunk : Bytes) :
    ∃ n, d.perform (.decode chunk) =
      d.performAll (.push chunk :: List.replicate (n + 1) .nextFrame) :=
  decoder_drain (d.push chunk)

/-- A request leaves the mark before every delimiter, and the boundary as it is. -/
theorem Marked.perform (h : d.Marked) (request : Request) :
    (d.perform request).Marked ∧ (d.perform request).boundary = d.boundary := by
  cases request with
  | push chunk => exact ⟨h.push chunk, rfl⟩
  | nextFrame =>
    obtain ⟨passed, hreads⟩ := nextFrame_reads h
    exact ⟨hreads.marked, hreads.passes.boundary⟩
  | decode chunk =>
    have hreads := drain_reads (h.push chunk)
    exact ⟨hreads.marked, hreads.passes.boundary⟩

/-- **No request puts the mark behind a delimiter.** -/
theorem Marked.performAll (h : d.Marked) (requests : List Request) :
    (d.performAll requests).Marked ∧ (d.performAll requests).boundary = d.boundary := by
  induction requests generalizing d with
  | nil => exact ⟨h, rfl⟩
  | cons request requests ih =>
    obtain ⟨hmarked, hboundary⟩ := h.perform request
    obtain ⟨hlater, hsame⟩ := ih hmarked
    exact ⟨hlater, hsame.trans hboundary⟩

/-! ### The cursor -/

/-- The length of the segment that a cursor finds from the place where a search starts, and how much
of the buffer goes with it. -/
def segment? (d : Decoder) : Option (Nat × Nat) :=
  let cursor := Splits.start (d.pending.drop d.searchStart) d.boundary.delimiter (some 1)
  cursor.next?.map fun (piece, cursor) =>
    (d.searchStart + piece.length, d.searchStart + cursor.consumed)

/-- A cursor at its start takes the first piece and passes the delimiter behind it. -/
theorem next?_start (data delimiter : Bytes) :
    (Splits.start data delimiter (some 1)).next? = (find data delimiter).map fun pos =>
      let passed := pos + delimiter.length
      (data.take pos, ⟨data.drop passed, delimiter, some 0, 0 + passed⟩) := by
  unfold Splits.next? Splits.start
  dsimp only
  rw [if_neg (by simp)]
  cases find data delimiter <;> rfl

/-- The cursor finds what the search of the buffer finds. -/
theorem segment?_eq (d : Decoder) :
    d.segment? = (findFrom d.buffer d.boundary.delimiter d.searchStart).map fun pos =>
      (pos, pos + d.boundary.delimiter.length) := by
  rw [findFrom_eq, Option.map_map, segment?, next?_start]
  change _ = Option.map _ (find (d.pending.drop d.searchStart) d.boundary.delimiter)
  cases hfind : find (d.pending.drop d.searchStart) d.boundary.delimiter with
  | none => rfl
  | some pos =>
    have hle := ((find_eq_some_iff d.boundary.delimiter_ne_nil).mp hfind).le_length
      d.boundary.delimiter_ne_nil
    simp only [Option.map_some, Function.comp, List.length_take, Nat.zero_add, Option.some.injEq,
      Prod.mk.injEq]
    omega

/-- The search starts within the buffer. -/
theorem Marked.searchStart_le (h : d.Marked) : d.searchStart ≤ d.buffer.size :=
  (Nat.sub_le _ _).trans (h.le.trans (length_pending d).le)

/-- What is found lies within the buffer, the segment before its delimiter. -/
theorem segment?_le (h : d.segment? = some (length, consumed)) :
    consumed = length + d.boundary.delimiter.length ∧ consumed ≤ d.buffer.size := by
  rw [segment?_eq] at h
  obtain ⟨pos, hfind, hpair⟩ := Option.map_eq_some_iff.mp h
  obtain ⟨rfl, rfl⟩ := Prod.mk.inj hpair
  exact ⟨rfl, le_size_of_findFrom hfind⟩

/-! ### Turns of a call -/

/-- A call that stands at `d` passes a segment without a frame, and goes on from `d'`. -/
inductive GoesOn (d : Decoder) : Decoder → Prop
  | blank {pos : Nat} :
      findFrom d.buffer d.boundary.delimiter d.searchStart = some pos →
      Part.ofSegment? (d.pending.take pos) = none → isBlank (d.pending.take pos) = true →
      GoesOn d (d.pass pos)
  | malformed {pos : Nat} :
      findFrom d.buffer d.boundary.delimiter d.searchStart = some pos →
      Part.ofSegment? (d.pending.take pos) = none → isBlank (d.pending.take pos) = false →
      GoesOn d { d.pass pos with malformed := (d.pass pos).malformed + 1 }

theorem nextFrame_of_frame {f : Frame}
    (hfind : findFrom d.buffer d.boundary.delimiter d.searchStart = some pos)
    (hpart : Part.ofSegment? (d.pending.take pos) = some f) :
    d.nextFrame = ⟨d.pass pos, [], .ok (some f)⟩ := by
  rw [← toList_extract] at hpart
  rw [nextFrame]
  split <;> rename_i heq <;> cases hfind.symm.trans heq
  dsimp only
  rw [hpart]

theorem nextFrame_of_blank (hfind : findFrom d.buffer d.boundary.delimiter d.searchStart = some pos)
    (hpart : Part.ofSegment? (d.pending.take pos) = none)
    (hblank : isBlank (d.pending.take pos) = true) : d.nextFrame = (d.pass pos).nextFrame := by
  rw [← toList_extract] at hpart hblank
  rw [nextFrame]
  split <;> rename_i heq <;> cases hfind.symm.trans heq
  dsimp only
  rw [hpart]
  exact if_pos hblank

theorem nextFrame_of_malformed
    (hfind : findFrom d.buffer d.boundary.delimiter d.searchStart = some pos)
    (hpart : Part.ofSegment? (d.pending.take pos) = none)
    (hblank : isBlank (d.pending.take pos) = false) :
    d.nextFrame =
      let pull := { d.pass pos with malformed := (d.pass pos).malformed + 1 }.nextFrame
      { pull with skipped := pos :: pull.skipped } := by
  rw [← toList_extract] at hpart hblank
  rw [nextFrame]
  split <;> rename_i heq <;> cases hfind.symm.trans heq
  dsimp only
  rw [hpart]
  exact if_neg (hblank ▸ Bool.false_ne_true)

/-- A call comes to what it comes to behind a turn. -/
theorem GoesOn.nextFrame_eq (h : GoesOn d d') :
    d.nextFrame.decoder = d'.nextFrame.decoder ∧ d.nextFrame.outcome = d'.nextFrame.outcome := by
  cases h with
  | blank hfind hpart hblank =>
    rw [nextFrame_of_blank hfind hpart hblank]
    exact ⟨rfl, rfl⟩
  | malformed hfind hpart hblank =>
    rw [nextFrame_of_malformed hfind hpart hblank]
    exact ⟨rfl, rfl⟩

/-- A turn sets the mark back to the start. -/
theorem GoesOn.marked (h : GoesOn d d') : d'.Marked := by
  cases h with
  | blank => exact marked_of_scanned_eq_zero rfl
  | malformed => exact marked_of_scanned_eq_zero rfl

theorem GoesOn.boundary_eq (h : GoesOn d d') : d'.boundary = d.boundary := by
  cases h with
  | blank => rfl
  | malformed => rfl

/-- A turn takes what the cursor counts from the buffer. -/
theorem GoesOn.exists_segment? (h : GoesOn d d') : ∃ length consumed,
    d.segment? = some (length, consumed) ∧ d'.pending = d.pending.drop consumed := by
  rw [segment?_eq]
  cases h with
  | blank hfind => exact ⟨_, _, by rw [hfind]; rfl, pending_pass d _⟩
  | malformed hfind => exact ⟨_, _, by rw [hfind]; rfl, pending_pass d _⟩

/-- **A turn takes at least a delimiter from the buffer.** -/
theorem GoesOn.size_buffer_le (h : GoesOn d d') :
    d'.buffer.size + d.boundary.delimiter.length ≤ d.buffer.size := by
  obtain ⟨length, consumed, hsegment, hpending⟩ := h.exists_segment?
  obtain ⟨hconsumed, hle⟩ := segment?_le hsegment
  have hsize := congrArg List.length hpending
  rw [List.length_drop, length_pending, length_pending] at hsize
  omega

/-- **The turns of a call end.** -/
theorem exists_last_turn (d : Decoder) : ∃ last, ReflTransGen GoesOn d last ∧
    ∀ s, ¬ GoesOn last s := by
  fun_induction nextFrame d with
  | case1 d hfind =>
    refine ⟨d, .refl, fun s hs => ?_⟩
    cases hs with
    | blank hfind' => exact absurd (hfind.symm.trans hfind') (by simp)
    | malformed hfind' => exact absurd (hfind.symm.trans hfind') (by simp)
  | case2 d pos hfind segment rest hlt f hpart =>
    rw [show segment = d.pending.take pos from toList_extract d pos] at hpart
    refine ⟨d, .refl, fun s hs => ?_⟩
    cases hs with
    | blank hfind' hpart' =>
      obtain rfl := Option.some.inj (hfind.symm.trans hfind')
      exact absurd (hpart.symm.trans hpart') (by simp)
    | malformed hfind' hpart' =>
      obtain rfl := Option.some.inj (hfind.symm.trans hfind')
      exact absurd (hpart.symm.trans hpart') (by simp)
  | case3 d pos hfind segment rest hlt hpart hblank ih =>
    rw [show segment = d.pending.take pos from toList_extract d pos] at hpart hblank
    obtain ⟨last, hturns, hlast⟩ := ih
    exact ⟨last, .head (.blank hfind hpart hblank) hturns, hlast⟩
  | case4 d pos hfind segment rest hlt hpart hblank pull ih =>
    rw [show segment = d.pending.take pos from toList_extract d pos] at hpart hblank
    obtain ⟨last, hturns, hlast⟩ := ih
    exact ⟨last, .head (.malformed hfind hpart (Bool.not_eq_true _ ▸ hblank)) hturns, hlast⟩

/-- What holds where a call begins and behind each turn holds wherever a turn begins. -/
theorem marked_of_turns (h : d.Marked) (hturns : ReflTransGen GoesOn d d') :
    d'.Marked ∧ d'.boundary = d.boundary ∧ d.nextFrame.decoder = d'.nextFrame.decoder ∧
      d.nextFrame.outcome = d'.nextFrame.outcome := by
  induction hturns with
  | refl => exact ⟨h, rfl, rfl, rfl⟩
  | tail _ hturn ih =>
    obtain ⟨-, hboundary, hdecoder, houtcome⟩ := ih
    obtain ⟨hdecoder', houtcome'⟩ := hturn.nextFrame_eq
    exact ⟨hturn.marked, hturn.boundary_eq.trans hboundary, hdecoder.trans hdecoder',
      houtcome.trans houtcome'⟩

/-! ### The mark set back -/

/-- The decoder as if nothing of its buffer had been searched. -/
def forget (d : Decoder) : Decoder := { d with scanned := 0 }

/-- A decoder that has searched nothing searches the whole buffer. -/
theorem searchStart_forget (d : Decoder) : d.forget.searchStart = 0 := Nat.zero_sub _

/-- **A call comes to what it would come to if nothing had been searched**: it answers the same,
passes the same segments, and leaves the same buffer, mark and count. -/
theorem Marked.nextFrame_eq (h : d.Marked) : d.nextFrame = d.forget.nextFrame := by
  have hforgot : d.forget.Marked := marked_of_scanned_eq_zero rfl
  have hsame : findFrom d.forget.buffer d.forget.boundary.delimiter d.forget.searchStart =
      findFrom d.buffer d.boundary.delimiter d.searchStart := by
    rw [findFrom_searchStart hforgot, findFrom_searchStart h]
    rfl
  cases hfind : findFrom d.buffer d.boundary.delimiter d.searchStart with
  | none =>
    have hclear : ∀ i, ¬ Occurs d.boundary.delimiter d.pending i := by
      rwa [findFrom_searchStart h, find_eq_none_iff d.boundary.delimiter_ne_nil] at hfind
    rw [nextFrame_of_clear h hclear, nextFrame_of_clear hforgot hclear]
    rfl
  | some pos =>
    have hfind' := hsame.trans hfind
    -- behind the first segment the two decoders are the same
    cases hpart : Part.ofSegment? (d.pending.take pos) with
    | some f =>
      rw [nextFrame_of_frame hfind hpart, nextFrame_of_frame hfind' hpart]
      rfl
    | none =>
      cases hblank : isBlank (d.pending.take pos) with
      | true =>
        rw [nextFrame_of_blank hfind hpart hblank, nextFrame_of_blank hfind' hpart hblank]
        rfl
      | false =>
        rw [nextFrame_of_malformed hfind hpart hblank, nextFrame_of_malformed hfind' hpart hblank]
        rfl

/-- **Searching on from the mark is sound, and within the buffer.** Whatever is asked of a decoder,
in whatever order and with whatever answers, no delimiter lies before the mark where a call begins
and behind each of its turns. From there

* the cursor starts within the buffer and counts what a search of the whole buffer finds: a segment
  that ends where its delimiter begins, and no more bytes than there are;
* the call comes to what it would come to if nothing had been searched;
* a further turn takes what the cursor counts, at least a delimiter, and the turns end.

A batch is a chunk that is fed and then such calls. -/
theorem search_resumes (b : Boundary) (maxBuffer : Nat) (requests : List Request) :
    let d := (start b maxBuffer).performAll requests
    3 ≤ b.delimiter.length ∧
    (∃ last, ReflTransGen GoesOn d last ∧ ∀ s, ¬ GoesOn last s) ∧
    (∀ s, ReflTransGen GoesOn d s →
      s.scanned ≤ s.pending.length ∧
      (∀ i, ¬ Occurs b.delimiter (s.pending.take s.scanned) i) ∧
      s.searchStart ≤ s.pending.length ∧
      s.segment? = (find s.pending b.delimiter).map (fun pos => (pos, pos + b.delimiter.length)) ∧
      (∀ length consumed, s.segment? = some (length, consumed) →
        length ≤ consumed ∧ consumed ≤ s.pending.length) ∧
      s.forget.searchStart = 0 ∧ s.nextFrame = s.forget.nextFrame ∧
      s.nextFrame.decoder = d.nextFrame.decoder ∧ s.nextFrame.outcome = d.nextFrame.outcome ∧
      ∀ s', GoesOn s s' →
        (∃ length consumed, s.segment? = some (length, consumed) ∧
          s'.pending = s.pending.drop consumed) ∧
        s'.pending.length + b.delimiter.length ≤ s.pending.length) ∧
    ∀ chunk, ∃ n, d.perform (.decode chunk) =
      d.performAll (.push chunk :: List.replicate (n + 1) .nextFrame) := by
  intro d
  obtain ⟨hmarked, hboundary⟩ :=
    (marked_of_scanned_eq_zero (d := start b maxBuffer) rfl).performAll requests
  refine ⟨b.two_lt_length_delimiter, exists_last_turn d, fun s hturns => ?_, perform_decode d⟩
  obtain ⟨hs, hsame, hdecoder, houtcome⟩ := marked_of_turns hmarked hturns
  obtain rfl : s.boundary = b := hsame.trans hboundary
  refine ⟨hs.le, hs.clear, ?_, ?_, fun length consumed hsegment => ?_, searchStart_forget s,
    hs.nextFrame_eq, hdecoder.symm, houtcome.symm, fun s' hturn => ⟨hturn.exists_segment?, ?_⟩⟩
  · exact hs.searchStart_le.trans (length_pending s).ge
  · rw [segment?_eq, findFrom_searchStart hs]
  · obtain ⟨rfl, hle⟩ := segment?_le hsegment
    exact ⟨Nat.le_add_right _ _, hle.trans (length_pending s).ge⟩
  · rw [length_pending, length_pending]
    exact hturn.size_buffer_le

end Mjpeg.Decoder
