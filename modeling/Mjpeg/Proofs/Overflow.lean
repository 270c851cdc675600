import Mathlib.Logic.Relation
import Mjpeg.Proofs.Reading

/-!
# What a reader holds, and the limit that it reports

A reader goes on by turns: its decoder is asked, or is asked in vain and then fed what one read
delivers, or its source will bring more (`Turn`). A call takes some turns after each other
(`turns_readFrame`), and so do all calls (`turns_run`).

* A reader reads only when the bytes kept come within the limit, so it never holds more than the
  limit and the bytes of one read (`Holds.turn`).
* A decoder that has reported the limit finds the same bytes when it is asked again. So the reader
  reports the limit for good, and stays as it is but for its source (`stuck_of_readFrame`,
  `Stuck.perform`).
-/

namespace Mjpeg.Reader

open Relation

variable {r s : Reader} {b : Boundary} {maxBuffer size max : Nat}

/-! ### Turns -/

/-- What a reader does between two states. -/
inductive Turn : Reader → Reader → Prop
  /-- The decoder is asked for a frame. -/
  | asked {r : Reader} {pull : Decoder.Pull} :
      r.decoder.nextFrame = pull → Turn r { r with decoder := pull.decoder }
  /-- The decoder is asked in vain, and is fed the bytes of one read. -/
  | read {r : Reader} {decoder : Decoder} {skipped : List Nat} {bytes : Bytes}
      {source : List ReadEvent} :
      r.decoder.nextFrame = ⟨decoder, skipped, .ok none⟩ →
      readSource r.source = (.ok bytes, source) →
      Turn r ⟨decoder.push bytes, source, r.reads + 1⟩
  /-- The decoder is asked in vain, and the read fails. -/
  | failed {r : Reader} {decoder : Decoder} {skipped : List Nat} {e : IoError}
      {source : List ReadEvent} :
      r.decoder.nextFrame = ⟨decoder, skipped, .ok none⟩ →
      readSource r.source = (.error e, source) →
      Turn r ⟨decoder, source, r.reads + 1⟩
  /-- The source will bring more. -/
  | fed (r : Reader) (source : List ReadEvent) : Turn r (r.feed source)

/-- Turns one after the other. -/
abbrev Turns : Reader → Reader → Prop := ReflTransGen Turn

/-- **A call goes by turns.** -/
theorem turns_readFrame (r : Reader) : Turns r r.readFrame.reader := by
  fun_induction readFrame r with
  | case1 r decoder skipped e hnext => exact .single (.asked hnext)
  | case2 r decoder skipped f hnext => exact .single (.asked hnext)
  | case3 r decoder skipped hnext e source hread hlt after hkind pull ih =>
    exact .head (.failed hnext hread) ih
  | case4 r decoder skipped hnext e source hread hlt after hkind =>
    exact .single (.failed hnext hread)
  | case5 r decoder skipped hnext source hread =>
    have hturn := Turn.read hnext hread
    rw [Decoder.push_nil] at hturn
    exact .single hturn
  | case6 r decoder skipped hnext byte bytes source hread hlt after pull ih =>
    exact .head (.read hnext hread) ih

theorem turns_nextItem (r : Reader) (done : Bool) : Turns r (r.nextItem done).reader := by
  cases done with
  | true => exact .refl
  | false => exact (nextItem_false r).1 ▸ turns_readFrame r

theorem turns_iterate (n : Nat) (done : Bool) (r : Reader) :
    Turns r (iterate n done r).reader := by
  induction n generalizing done r with
  | zero => exact .refl
  | succ n ih => exact (turns_nextItem r done).trans (ih _ _)

theorem turns_perform (r : Reader) (call : Call) : Turns r (r.perform call).reader := by
  cases call with
  | readFrame => exact turns_readFrame r
  | frames n => exact turns_iterate n false r
  | feed source => exact .single (.fed r source)

/-- **All calls go by turns.** -/
theorem turns_run (r : Reader) (calls : List Call) : Turns r (r.run calls).reader := by
  induction calls generalizing r with
  | nil => exact .refl
  | cons call calls ih => exact (turns_perform r call).trans (ih _)

/-! ### What a reader holds -/

/-- The reader holds no more than the limit and the bytes of one read. -/
structure Holds (maxBuffer : Nat) (r : Reader) : Prop where
  marked : r.decoder.Marked
  limit : r.decoder.maxBuffer = maxBuffer
  buffered : r.decoder.buffered ≤ maxBuffer + readSize

theorem holds_start (b : Boundary) (maxBuffer : Nat) (source : List ReadEvent) :
    Holds maxBuffer (start b maxBuffer source) where
  marked := Decoder.marked_of_scanned_eq_zero rfl
  limit := rfl
  buffered := Nat.zero_le _

/-- A decoder that asks for more bytes keeps no more than its limit. -/
theorem buffered_le_of_asked {d decoder : Decoder} {skipped : List Nat} (h : d.Marked)
    (hnext : d.nextFrame = ⟨decoder, skipped, .ok none⟩) : decoder.buffered ≤ d.maxBuffer := by
  obtain ⟨passed, hreads⟩ := Decoder.nextFrame_reads h
  rw [hnext] at hreads
  rcases hreads.outcome with ⟨f, hf⟩ | ⟨-, hheld⟩
  · exact absurd hf (by simp)
  · rw [Decoder.heldAgainst, Decoder.length_pending] at hheld
    split at hheld
    · exact absurd hheld (by simp)
    · rename_i hle
      exact Nat.not_lt.mp hle

/-- **A turn keeps to the bound**: what is read comes on top of bytes within the limit. -/
theorem Holds.turn (h : Holds maxBuffer r) (hturn : Turn r s) : Holds maxBuffer s := by
  obtain ⟨passed, hreads⟩ := Decoder.nextFrame_reads h.marked
  have hlimit := hreads.passes.maxBuffer.trans h.limit
  have hle := (Decoder.size_buffer_nextFrame_le r.decoder).trans h.buffered
  cases hturn with
  | asked hnext => exact hnext ▸ ⟨hreads.marked, hlimit, hle⟩
  | failed hnext hread =>
    rw [hnext] at hreads hlimit hle
    exact ⟨hreads.marked, hlimit, hle⟩
  | read hnext hread =>
    rw [hnext] at hreads hlimit
    have hkept := h.limit ▸ buffered_le_of_asked h.marked hnext
    refine ⟨hreads.marked.push _, hlimit, ?_⟩
    rw [Decoder.buffered, Decoder.size_buffer_push]
    exact Nat.add_le_add hkept (length_le_of_readSource hread)
  | fed => exact ⟨h.marked, h.limit, h.buffered⟩

theorem Holds.turns (h : Holds maxBuffer r) (hturns : Turns r s) : Holds maxBuffer s := by
  induction hturns with
  | refl => exact h
  | tail _ hturn ih => exact ih.turn hturn

/-! ### A limit that was reported -/

/-- The decoder of the reader says this and is then as it was. -/
structure Stuck (size max : Nat) (r : Reader) : Prop where
  outcome : r.decoder.nextFrame.outcome = .error (.bufferOverflow size max)
  decoder : r.decoder.nextFrame.decoder = r.decoder

/-- **Whoever has reported the limit is stuck with it.** -/
theorem stuck_of_readFrame (r : Reader) : r.decoder.Marked →
    r.readFrame.outcome = .error (.bufferOverflow size max) →
    Stuck size max r.readFrame.reader := by
  fun_induction Reader.readFrame r with
  | case1 r decoder skipped e hnext =>
    intro hmarked he
    obtain ⟨hdecoder, houtcome⟩ := Decoder.nextFrame_nextFrame hmarked (by rw [hnext]; rfl)
    rw [hnext] at hdecoder houtcome
    exact ⟨houtcome.trans (by rw [Except.error.inj he]), hdecoder⟩
  | case2 | case4 | case5 => exact fun _ he => absurd he (by simp)
  | case3 r decoder skipped hnext e source hread hlt after hkind pull ih =>
    intro hmarked
    have hafter := hmarked.nextFrame
    rw [hnext] at hafter
    exact ih hafter
  | case6 r decoder skipped hnext byte bytes source hread hlt after pull ih =>
    intro hmarked
    have hafter := hmarked.nextFrame
    rw [hnext] at hafter
    exact ih (hafter.push _)

/-- A stuck reader reports the same again, and does not read. -/
theorem Stuck.readFrame_eq (h : Stuck size max r) :
    r.readFrame.outcome = .error (.bufferOverflow size max) ∧ r.readFrame.reader = r := by
  have houtcome := h.outcome
  have hdecoder := h.decoder
  rw [readFrame]
  split <;> rename_i heq <;> rw [heq] at houtcome hdecoder <;> cases houtcome
  exact ⟨rfl, congrArg (fun decoder => { r with decoder }) hdecoder⟩

/-- An iteration that is over neither reads nor answers anything. -/
theorem iterate_done (n : Nat) (r : Reader) :
    iterate n true r = ⟨List.replicate n (.answered none), r⟩ := by
  induction n with
  | zero => rfl
  | succ n ih =>
    rw [iterate]
    change Course.mk (readsBetween r r ++ .answered none :: (iterate n true r).events)
      (iterate n true r).reader = _
    rw [readsBetween_of_reads_eq rfl, ih]
    rfl

/-- An iteration over a stuck reader reports the limit first, and is over. -/
theorem Stuck.iterate_eq (h : Stuck size max r) (n : Nat) :
    iterate (n + 1) false r =
      ⟨.answered (some (.error (.bufferOverflow size max))) :: List.replicate n (.answered none),
        r⟩ := by
  obtain ⟨hreader, hitem, hdone⟩ := nextItem_false r
  obtain ⟨houtcome, hsame⟩ := h.readFrame_eq
  rw [houtcome] at hitem hdone
  rw [hsame] at hreader
  rw [iterate, hreader, hitem, hdone, readsBetween_of_reads_eq rfl]
  change Course.mk ([] ++ _ :: (iterate n true r).events) (iterate n true r).reader = _
  rw [iterate_done]
  rfl

theorem Stuck.callEvents_eq (h : Stuck size max r) :
    callEvents r r.readFrame = [.answered (some (.error (.bufferOverflow size max)))] := by
  obtain ⟨houtcome, hsame⟩ := h.readFrame_eq
  rw [callEvents, houtcome, hsame, readsBetween_of_reads_eq rfl]
  rfl

/-- **Nothing that is asked of a stuck reader changes more than what its source will bring.** -/
theorem Stuck.perform (h : Stuck size max r) (call : Call) :
    Stuck size max (r.perform call).reader ∧ (r.perform call).reader.decoder = r.decoder ∧
      (r.perform call).reader.reads = r.reads := by
  cases call with
  | readFrame =>
    rw [Reader.perform, h.readFrame_eq.2]
    exact ⟨h, rfl, rfl⟩
  | frames n =>
    cases n with
    | zero => exact ⟨h, rfl, rfl⟩
    | succ n =>
      rw [Reader.perform, h.iterate_eq]
      exact ⟨h, rfl, rfl⟩
  | feed source => exact ⟨⟨h.outcome, h.decoder⟩, rfl, rfl⟩

theorem Stuck.run (h : Stuck size max r) (calls : List Call) :
    Stuck size max (r.run calls).reader ∧ (r.run calls).reader.decoder = r.decoder ∧
      (r.run calls).reader.reads = r.reads := by
  induction calls generalizing r with
  | nil => exact ⟨h, rfl, rfl⟩
  | cons call calls ih =>
    obtain ⟨hstuck, hdecoder, hreads⟩ := h.perform call
    obtain ⟨hlater, hdecoder', hreads'⟩ := ih hstuck
    exact ⟨hlater, hdecoder'.trans hdecoder, hreads'.trans hreads⟩

/-- The item of an answer that is an error is that error. -/
theorem eq_error_of_itemOf {outcome : Except FrameError Frame} {e : FrameError}
    (h : itemOf outcome = some (.error e)) : outcome = .error e := by
  unfold itemOf at h
  split at h
  · exact absurd h (by simp)
  · exact Option.some.inj h

/-- An iteration that has reported the limit leaves the reader stuck. -/
theorem Holds.stuck_of_iterate (h : Holds maxBuffer r) (n : Nat) (done : Bool)
    (hreport : some (.error (.bufferOverflow size max)) ∈ answers (iterate n done r).events) :
    Stuck size max (iterate n done r).reader := by
  induction n generalizing done r with
  | zero => exact absurd hreport List.not_mem_nil
  | succ n ih =>
    cases done with
    | true =>
      rw [answers_iterate_done] at hreport
      exact absurd (List.eq_of_mem_replicate hreport) (by simp)
    | false =>
      obtain ⟨hreader, hitem, hdone⟩ := nextItem_false r
      rw [iterate, answers_readsBetween_append, hitem, hreader, hdone] at hreport
      rw [iterate, hreader, hdone]
      rcases List.mem_cons.mp hreport with hfirst | hlater
      · -- the report was the item of this step, and ends the iteration
        have houtcome := eq_error_of_itemOf hfirst.symm
        rw [houtcome]
        change Stuck size max (iterate n true r.readFrame.reader).reader
        rw [iterate_done]
        exact stuck_of_readFrame r h.marked houtcome
      · exact ih (h.turns (turns_readFrame r)) _ hlater

theorem Holds.stuck_of_perform (h : Holds maxBuffer r) (call : Call)
    (hreport : some (.error (.bufferOverflow size max)) ∈ answers (r.perform call).events) :
    Stuck size max (r.perform call).reader := by
  cases call with
  | readFrame =>
    rw [perform, callEvents, answers_readsBetween_append] at hreport
    have houtcome := (Option.some.inj (List.mem_singleton.mp hreport)).symm
    exact stuck_of_readFrame r h.marked houtcome
  | frames n => exact h.stuck_of_iterate n false hreport
  | feed source => exact absurd hreport List.not_mem_nil

/-- **Once the limit has been reported, the reader is stuck**, whatever is asked of it later. -/
theorem Holds.stuck_of_run (h : Holds maxBuffer r) (calls : List Call)
    (hreport : some (.error (.bufferOverflow size max)) ∈ answers (r.run calls).events) :
    Stuck size max (r.run calls).reader := by
  induction calls generalizing r with
  | nil => exact absurd hreport List.not_mem_nil
  | cons call calls ih =>
    rw [Reader.run, answers, List.filterMap_append] at hreport
    rcases List.mem_append.mp hreport with hhere | hlater
    · exact ((h.stuck_of_perform call hhere).run calls).1
    · exact ih (h.turns (turns_perform r call)) hlater

/-- A reader is stuck with its own limit and the number of bytes that it holds. -/
theorem Stuck.eq_buffered (h : Stuck size max r) (hholds : Holds maxBuffer r) :
    size = r.decoder.buffered ∧ max = maxBuffer := by
  obtain ⟨passed, hreads⟩ := Decoder.nextFrame_reads hholds.marked
  have houtcome := h.outcome
  rcases hreads.outcome with ⟨f, hf⟩ | ⟨-, hheld⟩
  · rw [hf] at houtcome
    exact absurd houtcome (by simp)
  · rw [hheld, h.decoder, hholds.limit, Decoder.heldAgainst, Decoder.length_pending] at houtcome
    split at houtcome
    · injection houtcome with hreport
      injection hreport with hsize hmax
      exact ⟨hsize.symm, hmax.symm⟩
    · exact absurd houtcome (by simp)

/-- **A reader holds no more than its limit and the bytes of one read, and a limit that it has
reported it reports for good.** All calls go by turns, and no turns lead to a reader that holds
more. Once an answer was the limit, the report is of the bytes held, and any later calls leave the
decoder and the count of reads as they are: then `readFrame` and the first step of an iteration
answer the same report and do not read, whatever the source was said to bring meanwhile. -/
theorem run_limit (b : Boundary) (maxBuffer : Nat) (source : List ReadEvent) (calls : List Call) :
    let course := (start b maxBuffer source).run calls
    let r := course.reader
    Turns (start b maxBuffer source) r ∧
    (∀ s, Turns (start b maxBuffer source) s → s.decoder.buffered ≤ maxBuffer + readSize) ∧
    ∀ size max, some (.error (.bufferOverflow size max)) ∈ answers course.events →
      size = r.decoder.buffered ∧ max = maxBuffer ∧
      ∀ later : List Call,
        let s := (r.run later).reader
        s.decoder = r.decoder ∧ s.reads = r.reads ∧
        (s.perform .readFrame).events = [.answered (some (.error (.bufferOverflow size max)))] ∧
        ∀ n, (s.perform (.frames (n + 1))).events =
          .answered (some (.error (.bufferOverflow size max))) ::
            List.replicate n (.answered none) := by
  intro course r
  have hturns : Turns (start b maxBuffer source) r := turns_run _ calls
  refine ⟨hturns, fun s hs => ((holds_start b maxBuffer source).turns hs).buffered, ?_⟩
  intro size max hreport
  have hstuck : Stuck size max r := (holds_start b maxBuffer source).stuck_of_run calls hreport
  obtain ⟨hsize, hmax⟩ := hstuck.eq_buffered ((holds_start b maxBuffer source).turns hturns)
  refine ⟨hsize, hmax, fun later => ?_⟩
  obtain ⟨hlater, hdecoder, hreads⟩ := hstuck.run later
  refine ⟨hdecoder, hreads, hlater.callEvents_eq, fun n => ?_⟩
  exact congrArg Course.events (hlater.iterate_eq n)

end Mjpeg.Reader
