import Mjpeg.Proofs.Moves

/-!
# The queue of those who wait

A queue keeps the latest `queueSize` of the frames sent to it (`Queue.ofPublished_eq`). One who asks
for the frame that follows those it has seen gets it if it is kept, and otherwise the oldest one
that is, at the second turn of the loop (`Queue.await_eq`). A waiter answers what this loop gives
(`Waiter.poll_of_lt`, `Waiter.poll_of_le`).
-/

namespace Mjpeg.Stream

namespace Queue

variable {q : Queue} {next missed skipped : Nat} {published : List Frame} {f : Frame}

/-- A queue to which some frames were sent keeps the latest of them. -/
theorem ofPublished_eq (published : List Frame) :
    ofPublished published = ⟨published.take queueSize, published.length⟩ := by
  induction published with
  | nil => rfl
  | cons f published ih =>
    change (ofPublished published).send f = _
    rw [ih, send, List.take_cons (show 0 < queueSize by decide),
      List.take_cons (show 0 < queueSize by decide), List.take_take]
    rfl

theorem await_of_nothing (h : q.receive next = .nothing) :
    q.await next missed = (none, missed) := by
  rw [await]
  split <;> simp_all

theorem await_of_lagged (h : q.receive next = .lagged skipped) :
    q.await next missed = q.await (next + skipped) (missed + skipped) := by
  rw [await]
  split <;> simp_all

theorem await_of_frame (h : q.receive next = .frame f) :
    q.await next missed = (some f, missed) := by
  rw [await]
  split <;> simp_all

/-- One who is past `next` of the frames receives the one that follows, if it is still kept. -/
theorem receive_of_kept (hkept : published.length ≤ next + queueSize)
    (hnext : published.reverse[next]? = some f) :
    (ofPublished published).receive next = .frame f := by
  have hlt : next < published.length := by
    simpa using (List.getElem?_eq_some_iff.mp hnext).1
  have hlength : (published.take queueSize).length = min queueSize published.length := by simp
  have hget : (published.take queueSize)[published.length - (next + 1)]? = some f := by
    rw [List.getElem?_take_of_lt (by omega), ← hnext, List.getElem?_reverse hlt]
    congr 1
    omega
  rw [ofPublished_eq, receive, if_neg (by dsimp only; omega), if_neg (by dsimp only; omega)]
  dsimp only
  rw [hget]

/-- One who is past a frame that is not kept any more is sent to the oldest one that is. -/
theorem receive_of_not_kept (hkept : next + queueSize < published.length) :
    (ofPublished published).receive next = .lagged (published.length - queueSize - next) := by
  have hlength : (published.take queueSize).length = queueSize := by simp; omega
  rw [ofPublished_eq, receive, if_neg (by dsimp only; omega), if_pos (by dsimp only; omega),
    hlength]

/-- **One who waits gets the frame that follows**, or the oldest one kept if it is past that, and
has skipped what lies between. -/
theorem await_eq (hnext : next < published.length) :
    let number := max (next + 1) (published.length + 1 - queueSize)
    ∃ f, published.reverse[number - 1]? = some f ∧
      (ofPublished published).await next 0 = (some f, number - (next + 1)) := by
  intro number
  have hsize : 0 < queueSize := by decide
  by_cases hkept : published.length ≤ next + queueSize
  · have hnumber : number = next + 1 := by omega
    have hget : published.reverse[next]? = some _ :=
      List.getElem?_eq_getElem (by rwa [List.length_reverse])
    refine ⟨_, by rw [hnumber, Nat.add_sub_cancel]; exact hget, ?_⟩
    rw [await_of_frame (receive_of_kept hkept hget), hnumber, Nat.sub_self]
  · -- the frame that follows is not kept any more: it takes a second turn
    have hnumber : number = published.length - queueSize + 1 := by omega
    have hget : published.reverse[published.length - queueSize]? = some _ :=
      List.getElem?_eq_getElem (by rw [List.length_reverse]; omega)
    have holdest : next + (published.length - queueSize - next) = published.length - queueSize := by
      omega
    refine ⟨_, by rw [hnumber, Nat.add_sub_cancel]; exact hget, ?_⟩
    rw [await_of_lagged (receive_of_not_kept (Nat.lt_of_not_le hkept)), holdest,
      await_of_frame (receive_of_kept (by omega) hget), hnumber]
    refine Prod.ext rfl ?_
    dsimp only
    omega

theorem await_of_length_le (hnext : published.length ≤ next) :
    (ofPublished published).await next 0 = (none, 0) := by
  rw [ofPublished_eq]
  exact await_of_nothing (if_pos hnext)

end Queue

/-! ### One waiter -/

namespace Waiter

variable {w : Waiter} {published : List Frame} {ended : Bool}

/-- A waiter that has not answered gets the frame that follows those it had seen, or the oldest one
that is kept. -/
theorem poll_of_lt (hfinished : w.finished = false) (hlt : w.seen < published.length)
    (ended : Bool) :
    let number := max (w.seen + 1) (published.length + 1 - queueSize)
    ∃ f, published.reverse[number - 1]? = some f ∧
      w.poll published ended =
        (.frame (some f), number - (w.seen + 1), { w with finished := true }) := by
  intro number
  obtain ⟨f, hf, hawait⟩ := Queue.await_eq hlt
  refine ⟨f, hf, ?_⟩
  rw [poll, hfinished, if_neg Bool.false_ne_true, hawait]

/-- While there is nothing for a waiter it has nothing to say, unless nothing will come. -/
theorem poll_of_le (hfinished : w.finished = false) (hle : published.length ≤ w.seen)
    (ended : Bool) :
    w.poll published ended =
      if ended then (.frame none, 0, { w with finished := true }) else (.pending, 0, w) := by
  rw [poll, hfinished, if_neg Bool.false_ne_true, Queue.await_of_length_le hle]

theorem poll_of_finished (h : w.finished = true) : w.poll published ended = (.finished, 0, w) :=
  if_pos h

@[simp] theorem poll_seen (w : Waiter) (published : List Frame) (ended : Bool) :
    (w.poll published ended).2.2.seen = w.seen := by
  unfold poll
  split
  · rfl
  · split
    · rfl
    · split <;> rfl

/-- A waiter is finished when it has answered. -/
theorem poll_finished_iff (w : Waiter) (published : List Frame) (ended : Bool) :
    (w.poll published ended).2.2.finished = true ↔
      w.finished = true ∨ ∃ frame, (w.poll published ended).1 = .frame frame := by
  unfold poll
  split
  · simp_all
  · split
    · simp
    · split <;> simp_all

/-- A waiter is finished when it was asked and had something to say. -/
theorem poll_finished_iff_lt_or (w : Waiter) (published : List Frame) (ended : Bool) :
    (w.poll published ended).2.2.finished = true ↔
      w.finished = true ∨ w.seen < published.length ∨ ended = true := by
  cases hfinished : w.finished with
  | true => simp [poll_of_finished hfinished, hfinished]
  | false =>
    by_cases hlt : w.seen < published.length
    · obtain ⟨f, -, hpoll⟩ := poll_of_lt hfinished hlt ended
      simp [hpoll, hlt]
    · rw [poll_of_le hfinished (Nat.le_of_not_lt hlt)]
      cases ended <;> simp [hfinished, hlt]

theorem poll_eq_pending_iff : (w.poll published ended).1 = .pending ↔
    w.finished = false ∧ published.length ≤ w.seen ∧ ended = false := by
  cases hfinished : w.finished with
  | true => simp [poll_of_finished hfinished]
  | false =>
    by_cases hlt : w.seen < published.length
    · obtain ⟨f, -, hpoll⟩ := poll_of_lt hfinished hlt ended
      simp [hpoll, Nat.not_le.mpr hlt]
    · rw [poll_of_le hfinished (Nat.le_of_not_lt hlt)]
      cases ended <;> simp [Nat.le_of_not_lt hlt]

/-- A waiter for which there is nothing yet stays as it is. -/
theorem poll_of_pending (h : (w.poll published ended).1 = .pending) :
    (w.poll published ended).2.2 = w := by
  obtain ⟨hfinished, hle, rfl⟩ := poll_eq_pending_iff.mp h
  rw [poll_of_le hfinished hle]
  rfl

end Waiter

end Mjpeg.Stream
