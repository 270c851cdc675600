import Mjpeg.Proofs.Pieces

/-!
# A cursor, call by call

A call moves a cursor behind the piece that it answers, and leaves it as it is when it answers
none. So the bytes that a cursor has passed are the pieces it has answered, each with its delimiter,
after any number of calls (`calls_taken`), and `Splits.Taken` accounts for the rest, the number of
bytes passed and the pieces still allowed.

A cursor that has answered none is asked in vain (`calls_of_next?_eq_none`): its limit is reached or
no delimiter is left, and nothing changes that (`next?_of_none_mem`).
-/

namespace Mjpeg.Bytes.Splits

variable {s : Splits} {n : Nat}

/-! ### One call -/

/-- A call answers none and leaves the cursor, or takes the piece that it answers. -/
theorem next_cases (s : Splits) :
    (s.next? = none ∧ s.next = (none, s)) ∨
    ∃ piece s', s.next = (some piece, s') ∧ Taken s [piece] s' := by
  unfold next
  cases hnext : s.next? with
  | none => exact .inl ⟨rfl, rfl⟩
  | some step => exact .inr ⟨step.1, step.2, rfl, taken_of_next? hnext⟩

/-- A call answers none exactly when the delimiter is empty, the limit is reached or no delimiter is
left. -/
theorem next_eq_none_iff :
    s.next.1 = none ↔
      s.delimiter = [] ∨ s.remaining = some 0 ∨ ∀ i, ¬ Occurs s.delimiter s.rest i := by
  have hanswer : s.next.1 = none ↔ s.next? = none := by
    unfold next
    cases s.next? <;> simp
  rw [hanswer]
  by_cases hne : s.delimiter = []
  · refine iff_of_true ?_ (.inl hne)
    simp [next?, hne]
  · rw [next?_eq_none_iff hne]
    exact (or_iff_right hne).symm

/-! ### Many calls -/

/-- The pieces among some answers. -/
def yielded (answers : List (Option Bytes)) : List Bytes := answers.filterMap id

theorem calls_succ (n : Nat) (s : Splits) :
    s.calls (n + 1) = (s.next.1 :: (s.next.2.calls n).1, (s.next.2.calls n).2) := rfl

/-- **Calls take the pieces that they answer.** -/
theorem calls_taken (n : Nat) (s : Splits) : Taken s (yielded (s.calls n).1) (s.calls n).2 := by
  induction n generalizing s with
  | zero => exact Taken.refl s
  | succ n ih =>
    rw [calls_succ]
    obtain ⟨-, hnext⟩ | ⟨piece, s', hnext, htaken⟩ := next_cases s
    · rw [hnext]
      exact ih s
    · rw [hnext]
      exact htaken.trans (ih s')

/-- Calls go on where the calls before them have come to. -/
theorem calls_add (m n : Nat) (s : Splits) :
    s.calls (m + n) =
      ((s.calls m).1 ++ ((s.calls m).2.calls n).1, ((s.calls m).2.calls n).2) := by
  induction m generalizing s with
  | zero => rw [Nat.zero_add]; rfl
  | succ m ih =>
    rw [Nat.succ_add, calls_succ, calls_succ, ih]
    rfl

/-- A cursor that has no piece left is asked in vain. -/
theorem calls_of_next?_eq_none (h : s.next? = none) (m : Nat) :
    s.calls m = (List.replicate m none, s) := by
  have hnext : s.next = (none, s) := by rw [next, h]
  induction m with
  | zero => rfl
  | succ m ih =>
    rw [calls_succ, hnext, ih]
    rfl

/-- A cursor that has answered none has no piece left. -/
theorem next?_of_none_mem (h : none ∈ (s.calls n).1) : (s.calls n).2.next? = none := by
  induction n generalizing s with
  | zero => exact absurd h List.not_mem_nil
  | succ n ih =>
    rw [calls_succ] at h ⊢
    obtain ⟨hnone, hnext⟩ | ⟨piece, s', hnext, -⟩ := next_cases s
    · rw [hnext, calls_of_next?_eq_none hnone]
      exact hnone
    · rw [hnext] at h ⊢
      exact ih ((List.mem_cons.mp h).resolve_left (by simp))

/-- **A cursor accounts for what it has passed, after any number of calls.** It has passed no more
bytes than there are: the pieces it has answered, each closed by the first delimiter behind it. What
is left is what stands behind these bytes. The pieces and those still allowed make up the limit, so
its count never falls below zero. A further call answers none exactly when the delimiter is empty,
the limit is reached or no delimiter is left. Once a call has answered none, all later calls do, and
the cursor stays as it is. -/
theorem calls_account (data d : Bytes) (limit : Option Nat) (n : Nat) :
    let answers := ((start data d limit).calls n).1
    let s := ((start data d limit).calls n).2
    s.consumed ≤ data.length ∧
    s.rest = data.drop s.consumed ∧
    data.take s.consumed = closed d (yielded answers) ∧
    FirstClosed d (yielded answers) ∧
    (limit = none → s.remaining = none) ∧
    (∀ most, limit = some most →
      ∃ left, s.remaining = some left ∧ (yielded answers).length + left = most) ∧
    (s.next.1 = none ↔ d = [] ∨ s.remaining = some 0 ∨ ∀ i, ¬ Occurs d s.rest i) ∧
    (none ∈ answers → ∀ m,
      (start data d limit).calls (n + m) = (answers ++ List.replicate m none, s)) := by
  intro answers s
  have htaken : Taken (start data d limit) (yielded answers) s := calls_taken n _
  have hdata : data = closed d (yielded answers) ++ s.rest := htaken.rest
  have hconsumed : s.consumed = (closed d (yielded answers)).length := by
    rw [htaken.consumed]
    exact Nat.zero_add _
  have hdelimiter : s.delimiter = d := htaken.delimiter
  refine ⟨?_, ?_, ?_, htaken.first, ?_, ?_, ?_, fun hnone m => ?_⟩
  · rw [hconsumed, congrArg List.length hdata, List.length_append]
    exact Nat.le_add_right _ _
  · rw [hconsumed]
    conv_rhs => rw [hdata, List.drop_left]
  · rw [hconsumed]
    conv_lhs => rw [hdata, List.take_left]
  · rintro rfl
    exact htaken.remaining
  · rintro most rfl
    exact ⟨most - (yielded answers).length, htaken.remaining,
      Nat.add_sub_cancel' (htaken.within most rfl)⟩
  · rw [next_eq_none_iff, hdelimiter]
  · rw [calls_add, calls_of_next?_eq_none (next?_of_none_mem hnone)]

/-- A limit that is reached before the last delimiter. -/
example : (start [1, 0, 2, 0] [0] (some 1)).calls 3 =
    ([some [1], none, none], ⟨[2, 0], [0], some 0, 2⟩) := by decide

end Mjpeg.Bytes.Splits
