import Mjpeg.Proofs.Waiting

/-!
# What subscriptions report

A subscription compares the version of a value on the board with the version it saw when it was
last checked. `Watched` is such a value together with the actions that make a new version of it;
there are two of them, the latest frame (`Watched.frame`) and the state of the connection
(`Watched.state`). `Watched.since` lists what the task did since a subscription was last checked.
The version it saw and the new versions since then make up the version on the board
(`Watched.seenBy_add_news`), so it reports a change exactly when there were any, be the new value
like the old one or not.

All who look at a stream see the frame published last, and nothing takes them back to an earlier
one. When there is no stream any more they keep it (`run_observers_agree`).
-/

namespace Mjpeg.Stream

/-! ### What is watched -/

/-- A value on the board that subscriptions watch. -/
structure Watched where
  /-- How many versions each of the subscriptions has seen. -/
  seen : Stream → List Nat
  /-- The check of a subscription. -/
  check : Nat → Operation
  check_injective : Function.Injective check
  version : Board → Nat
  /-- The action makes a new version. -/
  isNew : Action → Bool
  version_record : ∀ b a, version (b.record a) = version b + if isNew a then 1 else 0
  seen_check : ∀ (s : Stream) i,
    seen (s.perform (check i)).stream = (seen s).set i (version s.board)
  /-- A new subscription has seen nothing. -/
  seen_other : ∀ (s : Stream) op, (∀ i, op ≠ check i) →
    seen (s.perform op).stream = seen s ∨ seen (s.perform op).stream = seen s ++ [0]

namespace Watched

/-- The latest frame. -/
def frame : Watched where
  seen := Stream.frameSeen
  check := .checkFrame
  check_injective _ _ := Operation.checkFrame.inj
  version := Board.frames
  isNew a := a.published?.isSome
  version_record b a := by cases a <;> rfl
  seen_check s i := congrArg (·.2.1) (seen_perform s (.checkFrame i))
  seen_other s op h := by
    have hseen := congrArg (·.2.1) (seen_perform s op)
    cases op with
    | checkFrame i => exact absurd rfl (h i)
    | subscribe => exact Or.inr hseen
    | _ => exact Or.inl hseen

/-- The state of the connection. -/
def state : Watched where
  seen := Stream.stateSeen
  check := .checkState
  check_injective _ _ := Operation.checkState.inj
  version := Board.assignments
  isNew a := a.assigned?.isSome
  version_record b a := by cases a <;> rfl
  seen_check s i := congrArg (·.2.2) (seen_perform s (.checkState i))
  seen_other s op h := by
    have hseen := congrArg (·.2.2) (seen_perform s op)
    cases op with
    | checkState i => exact absurd rfl (h i)
    | watchState => exact Or.inr hseen
    | _ => exact Or.inl hseen

variable (w : Watched)

/-- The version counts the actions that make a new one. -/
theorem version_foldl (b : Board) (actions : List Action) :
    w.version (actions.foldl Board.record b) = w.version b + actions.countP w.isNew := by
  induction actions generalizing b with
  | nil => rfl
  | cons a actions ih =>
    rw [List.foldl_cons, ih, w.version_record, List.countP_cons]
    omega

/-- How many versions a subscription has seen. One that is still to be made has seen none. -/
def seenBy (i : Nat) (s : Stream) : Nat := (w.seen s)[i]?.getD 0

theorem seenBy_eq_getElem {i : Nat} {s : Stream} (h : i < (w.seen s).length) :
    w.seenBy i s = (w.seen s)[i] := by
  rw [seenBy, List.getElem?_eq_getElem h, Option.getD_some]

/-- The operation checks a subscription that is there. -/
def IsCheck (i : Nat) (s : Stream) (op : Operation) : Prop :=
  op = w.check i ∧ i < (w.seen s).length

instance (i : Nat) (s : Stream) (op : Operation) : Decidable (w.IsCheck i s op) :=
  inferInstanceAs (Decidable (_ ∧ _))

/-- What the task did since a subscription was last checked, or since the stream was made: `past`
before some operations, and what it does while they are carried out. -/
def since (w : Watched) (i : Nat) (s : Stream) (past : List Action) : List Operation → List Action
  | [] => past
  | op :: ops =>
    let step := s.perform op
    let past := if w.IsCheck i s op then [] else past
    since w i step.stream (past ++ step.actions.map (·.2)) ops

/-- A check makes up for all versions, and nothing else does. -/
theorem seenBy_perform (i : Nat) (s : Stream) (op : Operation) :
    w.seenBy i (s.perform op).stream =
      if w.IsCheck i s op then w.version s.board else w.seenBy i s := by
  by_cases hop : ∃ j, op = w.check j
  · obtain ⟨j, rfl⟩ := hop
    rw [seenBy, w.seen_check]
    by_cases hcheck : w.IsCheck i s (w.check j)
    · obtain ⟨heq, hlt⟩ := hcheck
      rw [if_pos ⟨heq, hlt⟩, w.check_injective heq, List.getElem?_set_self hlt, Option.getD_some]
    · rw [if_neg hcheck, seenBy]
      by_cases hij : j = i
      · subst hij
        have hle : (w.seen s).length ≤ j := Nat.le_of_not_lt fun hlt => hcheck ⟨rfl, hlt⟩
        rw [List.set_eq_of_length_le hle]
      · rw [List.getElem?_set_ne hij]
  · have hother : ∀ j, op ≠ w.check j := fun j hj => hop ⟨j, hj⟩
    rw [if_neg fun hcheck => hother i hcheck.1, seenBy, seenBy]
    rcases w.seen_other s op hother with hseen | hseen
    · rw [hseen]
    · rw [hseen]
      by_cases hlt : i < (w.seen s).length
      · rw [List.getElem?_append_left hlt]
      · -- a new subscription has seen as much as one that is still to be made
        rw [List.getElem?_append_right (Nat.le_of_not_lt hlt),
          List.getElem?_eq_none (Nat.le_of_not_lt hlt), List.getElem?_singleton]
        split <;> rfl

/-- **What a subscription has seen and the news since make up the version on the board.** -/
theorem seenBy_add_news {i : Nat} {s : Stream} {past : List Action}
    (h : w.seenBy i s + past.countP w.isNew = w.version s.board) (ops : List Operation) :
    w.seenBy i (s.run ops).stream + (w.since i s past ops).countP w.isNew =
      w.version (s.run ops).stream.board := by
  induction ops generalizing s past with
  | nil => exact h
  | cons op ops ih =>
    refine ih ?_
    rw [(perform_goes s op).board, version_foldl, seenBy_perform, List.countP_append]
    split
    · rw [List.countP_nil, Nat.zero_add]
    · omega

/-- **A subscription reports a change when there was news**, and that the value is closed when there
is no stream any more. -/
theorem change_run {i : Nat} {s : Stream} (h : w.seenBy i s = w.version s.board)
    (ops : List Operation) (closed : Bool) :
    Change.since (w.seenBy i (s.run ops).stream) (w.version (s.run ops).stream.board) closed =
      if closed then .closed
      else if (w.since i s [] ops).any w.isNew then .changed else .unchanged := by
  have hseen : w.seenBy i s + [].countP w.isNew = w.version s.board := by rwa [List.countP_nil]
  have hnews := w.seenBy_add_news hseen ops
  have hany : (w.since i s [] ops).any w.isNew = true ↔
      w.seenBy i (s.run ops).stream ≠ w.version (s.run ops).stream.board := by
    rw [List.any_eq_true, ← List.countP_pos_iff]
    omega
  simp only [Change.since, hany, ne_eq, ite_not]

end Watched

/-! ### Whole runs -/

theorem latest?_eq_none_iff (config : Config) (script : List Attempt) (fallback : SourceError)
    (ops : List Operation) :
    let here := ((create config script fallback).run ops).stream
    here.board.latest? = none ↔ here.board.frames = 0 := by
  intro here
  rw [(published_run_create config script fallback ops).2, Board.latest?, List.head?_eq_none_iff,
    List.length_eq_zero_iff]

/-- **Observers agree, and the latest frame never goes back.** Whatever is asked of a stream, the
handles and the subscriptions to the frames show the frame published last, and there is none exactly
when none was counted; the subscriptions to the state show the state assigned last. A subscription
reports a change if something was published, or the state was assigned, since it was last checked,
and since the stream was made if it was not checked yet. Once there is no stream any more it reports
that it is closed. What was published stays published under what is published later, and once there
is no stream any more nothing changes. -/
theorem run_observers_agree (config : Config) (script : List Attempt) (fallback : SourceError)
    (ops : List Operation) :
    let s := create config script fallback
    let run := s.run ops
    let here := run.stream
    let latest := (publishedOf (run.actions.map (·.2))).getLast?
    let state := (statesOf (run.actions.map (·.2))).getLast?.getD .disconnected
    here.board.latest? = latest ∧ (latest = none ↔ here.board.frames = 0) ∧
    here.board.state = state ∧
    (∀ i < here.frameSeen.length, (here.perform (.checkFrame i)).reply =
      .frame (if here.isGone then .closed
        else if (Watched.frame.since i s [] ops).any (·.published?.isSome) then .changed
        else .unchanged) latest) ∧
    (∀ i < here.stateSeen.length, (here.perform (.checkState i)).reply =
      .state (if here.isGone then .closed
        else if (Watched.state.since i s [] ops).any (·.assigned?.isSome) then .changed
        else .unchanged) state) ∧
    (∀ later, let there := (here.run later).stream
      here.board.published <:+ there.board.published ∧
        (here.isGone = true → there.isGone = true ∧ there.board = here.board)) := by
  intro s run here latest state
  have hlatest : here.board.latest? = latest := by
    rw [Board.latest?, (published_run_create config script fallback ops).1, List.head?_reverse]
  have hstate : here.board.state = state := by
    have hboard : here.board = (run.actions.map (·.2)).foldl Board.record {} :=
      (run_goes _ ops).board
    rw [hboard]
    exact (foldl_record_counters {} _).1
  refine ⟨hlatest, ?_, hstate, fun i hi => ?_, fun i hi => ?_, fun later => ⟨?_, ?_⟩⟩
  · rw [← hlatest]
    exact latest?_eq_none_iff config script fallback ops
  · have hchange := Watched.frame.change_run (i := i) (s := s) rfl ops here.isGone
    rw [Watched.frame.seenBy_eq_getElem hi] at hchange
    simp only [Stream.perform, List.getElem?_eq_getElem hi, hlatest]
    exact congrArg (Reply.frame · latest) hchange
  · have hchange := Watched.state.change_run (i := i) (s := s) rfl ops here.isGone
    rw [Watched.state.seenBy_eq_getElem hi] at hchange
    simp only [Stream.perform, List.getElem?_eq_getElem hi, hstate]
    exact congrArg (Reply.state · state) hchange
  · rw [(run_goes here later).published]
    exact List.suffix_append _ _
  · intro hgone
    exact (run_goes here later).of_isGone hgone

/-- The state is assigned four times before a subscription is checked, and not once before it is
checked again. -/
theorem run_observers_agree_second_attempt :
    let script : List Attempt :=
      [⟨0, .failed refused⟩, ⟨1, .accepted (some "a;boundary=b") []⟩]
    let s := create ⟨⟨5⟩, ⟨3⟩, 100⟩ script refused
    let here := (s.run [.watchState, .start, .advance 6]).stream
    let checked := (s.run [.watchState, .start, .advance 6, .checkState 0]).stream
    here.stateSeen.length = 1 ∧ here.board.assignments = 4 ∧
      (here.perform (.checkState 0)).reply = .state .changed .streaming ∧
      checked.stateSeen.length = 1 ∧
      (checked.perform (.checkState 0)).reply = .state .unchanged .streaming := by
  intro script s here checked
  have hlength : here.stateSeen.length = 1 := by cbv
  have hassigned : here.board.assignments = 4 := by cbv
  have hlength' : checked.stateSeen.length = 1 := by cbv
  obtain ⟨-, -, -, -, hreply, -⟩ := run_observers_agree ⟨⟨5⟩, ⟨3⟩, 100⟩ script refused
    [.watchState, .start, .advance 6]
  obtain ⟨-, -, -, -, hreply', -⟩ := run_observers_agree ⟨⟨5⟩, ⟨3⟩, 100⟩ script refused
    [.watchState, .start, .advance 6, .checkState 0]
  refine ⟨hlength, hassigned, ?_, hlength', ?_⟩
  · refine (hreply 0 (hlength ▸ Nat.one_pos)).trans ?_
    cbv
  · refine (hreply' 0 (hlength' ▸ Nat.one_pos)).trans ?_
    cbv

end Mjpeg.Stream
