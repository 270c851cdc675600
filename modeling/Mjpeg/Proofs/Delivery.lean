import Mjpeg.Writer

/-!
# Handing a message to a sink

A sink answers writes and flushes as its lists say, one at a time (`Step`, `Steps`). `HandsOver`
is the protocol by which a message is handed over, without a sink: what is left of it is offered
until all is taken, what was interrupted is tried again, then the sink is flushed. It has one
constructor for each way in which a write or a flush may come out.

* Following the protocol offers each byte once and in order, and its outcome tells what happened
  last (`HandsOver.taken_isPrefix`, `HandsOver.orderly`, `HandsOver.outcome_cases`,
  `HandsOver.ok_iff`, `HandsOver.connectionClosed_iff`, `HandsOver.io_iff`).
* `Sink.deliver` follows it, whatever the lists of the sink are (`exists_follows`).
-/

namespace Mjpeg.Sink

/-! ### What happens between a writer and its sink -/

/-- Something that happens between a writer and its sink. -/
inductive Event where
  /-- A write: the bytes it was offered, and how many of them it took or why it failed. -/
  | write (offered : Bytes) (result : Except IoError Nat)
  /-- A flush, and why it failed if it did. -/
  | flush (failure? : Option IoError)

/-- The bytes that an event hands over. -/
def Event.taken : Event → Bytes
  | .write offered (.ok n) => offered.take n
  | .write _ (.error _) | .flush _ => []

/-- The bytes that the sink has taken, in order. -/
def taken (events : List Event) : Bytes := events.flatMap Event.taken

/-- What the next write comes to when it is offered these bytes. -/
def nextWrite (s : Sink) (offered : Bytes) : Except IoError Nat :=
  match s.writes with
  | [] => .ok offered.length
  | .accept limit :: _ => .ok (min limit offered.length)
  | .failed e :: _ => .error e

/-- The sink behind its next write. -/
def afterWrite (s : Sink) : Sink :=
  { s with writes := s.writes.tail, writeCalls := s.writeCalls + 1 }

/-- Why the next flush fails, if it does. -/
def nextFlush (s : Sink) : Option IoError := s.flushes.head?.join

/-- The sink behind its next flush. -/
def afterFlush (s : Sink) : Sink :=
  { s with flushes := s.flushes.tail, flushCalls := s.flushCalls + 1 }

/-- One event, as the lists of the sink have it. -/
inductive Step : Sink → Event → Sink → Prop
  | write (s : Sink) (offered : Bytes) : Step s (.write offered (s.nextWrite offered)) s.afterWrite
  | flush (s : Sink) : Step s (.flush s.nextFlush) s.afterFlush

/-- Events one after the other. -/
inductive Steps : Sink → List Event → Sink → Prop
  | nil (s : Sink) : Steps s [] s
  | cons {s s' s'' : Sink} {event : Event} {events : List Event} :
      Step s event s' → Steps s' events s'' → Steps s (event :: events) s''

theorem Step.of_nextWrite {s : Sink} {offered : Bytes} {result : Except IoError Nat}
    (h : s.nextWrite offered = result) : Step s (.write offered result) s.afterWrite :=
  h ▸ .write s offered

theorem Step.steps {s s' : Sink} {event : Event} (h : Step s event s') : Steps s [event] s' :=
  .cons h (.nil s')

/-! ### The protocol -/

/-- With so much of a message left, the rest of the events and the outcome. -/
inductive HandsOver : Bytes → List Event → Except FrameError Unit → Prop
  | took {left : Bytes} {n : Nat} {events : List Event} {outcome : Except FrameError Unit} :
      0 < n → n ≤ left.length → HandsOver (left.drop n) events outcome →
      HandsOver left (.write left (.ok n) :: events) outcome
  | interrupted {left : Bytes} {e : IoError} {events : List Event}
      {outcome : Except FrameError Unit} :
      left ≠ [] → e.kind = .interrupted → HandsOver left events outcome →
      HandsOver left (.write left (.error e) :: events) outcome
  | closed {left : Bytes} :
      left ≠ [] → HandsOver left [.write left (.ok 0)] (.error .connectionClosed)
  | failed {left : Bytes} {e : IoError} :
      left ≠ [] → e.kind ≠ .interrupted →
      HandsOver left [.write left (.error e)] (.error (.io e))
  | flushed : HandsOver [] [.flush none] (.ok ())
  | flushInterrupted {e : IoError} {events : List Event} {outcome : Except FrameError Unit} :
      e.kind = .interrupted → HandsOver [] events outcome →
      HandsOver [] (.flush (some e) :: events) outcome
  | flushFailed {e : IoError} :
      e.kind ≠ .interrupted → HandsOver [] [.flush (some e)] (.error (.io e))

variable {message : Bytes} {events before after : List Event} {outcome : Except FrameError Unit}

@[simp] theorem taken_nil : taken [] = [] := rfl

@[simp] theorem taken_cons (event : Event) (events : List Event) :
    taken (event :: events) = event.taken ++ taken events := rfl

/-- The bytes taken are the first of the message. -/
theorem HandsOver.taken_isPrefix (h : HandsOver message events outcome) :
    taken events <+: message := by
  induction h with
  | @took left n events outcome hpos hle hrest ih =>
    obtain ⟨behind, hbehind⟩ := ih
    refine ⟨behind, ?_⟩
    rw [taken_cons, List.append_assoc, hbehind]
    exact List.take_append_drop n left
  | interrupted hne hkind hrest ih => exact ih
  | closed | failed | flushed => exact List.nil_prefix
  | flushInterrupted hkind hrest ih => exact ih
  | flushFailed => exact List.nil_prefix

/-- With these bytes taken it is the turn of the event: a write is offered what is left of the
message, and a flush comes when nothing is left. -/
def Event.IsDue (message soFar : Bytes) : Event → Prop
  | .write offered _ => offered ≠ [] ∧ soFar ++ offered = message
  | .flush _ => soFar = message

/-- Each event is due where it stands. -/
def Orderly (message : Bytes) (events : List Event) : Prop :=
  ∀ before event after, events = before ++ event :: after → event.IsDue message (taken before)

theorem Event.IsDue.prepend {event : Event} {soFar : Bytes} (h : event.IsDue message soFar)
    (front : Bytes) : event.IsDue (front ++ message) (front ++ soFar) := by
  cases event with
  | write offered result =>
    obtain ⟨hne, rfl⟩ := h
    exact ⟨hne, List.append_assoc ..⟩
  | flush failure? => exact congrArg (front ++ ·) h

theorem orderly_nil (message : Bytes) : Orderly message [] := by
  intro before event after heq
  exact absurd heq.symm (by simp)

theorem Orderly.cons {event : Event} {left : Bytes} (h : Orderly left events)
    (hleft : event.taken ++ left = message) (hdue : event.IsDue message []) :
    Orderly message (event :: events) := by
  subst hleft
  intro before next after heq
  cases before with
  | nil =>
    obtain ⟨rfl, -⟩ := List.cons_eq_cons.mp heq
    exact hdue
  | cons first before =>
    obtain ⟨rfl, htail⟩ := List.cons_eq_cons.mp heq
    exact (h before next after htail).prepend event.taken

/-- **Nothing is offered twice or left out.** -/
theorem HandsOver.orderly (h : HandsOver message events outcome) : Orderly message events := by
  induction h with
  | @took left n events outcome hpos hle hrest ih =>
    have hne : left ≠ [] := List.length_pos_iff.mp (Nat.lt_of_lt_of_le hpos hle)
    exact ih.cons (List.take_append_drop n left) ⟨hne, rfl⟩
  | interrupted hne hkind hrest ih => exact ih.cons rfl ⟨hne, rfl⟩
  | closed hne => exact (orderly_nil _).cons rfl ⟨hne, rfl⟩
  | failed hne hkind => exact (orderly_nil _).cons rfl ⟨hne, rfl⟩
  | flushed => exact (orderly_nil _).cons rfl rfl
  | flushInterrupted hkind hrest ih => exact ih.cons rfl rfl
  | flushFailed hkind => exact (orderly_nil _).cons rfl rfl

/-- A message is handed over when a flush succeeds. -/
theorem HandsOver.ok_iff_mem (h : HandsOver message events outcome) :
    outcome = .ok () ↔ .flush none ∈ events := by
  induction h with
  | took hpos hle hrest ih | interrupted hne hkind hrest ih => simp [ih]
  | closed | failed | flushed | flushFailed => simp
  | flushInterrupted hkind hrest ih => simp [ih]

/-- **A message is handed over exactly when all of it was taken and then a flush succeeded.** -/
theorem HandsOver.ok_iff (h : HandsOver message events outcome) :
    outcome = .ok () ↔
      ∃ before after, events = before ++ .flush none :: after ∧ taken before = message := by
  rw [h.ok_iff_mem]
  constructor
  · intro hmem
    obtain ⟨before, after, rfl⟩ := List.append_of_mem hmem
    exact ⟨before, after, rfl, h.orderly before _ after rfl⟩
  · rintro ⟨before, after, rfl, -⟩
    simp

/-- All bytes of a message that was handed over were taken. -/
theorem HandsOver.taken_eq (h : HandsOver message events (.ok ())) : taken events = message := by
  obtain ⟨before, after, rfl, hall⟩ := h.ok_iff.mp rfl
  refine h.taken_isPrefix.eq_of_length_le ?_
  rw [taken, List.flatMap_append, List.length_append]
  exact Nat.le_add_right_of_le (hall ▸ Nat.le_refl _)

/-- The sink counts as closed exactly when a write took nothing. -/
theorem HandsOver.connectionClosed_iff (h : HandsOver message events outcome) :
    outcome = .error .connectionClosed ↔ ∃ offered, .write offered (.ok 0) ∈ events := by
  induction h with
  | took hpos hle hrest ih => simp [ih, Nat.ne_of_lt hpos]
  | interrupted hne hkind hrest ih => simp [ih]
  | closed | failed | flushed | flushFailed => simp
  | flushInterrupted hkind hrest ih => simp [ih]

/-- A failure is answered exactly when a write or a flush failed with it and was not merely
interrupted. -/
theorem HandsOver.io_iff (h : HandsOver message events outcome) (e : IoError) :
    outcome = .error (.io e) ↔ e.kind ≠ .interrupted ∧
      ((∃ offered, .write offered (.error e) ∈ events) ∨ .flush (some e) ∈ events) := by
  induction h with
  | took hpos hle hrest ih => simp [ih]
  | interrupted hne hkind hrest ih => grind
  | closed | flushed => simp
  | failed hne hkind => grind
  | flushInterrupted hkind hrest ih => grind
  | flushFailed hkind => grind

/-- A message is handed over, or the sink counts as closed, or it failed. -/
theorem HandsOver.outcome_cases (h : HandsOver message events outcome) :
    outcome = .ok () ∨ outcome = .error .connectionClosed ∨ ∃ e, outcome = .error (.io e) := by
  induction h with
  | took hpos hle hrest ih | interrupted hne hkind hrest ih | flushInterrupted hkind hrest ih =>
    exact ih
  | flushed => exact .inl rfl
  | closed => exact .inr (.inl rfl)
  | @failed left e | @flushFailed e => exact .inr (.inr ⟨e, rfl⟩)

/-! ### The sink -/

/-- With these events a message was handed over to the sink. -/
structure Delivery.Follows (s : Sink) (message : Bytes) (events : List Event) (d : Delivery) :
    Prop where
  steps : Steps s events d.sink
  protocol : HandsOver message events d.outcome
  written : d.written = taken events

variable {writes : List WriteAnswer} {flushes : List (Option IoError)} {writeCalls flushCalls : Nat}

theorem deliver_nil : deliver ⟨writes, flushes, writeCalls, flushCalls⟩ [] =
    ⟨(flush writes writeCalls flushCalls flushes).1, [],
      (flush writes writeCalls flushCalls flushes).2⟩ := by
  rw [deliver, writeAll]

theorem deliver_unlimited (hne : message ≠ []) :
    deliver ⟨[], flushes, writeCalls, flushCalls⟩ message =
      let later := deliver ⟨[], flushes, writeCalls + 1, flushCalls⟩ (message.drop message.length)
      { later with written := message.take message.length ++ later.written } := by
  obtain ⟨byte, rest, rfl⟩ := List.exists_cons_of_ne_nil hne
  rw [List.drop_length, List.take_length, deliver_nil]
  dsimp only
  rw [List.append_nil, deliver, writeAll]
  exact fun h => absurd h (by simp)

theorem deliver_accept_zero (hne : message ≠ []) :
    deliver ⟨.accept 0 :: writes, flushes, writeCalls, flushCalls⟩ message =
      ⟨⟨writes, flushes, writeCalls + 1, flushCalls⟩, [], .error .connectionClosed⟩ := by
  obtain ⟨byte, rest, rfl⟩ := List.exists_cons_of_ne_nil hne
  simp [deliver, writeAll]

theorem deliver_accept (hne : message ≠ []) (n : Nat) :
    deliver ⟨.accept (n + 1) :: writes, flushes, writeCalls, flushCalls⟩ message =
      let later := deliver ⟨writes, flushes, writeCalls + 1, flushCalls⟩ (message.drop (n + 1))
      { later with written := message.take (n + 1) ++ later.written } := by
  obtain ⟨byte, rest, rfl⟩ := List.exists_cons_of_ne_nil hne
  simp only [deliver, writeAll]
  split <;> rfl

theorem deliver_failed (hne : message ≠ []) (e : IoError) :
    deliver ⟨.failed e :: writes, flushes, writeCalls, flushCalls⟩ message =
      if e.kind = .interrupted then deliver ⟨writes, flushes, writeCalls + 1, flushCalls⟩ message
      else ⟨⟨writes, flushes, writeCalls + 1, flushCalls⟩, [], .error (.io e)⟩ := by
  obtain ⟨byte, rest, rfl⟩ := List.exists_cons_of_ne_nil hne
  by_cases hkind : e.kind = .interrupted
  · rw [if_pos hkind, deliver, deliver, writeAll, if_pos hkind]
    exact fun h => absurd h (by simp)
  · rw [if_neg hkind, deliver, writeAll, if_neg hkind]
    exact fun h => absurd h (by simp)

/-- When nothing is left, the sink is flushed until it is not interrupted. -/
theorem exists_follows_nil (s : Sink) : ∃ events, Delivery.Follows s [] events (s.deliver []) := by
  obtain ⟨writes, flushes, writeCalls, flushCalls⟩ := s
  rw [deliver_nil]
  induction flushes generalizing flushCalls with
  | nil => exact ⟨[.flush none], (Step.flush _).steps, .flushed, rfl⟩
  | cons failure? flushes ih =>
    cases failure? with
    | none => exact ⟨[.flush none], (Step.flush _).steps, .flushed, rfl⟩
    | some e =>
      rw [flush]
      split
      · rename_i hkind
        obtain ⟨events, hsteps, hprotocol, hwritten⟩ := ih (flushCalls + 1)
        exact ⟨.flush (some e) :: events, .cons (.flush _) hsteps,
          .flushInterrupted hkind hprotocol, hwritten⟩
      · rename_i hkind
        exact ⟨[.flush (some e)], (Step.flush _).steps, .flushFailed hkind, rfl⟩

/-- What a write takes goes before what the rest of the message comes to. -/
theorem Delivery.Follows.took {s : Sink} {d : Delivery} {n : Nat} (hne : message ≠ [])
    (hnext : s.nextWrite message = .ok (min n message.length)) (hpos : 0 < n)
    (h : Follows s.afterWrite (message.drop n) events d) :
    Follows s message (.write message (.ok (min n message.length)) :: events)
      { d with written := message.take n ++ d.written } where
  steps := .cons (.of_nextWrite hnext) h.steps
  protocol := by
    have hlength := List.length_pos_iff.mpr hne
    refine .took (Nat.lt_min.mpr ⟨hpos, hlength⟩) (Nat.min_le_right _ _) ?_
    rw [← List.drop_eq_drop_min]
    exact h.protocol
  written := by
    rw [taken_cons, Event.taken, ← List.take_eq_take_min, ← h.written]

/-- **The protocol is followed**, whatever the sink answers. -/
theorem exists_follows (s : Sink) (message : Bytes) :
    ∃ events, Delivery.Follows s message events (s.deliver message) := by
  obtain ⟨writes, flushes, writeCalls, flushCalls⟩ := s
  induction writes generalizing message writeCalls with
  | nil =>
    by_cases hne : message = []
    · rw [hne]
      exact exists_follows_nil _
    · -- past its list the sink takes all that it is offered
      obtain ⟨events, hrest⟩ : ∃ events, Delivery.Follows ⟨[], flushes, writeCalls + 1, flushCalls⟩
          (message.drop message.length) events (deliver _ (message.drop message.length)) := by
        rw [List.drop_length]
        exact exists_follows_nil _
      rw [deliver_unlimited hne]
      refine ⟨_, Delivery.Follows.took hne ?_ (List.length_pos_iff.mpr hne) hrest⟩
      rw [Nat.min_self]
      rfl
  | cons answer writes ih =>
    by_cases hne : message = []
    · rw [hne]
      exact exists_follows_nil _
    · match answer with
      | .accept 0 =>
        rw [deliver_accept_zero hne]
        have hnext : nextWrite ⟨.accept 0 :: writes, flushes, writeCalls, flushCalls⟩ message =
            .ok 0 := congrArg Except.ok (Nat.zero_min _)
        exact ⟨[.write message (.ok 0)], (Step.of_nextWrite hnext).steps, .closed hne, rfl⟩
      | .accept (n + 1) =>
        obtain ⟨events, hrest⟩ := ih (message.drop (n + 1)) (writeCalls + 1)
        rw [deliver_accept hne]
        exact ⟨_, Delivery.Follows.took hne rfl n.succ_pos hrest⟩
      | .failed e =>
        rw [deliver_failed hne]
        split
        · rename_i hkind
          obtain ⟨events, hrest⟩ := ih message (writeCalls + 1)
          exact ⟨.write message (.error e) :: events, .cons (.write _ _) hrest.steps,
            .interrupted hne hkind hrest.protocol, hrest.written⟩
        · rename_i hkind
          exact ⟨[.write message (.error e)], (Step.write _ _).steps, .failed hne hkind, rfl⟩

end Mjpeg.Sink
