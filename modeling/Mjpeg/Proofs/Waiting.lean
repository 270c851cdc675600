import Mjpeg.Proofs.Shutdown

/-!
# What one who waits gets

Those who wait see the frames through a queue. A waiter gets the frame that follows those published
before it was made, or the oldest one kept if it comes too late (`Waiter.poll_of_lt`).

What a waiter has to go by is how many frames had been published when it was made. Nothing that is
asked later changes that number (`waiterSeen_perform`), and nothing but its own answer makes a
waiter finished (`waiter_run`). Hence the answer depends on two numbers only, of the frames
published before the waiter was made and of those published when it is asked (`run_waiter`).
-/

namespace Mjpeg.Stream

/-! ### Letting time pass until something is published -/

variable {s s' : Stream} {op : Operation} {i : Nat} {w : Waiter}

theorem isGone_eq_false_of_isRunning (h : s.task.phase.isRunning = true) : s.isGone = false := by
  obtain ⟨⟨config, script, fallback, phase⟩, _⟩ := s
  cases phase with
  | unstarted | dropped | stopped => exact absurd h Bool.false_ne_true
  | pausing | connecting | streaming => rfl

/-- When there is no stream any more, there is none and nothing changes, whatever is asked. -/
theorem Goes.of_isGone {actions : List (Nat × Action)} (h : Goes s actions s')
    (hgone : s.isGone = true) : s'.isGone = true ∧ s'.board = s.board := by
  have hphase : s.task.phase = .dropped ∨ s.task.phase = .stopped := by
    obtain ⟨⟨config, script, fallback, phase⟩, _⟩ := s
    cases phase with
    | dropped => exact Or.inl rfl
    | stopped => exact Or.inr rfl
    | _ => exact absurd hgone Bool.false_ne_true
  obtain ⟨rfl, htask⟩ := h.moves.eq_of_gone hphase
  refine ⟨?_, h.board⟩
  rw [isGone, htask]
  exact hgone

/-- No time that passes ends a stream. -/
@[simp] theorem isOver_runTo (s : Stream) (time : Nat) : (s.runTo time).2.isOver = s.isOver := by
  have hgone : (s.runTo time).2.isGone = s.isGone := by
    cases hrunning : s.task.phase.isRunning with
    | true =>
      rw [isGone_eq_false_of_isRunning hrunning]
      refine isGone_eq_false_of_isRunning ?_
      rw [runTo_task, Task.isRunning_runUntil, hrunning]
    | false =>
      rw [isGone, isGone, runTo_task, Task.runUntil_of_not_isRunning hrunning]
  rw [isOver, isOver, hgone, runTo_cancelled]

/-- What was published is published on top of what was published before. -/
theorem Goes.published {actions : List (Nat × Action)} (h : Goes s actions s') :
    s'.board.published = (publishedOf (actions.map (·.2))).reverse ++ s.board.published := by
  rw [h.board]
  exact (foldl_record s.board _).1

theorem firstPublication?_eq_none_iff {actions : List (Nat × Action)} :
    firstPublication? actions = none ↔ publishedOf (actions.map (·.2)) = [] := by
  simp only [firstPublication?, publishedOf, List.findSome?_eq_none_iff, List.filterMap_eq_nil_iff,
    List.forall_mem_map, Prod.forall]
  refine forall_congr' fun time => forall_congr' fun a => imp_congr_right fun _ => ?_
  cases a <;> simp [Action.published?]

/-- Something is published when time passes until the first publication. -/
theorem publishedOf_runTo_ne_nil {deadline time : Nat}
    (h : firstPublication? (s.task.runUntil deadline).1 = some time) :
    publishedOf ((s.runTo time).1.map (·.2)) ≠ [] := by
  intro hnil
  obtain ⟨f, hmem⟩ := exists_mem_of_firstPublication? h
  have hle : time ≤ deadline := (Task.time_of_mem_runUntil _ _ _ hmem).1
  rw [← firstPublication?_eq_none_iff, runTo_fst] at hnil
  rw [Task.runUntil_runUntil hle, firstPublication?, List.findSome?_append, ← firstPublication?,
    hnil, Option.none_or] at h
  -- then the first publication would come later than it does
  obtain ⟨f', hmem'⟩ := exists_mem_of_firstPublication? h
  exact (Task.lt_of_mem_runUntil (Task.due?_runUntil time s.task) hmem').false

/-! ### What has been seen -/

/-- For each waiter, how many frames it had seen. -/
def waiterSeen (s : Stream) : List Nat := s.waiters.map Waiter.seen

theorem waiterSeen_getElem? (s : Stream) (i : Nat) :
    s.waiterSeen[i]? = s.waiters[i]?.map Waiter.seen := List.getElem?_map

/-- Asking a waiter does not change what it had seen. -/
theorem waiterSeen_ask (hw : s.waiters[i]? = some w) (actions : List (Nat × Action)) :
    (s.ask i w actions).stream.waiterSeen = s.waiterSeen := by
  have hset : (s.ask i w actions).stream.waiterSeen = s.waiterSeen.set i w.seen := by
    change (s.waiters.set i (w.poll s.board.published s.isOver).2.2).map Waiter.seen = _
    rw [List.map_set, Waiter.poll_seen]
    rfl
  have hget : s.waiterSeen[i]? = some w.seen := by rw [waiterSeen_getElem?, hw]; rfl
  obtain ⟨hlt, hseen⟩ := List.getElem?_eq_some_iff.mp hget
  rw [hset, ← hseen, List.set_getElem_self]

/-- What each operation does to what the waiters and the subscriptions have seen. -/
theorem seen_perform (s : Stream) (op : Operation) :
    let s' := (s.perform op).stream
    (s'.waiterSeen, s'.frameSeen, s'.stateSeen) =
      match op with
      | .nextFrame => (s.waiterSeen ++ [s.board.frames], s.frameSeen, s.stateSeen)
      | .subscribe => (s.waiterSeen, s.frameSeen ++ [0], s.stateSeen)
      | .checkFrame i => (s.waiterSeen, s.frameSeen.set i s.board.frames, s.stateSeen)
      | .watchState => (s.waiterSeen, s.frameSeen, s.stateSeen ++ [0])
      | .checkState i => (s.waiterSeen, s.frameSeen, s.stateSeen.set i s.board.assignments)
      | _ => (s.waiterSeen, s.frameSeen, s.stateSeen) := by
  cases op with
  | start =>
    simp only [Stream.perform, Stream.start]
    split <;> rfl
  | nextFrame => exact Prod.ext List.map_append rfl
  | checkFrame i | checkState i =>
    dsimp only [Stream.perform]
    split
    · rename_i hnone
      rw [List.set_eq_of_length_le (List.getElem?_eq_none_iff.mp hnone)]
    · rfl
  | poll i =>
    dsimp only [Stream.perform]
    split
    · rfl
    · exact Prod.ext (waiterSeen_ask ‹_› []) rfl
  | wait i millis =>
    dsimp only [Stream.perform]
    split
    · rfl
    · rename_i w hw
      unfold Stream.wait
      dsimp only
      split
      · split
        · exact Prod.ext (waiterSeen_ask (s := (s.runTo _).2) hw _) rfl
        · rfl
      · exact Prod.ext (waiterSeen_ask hw []) rfl
  | config | drop | advance | shutdown | clone | subscribe | watchState | isFinished => rfl

/-- Nothing that is asked changes what the waiters had seen. One may be made. -/
theorem waiterSeen_perform (s : Stream) (op : Operation) :
    (s.perform op).stream.waiterSeen =
      s.waiterSeen ++ if op = .nextFrame then [s.board.frames] else [] := by
  have hseen := congrArg (·.1) (seen_perform s op)
  cases op with
  | nextFrame => exact hseen
  | _ => exact hseen.trans (by simp)

/-! ### Asking a waiter -/

/-- What one is told who asks a waiter for which there is nothing yet. -/
def Operation.unanswered : Operation → Reply
  | .wait _ _ => .timeout
  | _ => .waiter .pending

/-- One who waits for an answer is told what the waiter says in the end, or that time is up. -/
theorem wait_says (hw : s.waiters[i]? = some w) (hseen : w.seen ≤ s.board.published.length)
    (millis : Nat) :
    let step := s.wait i w millis
    let said := w.poll step.stream.board.published step.stream.isOver
    step.stream.waiters = s.waiters.set i said.2.2 ∧
      step.reply = if said.1 = .pending then .timeout else .waiter said.1 := by
  unfold Stream.wait
  dsimp only
  split
  · rename_i hpending
    obtain ⟨hfinished, -, hover⟩ := Waiter.poll_eq_pending_iff.mp hpending
    split
    · rename_i time hfirst
      have hpublished : s.board.published.length < (s.runTo time).2.board.published.length := by
        rw [(runTo_goes s time).published, List.length_append, List.length_reverse]
        have := List.length_pos_iff.mpr (publishedOf_runTo_ne_nil hfirst)
        omega
      obtain ⟨f, -, hpoll⟩ := Waiter.poll_of_lt hfinished (hseen.trans_lt hpublished)
        (s.runTo time).2.isOver
      refine ⟨rfl, ?_⟩
      rw [if_neg]
      · rfl
      · change ¬(w.poll (s.runTo time).2.board.published (s.runTo time).2.isOver).1 = .pending
        rw [hpoll]
        simp
    · rename_i hnone
      -- no frame came while time passed
      have hsame : (s.runTo (s.now + millis)).2.board.published = s.board.published := by
        rw [(runTo_goes s _).published, runTo_fst, firstPublication?_eq_none_iff.mp hnone]
        rfl
      rw [hsame, isOver_runTo, if_pos hpending, Waiter.poll_of_pending hpending]
      obtain ⟨hlt, rfl⟩ := List.getElem?_eq_some_iff.mp hw
      exact ⟨(List.set_getElem_self hlt).symm, rfl⟩
  · rename_i hpending
    exact ⟨rfl, (if_neg hpending).symm⟩

/-- **One who asks a waiter is told what it says in the end**, when time may have passed. -/
theorem perform_of_asks (hop : op.asks i = true) (hw : s.waiters[i]? = some w)
    (hseen : w.seen ≤ s.board.published.length) :
    let step := s.perform op
    let said := w.poll step.stream.board.published step.stream.isOver
    step.stream.waiters = s.waiters.set i said.2.2 ∧
      step.reply = if said.1 = .pending then op.unanswered else .waiter said.1 := by
  cases op with
  | poll j =>
    obtain rfl : i = j := by simpa [Operation.asks] using hop
    simp only [Stream.perform, hw]
    refine ⟨rfl, ?_⟩
    split
    · exact congrArg Reply.waiter ‹_›
    · rfl
  | wait j millis =>
    obtain rfl : i = j := by simpa [Operation.asks] using hop
    simp only [Stream.perform, hw]
    exact wait_says hw hseen millis
  | _ => exact absurd hop Bool.noConfusion

/-- A waiter is there and remembers what it had seen, whatever is asked. It is finished when it has
answered, and not before. -/
theorem waiter_perform (hw : s.waiters[i]? = some w) (hseen : w.seen ≤ s.board.published.length)
    (op : Operation) :
    ∃ w', (s.perform op).stream.waiters[i]? = some w' ∧ w'.seen = w.seen ∧
      (w'.finished = true ↔ w.finished = true ∨
        op.asks i = true ∧ ∃ frame, (s.perform op).reply = .waiter (.frame frame)) := by
  obtain ⟨hlt, -⟩ := List.getElem?_eq_some_iff.mp hw
  cases hop : op.asks i with
  | false =>
    rcases waiters_perform hop with hsame | ⟨hnew, -⟩
    · exact ⟨w, hsame.trans hw, rfl, by simp⟩
    · exact absurd hlt (by omega)
  | true =>
    obtain ⟨hwaiters, hreply⟩ := perform_of_asks hop hw hseen
    refine ⟨_, by rw [hwaiters, List.getElem?_set_self hlt], Waiter.poll_seen .., ?_⟩
    rw [Waiter.poll_finished_iff, hreply]
    refine or_congr_right ?_
    split
    · rename_i hpending
      rw [hpending]
      cases op <;> simp [Operation.unanswered]
    · simp

/-! ### Whole runs -/

/-- A waiter answers while some operations are carried out. -/
def Answers (s : Stream) (i : Nat) (ops : List Operation) : Prop :=
  ∃ before op after, ops = before ++ op :: after ∧ op.asks i = true ∧
    ∃ frame, ((s.run before).stream.perform op).reply = .waiter (.frame frame)

theorem not_answers_nil (s : Stream) (i : Nat) : ¬s.Answers i [] := by
  rintro ⟨before, op, after, heq, -⟩
  exact absurd heq (by simp)

theorem answers_cons_iff {ops : List Operation} : s.Answers i (op :: ops) ↔
    (op.asks i = true ∧ ∃ frame, (s.perform op).reply = .waiter (.frame frame)) ∨
      (s.perform op).stream.Answers i ops := by
  constructor
  · rintro ⟨before, op', after, heq, hasks, hframe⟩
    cases before with
    | nil =>
      obtain ⟨rfl, -⟩ := List.cons_eq_cons.mp heq
      exact Or.inl ⟨hasks, hframe⟩
    | cons first before =>
      obtain ⟨rfl, htail⟩ := List.cons_eq_cons.mp heq
      exact Or.inr ⟨before, op', after, htail, hasks, hframe⟩
  · rintro (⟨hasks, hframe⟩ | ⟨before, op', after, rfl, hasks, hframe⟩)
    · exact ⟨[], op, ops, rfl, hasks, hframe⟩
    · exact ⟨op :: before, op', after, rfl, hasks, hframe⟩

/-- What was published stays published. -/
theorem length_published_perform (s : Stream) (op : Operation) :
    s.board.published.length ≤ (s.perform op).stream.board.published.length := by
  rw [(perform_goes s op).published, List.length_append]
  exact Nat.le_add_left _ _

/-- **A waiter remembers what it had seen**, and is finished when it has answered. -/
theorem waiter_run (hw : s.waiters[i]? = some w) (hseen : w.seen ≤ s.board.published.length)
    (ops : List Operation) :
    ∃ w', (s.run ops).stream.waiters[i]? = some w' ∧ w'.seen = w.seen ∧
      (w'.finished = true ↔ w.finished = true ∨ s.Answers i ops) := by
  induction ops generalizing s w with
  | nil => exact ⟨w, hw, rfl, by simp [not_answers_nil]⟩
  | cons op ops ih =>
    obtain ⟨w₁, hw₁, hseen₁, hfinished₁⟩ := waiter_perform hw hseen op
    obtain ⟨w₂, hw₂, hseen₂, hfinished₂⟩ := ih hw₁
      ((hseen₁ ▸ hseen).trans (length_published_perform s op))
    refine ⟨w₂, hw₂, hseen₂.trans hseen₁, ?_⟩
    rw [hfinished₂, hfinished₁, answers_cons_iff, or_assoc]

/-- The frames that the board shows are those that were published. -/
theorem published_run_create (config : Config) (script : List Attempt) (fallback : SourceError)
    (ops : List Operation) :
    let run := (create config script fallback).run ops
    run.stream.board.published = (publishedOf (run.actions.map (·.2))).reverse ∧
      run.stream.board.frames = run.stream.board.published.length := by
  intro run
  have hboard : run.stream.board = (run.actions.map (·.2)).foldl Board.record {} :=
    (run_goes _ ops).board
  obtain ⟨hpublished, hframes, -⟩ := foldl_record {} (run.actions.map (·.2))
  rw [hboard, hpublished, hframes]
  simp

/-- A run in which a waiter is made and asked in the end. -/
theorem run_asked (s : Stream) (ops later : List Operation) (op : Operation) :
    let made := (s.run ops).stream.perform .nextFrame
    let step := (made.stream.run later).stream.perform op
    s.run (ops ++ .nextFrame :: later ++ [op]) =
      ⟨step.stream, (s.run ops).actions ++ (made.stream.run later).actions ++ step.actions⟩ := by
  simp only [run_append, run, List.append_nil]
  rfl

/-- **What a waiter gets.** A waiter that was made when `k` frames had been published, and is asked
when `n` have been published, has nothing to say if these are the same, and otherwise gives frame
number `max (k + 1) (n - 15)`, which is the first one published after it was made if there are no
more than 16 of these. It answers once. So it holds in a stream that was neither shut down nor
dropped, whatever else is asked before and in between: nothing else has a part in the answer. -/
theorem run_waiter (config : Config) (script : List Attempt) (fallback : SourceError)
    (ops later : List Operation) (op : Operation) :
    let s := create config script fallback
    let here := (s.run ops).stream
    let made := here.perform .nextFrame
    let i := here.waiters.length
    let step := (made.stream.run later).stream.perform op
    let k := (publishedOf ((s.run ops).actions.map (·.2))).length
    let frames := publishedOf ((s.run (ops ++ .nextFrame :: later ++ [op])).actions.map (·.2))
    let n := frames.length
    made.reply = .number i ∧
    (op.asks i = true → step.stream.isOver = false →
      k ≤ n ∧
      (made.stream.Answers i later → step.reply = .waiter .finished) ∧
      (¬made.stream.Answers i later →
        (n = k → step.reply = op.unanswered) ∧
        (k < n → ∃ f, frames[max (k + 1) (n - 15) - 1]? = some f ∧
          step.reply = .waiter (.frame (some f)) ∧
          (n ≤ k + 16 → frames[k]? = some f)))) := by
  intro s here made i step k frames n
  refine ⟨rfl, fun hop hover => ?_⟩
  have hlast : (s.run (ops ++ .nextFrame :: later ++ [op])).stream = step.stream :=
    congrArg Run.stream (run_asked s ops later op)
  obtain ⟨hpublished, hcount⟩ := published_run_create config script fallback ops
  obtain ⟨hpublished', -⟩ :=
    published_run_create config script fallback (ops ++ .nextFrame :: later ++ [op])
  rw [hlast] at hpublished'
  have hk : here.board.frames = k := by rw [hcount, hpublished, List.length_reverse]
  have hmade : made.stream.waiters[i]? = some ⟨k, false⟩ := by
    rw [← hk]
    exact List.getElem?_concat_length
  have hseen : k ≤ made.stream.board.published.length := by
    rw [← hk, hcount]
    exact Nat.le_refl _
  obtain ⟨w, hw, hwseen, hfinished⟩ := waiter_run hmade hseen later
  have hwk : w.seen = k := hwseen
  have hnow : w.seen ≤ (made.stream.run later).stream.board.published.length := by
    rw [hwk, (run_goes made.stream later).published, List.length_append]
    exact Nat.le_add_left_of_le hseen
  obtain ⟨-, hreply⟩ := perform_of_asks hop hw hnow
  have hn : step.stream.board.published.length = n := by rw [hpublished', List.length_reverse]
  refine ⟨?_, fun hanswers => ?_, fun hnot => ?_⟩
  · rw [← hwk, ← hn]
    exact hnow.trans (length_published_perform _ op)
  · rw [hreply, Waiter.poll_of_finished (hfinished.mpr (Or.inr hanswers))]
    rfl
  · have hopen : w.finished = false := by
      rw [← Bool.not_eq_true, hfinished]
      exact not_or.mpr ⟨Bool.false_ne_true, hnot⟩
    refine ⟨fun heq => ?_, fun hlt => ?_⟩
    · have hnone : step.stream.board.published.length ≤ w.seen := by rw [hn, heq, hwk]
      rw [hreply, if_pos (Waiter.poll_eq_pending_iff.mpr ⟨hopen, hnone, hover⟩)]
    · have hsome : w.seen < step.stream.board.published.length := by rwa [hn, hwk]
      obtain ⟨f, hf, hpoll⟩ := Waiter.poll_of_lt hopen hsome step.stream.isOver
      have hnumber : max (w.seen + 1) (n + 1 - queueSize) = max (k + 1) (n - 15) := by
        simp only [queueSize, hwk]
        omega
      rw [hn, hnumber, hpublished', List.reverse_reverse] at hf
      refine ⟨f, hf, ?_, fun hnear => ?_⟩
      · rw [hreply, hpoll]
        rfl
      · have hfirst : max (k + 1) (n - 15) - 1 = k := by omega
        exact hfirst ▸ hf

/-! ### A waiter that lags -/

/-- Asking a waiter does nothing to the stream. -/
theorem perform_poll (s : Stream) (i : Nat) :
    (s.perform (.poll i)).actions = [] ∧ (s.perform (.poll i)).stream.isOver = s.isOver := by
  dsimp only [Stream.perform]
  split <;> exact ⟨rfl, rfl⟩

/-- A decoder that holds nothing reads a chunk that ends with a delimiter, and holds nothing. -/
theorem drain_of_closed {d : Decoder} {bytes : Bytes} (h : d.Marked) (hnil : d.pending = [])
    (hrest : Body.remainder d.boundary bytes = []) :
    let drain := (d.push bytes).drain
    drain.found = (Body.segments d.boundary bytes).filterMap Decoder.Find.ofSegment? ∧
      drain.error = none ∧ drain.decoder.Marked ∧ drain.decoder.pending = [] ∧
      drain.decoder.boundary = d.boundary := by
  intro drain
  have hreads : drain.Reads (d.push bytes) := Decoder.drain_reads (h.push bytes)
  have hpending : (d.push bytes).pending = bytes := by
    rw [Decoder.pending_push, hnil, List.nil_append]
  have hleft : drain.decoder.pending = [] := by
    rw [hreads.rest, hpending]
    exact hrest
  refine ⟨?_, ?_, hreads.marked, hleft, hreads.passes.boundary⟩
  · rw [hreads.found, hpending]
    rfl
  · rw [hreads.error, hleft]
    exact if_neg (Nat.not_lt_zero _)

/-- The boundary of the session. -/
def boundaryB : Boundary := ⟨[0x62], by decide⟩

/-- A part of one byte, and the delimiter behind it. -/
def partOf (letter : UInt8) : Bytes :=
  [0x0D, 0x0A, 0x0D, 0x0A, letter, 0x0D, 0x0A, 0x2D, 0x2D, 0x62]

/-- A first delimiter and one part. -/
def firstChunk : Bytes := boundaryB.delimiter ++ partOf 0x58

/-- The letters from A to R. -/
def letters : List UInt8 := (List.range 18).map fun i => 0x41 + i.toUInt8

/-- A part for each letter. -/
def secondChunk : Bytes := letters.flatMap partOf

/-- A session with a chunk of one frame at once, and one of eighteen frames a millisecond later. -/
def twoChunks : Attempt :=
  ⟨0, .accepted (some "a;boundary=b") [(0, .chunk firstChunk), (1, .chunk secondChunk)]⟩

/-- The decoder behind the first chunk. -/
def behindFirst : Decoder := ((Decoder.start boundaryB 100).push firstChunk).drain.decoder

/-- The task behind the first chunk. -/
def betweenChunks : Task :=
  ⟨⟨⟨5⟩, ⟨3⟩, 100⟩, [], refused, .streaming 0 behindFirst [(1, .chunk secondChunk)]⟩

theorem drain_firstChunk :
    ((Decoder.start boundaryB 100).push firstChunk).drain.found = [.frame ⟨[], [0x58]⟩] ∧
      ((Decoder.start boundaryB 100).push firstChunk).drain.error = none ∧
      behindFirst.Marked ∧ behindFirst.pending = [] ∧ behindFirst.boundary = boundaryB := by
  obtain ⟨hfound, herror, hmarked, hpending, hboundary⟩ :=
    @drain_of_closed (Decoder.start boundaryB 100) firstChunk
      (Decoder.marked_of_scanned_eq_zero rfl) (Decoder.pending_start _ _) (by cbv)
  exact ⟨hfound.trans (by cbv), herror, hmarked, hpending, hboundary⟩

set_option maxRecDepth 4000 in
theorem drain_secondChunk :
    (behindFirst.push secondChunk).drain.found =
        letters.map (fun letter => .frame ⟨[], [letter]⟩) ∧
      (behindFirst.push secondChunk).drain.error = none := by
  obtain ⟨-, -, hmarked, hpending, hboundary⟩ := drain_firstChunk
  have hrest : Body.remainder behindFirst.boundary secondChunk = [] := by
    rw [hboundary]
    cbv
  obtain ⟨hfound, herror, -⟩ := drain_of_closed hmarked hpending hrest
  rw [hboundary] at hfound
  exact ⟨hfound.trans (by cbv), herror⟩

/-- A chunk arrives, and the session goes on. -/
theorem fire_chunk {config : Config} {script : List Attempt} {fallback : SourceError}
    {since delay : Nat} {decoder : Decoder} {bytes : Bytes} {body : List (Nat × BodyEvent)}
    (hdelay : delay ≤ config.idleTimeout.millis)
    (hnone : (decoder.push bytes).drain.error = none) (now : Nat) :
    (Task.mk config script fallback
        (.streaming since decoder ((delay, .chunk bytes) :: body))).fire now =
      (chunkActions decoder bytes,
        ⟨config, script, fallback, .streaming now (decoder.push bytes).drain.decoder body⟩) := by
  simp only [Task.fire, Task.nextEvent, if_neg (Nat.not_lt.mpr hdelay), Task.receive, hnone]
  rfl

theorem Task.runUntil_of_fire {t t' : Task} {now target : Nat} {actions : List Action}
    (hdue : t.due? = some now) (hle : now ≤ target) (hfire : t.fire now = (actions, t')) :
    t.runUntil target =
      (actions.map (now, ·) ++ (t'.runUntil target).1, (t'.runUntil target).2) := by
  rw [runUntil_of_due? hdue, if_pos hle, hfire]

/-- The first chunk comes at once. -/
theorem runUntil_twoChunks :
    let t : Task := ⟨⟨⟨5⟩, ⟨3⟩, 100⟩, [twoChunks], refused, .pausing 0⟩
    t.runUntil 0 = ([(0, .connecting), (0, .opened), (0, .connected boundaryB),
      (0, .received firstChunk 0), (0, .published ⟨[], [0x58]⟩)], betweenChunks) := by
  intro t
  obtain ⟨hfound, hnone, -⟩ := drain_firstChunk
  let connecting : Task := { t with script := [], phase := .connecting 0 twoChunks }
  let streaming : Task := { t with
    script := []
    phase := .streaming 0 (.start boundaryB 100) [(0, .chunk firstChunk), (1, .chunk secondChunk)] }
  have hmade : t.fire 0 = ([.connecting], connecting) := rfl
  have hanswered : connecting.fire 0 = ([.opened, .connected boundaryB], streaming) := by cbv
  have hreceived : streaming.fire 0 =
      ([.received firstChunk 0, .published ⟨[], [0x58]⟩], betweenChunks) := by
    rw [show streaming.fire 0 = (_, betweenChunks) from fire_chunk (Nat.zero_le _) hnone 0,
      chunkActions, hfound]
    rfl
  have hlater : betweenChunks.runUntil 0 = ([], betweenChunks) := by
    have hdue : betweenChunks.due? = some 1 := rfl
    rw [Task.runUntil_of_due? hdue]
    rfl
  rw [Task.runUntil_of_fire rfl (Nat.le_refl 0) hmade,
    Task.runUntil_of_fire rfl (Nat.le_refl 0) hanswered,
    Task.runUntil_of_fire rfl (Nat.le_refl 0) hreceived, hlater]
  rfl

/-- The second chunk comes a millisecond later. -/
theorem runUntil_betweenChunks :
    (betweenChunks.runUntil 1).1 = (1, .received secondChunk 0) ::
      letters.map fun letter => (1, .published ⟨[], [letter]⟩) := by
  obtain ⟨hfound, hnone⟩ := drain_secondChunk
  have hbuffered : behindFirst.buffered = 0 := by
    rw [Decoder.buffered, ← Decoder.length_pending, drain_firstChunk.2.2.2.1]
    rfl
  have hreceived : betweenChunks.fire 1 = (chunkActions behindFirst secondChunk, _) :=
    fire_chunk (show 1 ≤ 3 by decide) hnone 1
  have hdue : betweenChunks.due? = some 1 := rfl
  rw [Task.runUntil_of_fire hdue (Nat.le_refl 1) hreceived, chunkActions, hfound, hbuffered]
  -- the body is used up, and the server may be silent for longer
  rw [@Task.runUntil_of_due? _ 4 _ rfl]
  simp only [List.map_cons, List.map_map, Function.comp_def, Task.actionOfFind]
  rfl

/-- A waiter is made when one frame was published, and asked when nineteen were. The second and the
third frame are not kept any more, and it gets the fourth. -/
theorem run_waiter_lagging :
    let s := create ⟨⟨5⟩, ⟨3⟩, 100⟩ [twoChunks] refused
    let made := (s.run [.start]).stream.perform .nextFrame
    let step := (made.stream.run [.advance 1]).stream.perform (.poll 0)
    made.reply = .number 0 ∧ step.stream.isOver = false ∧ ¬made.stream.Answers 0 [.advance 1] ∧
      step.reply = .waiter (.frame (some ⟨[], [0x43]⟩)) := by
  intro s made step
  let t : Task := ⟨⟨⟨5⟩, ⟨3⟩, 100⟩, [twoChunks], refused, .pausing 0⟩
  have hstarted : (s.run [.start]).actions = [(0, .starting), (0, .connecting), (0, .opened),
      (0, .connected boundaryB), (0, .received firstChunk 0), (0, .published ⟨[], [0x58]⟩)] := by
    change (0, .starting) :: ((t.runUntil 0).1 ++ []) = _
    rw [runUntil_twoChunks]
    rfl
  have htask : made.stream.task = betweenChunks := by
    change (t.runUntil 0).2 = _
    rw [runUntil_twoChunks]
  have hadvanced : (made.stream.run [.advance 1]).actions = (1, .received secondChunk 0) ::
      letters.map fun letter => (1, .published ⟨[], [letter]⟩) := by
    change (made.stream.task.runUntil 1).1 ++ [] = _
    rw [htask, runUntil_betweenChunks, List.append_nil]
  have hpolled : step.actions = [] := (perform_poll _ 0).1
  have hover : step.stream.isOver = false := by
    refine (perform_poll _ 0).2.trans ?_
    change (made.stream.runTo _).2.isOver = false
    rw [isOver_runTo, isOver, isGone, htask]
    rfl
  have hnot : ¬made.stream.Answers 0 [.advance 1] := by
    simp [answers_cons_iff, not_answers_nil, Operation.asks]
  have hk : publishedOf ((s.run [.start]).actions.map (·.2)) = [⟨[], [0x58]⟩] := by
    rw [hstarted]
    rfl
  have hactions : publishedOf (((s.run [.start]).actions ++
      (made.stream.run [.advance 1]).actions ++ step.actions).map (·.2)) =
        ⟨[], [0x58]⟩ :: letters.map fun letter => ⟨[], [letter]⟩ := by
    simp only [hpolled, hadvanced, hstarted]
    rfl
  have hframes := (congrArg (fun run => publishedOf (run.actions.map (·.2)))
    (run_asked s [.start] [.advance 1] (.poll 0))).trans hactions
  obtain ⟨hnumber, hwaits⟩ :=
    run_waiter ⟨⟨5⟩, ⟨3⟩, 100⟩ [twoChunks] refused [.start] [.advance 1] (.poll 0)
  obtain ⟨-, -, hanswers⟩ := hwaits rfl hover
  obtain ⟨-, hnext⟩ := hanswers hnot
  obtain ⟨f, hf, hreply, -⟩ := hnext (by rw [hk, hframes]; decide)
  rw [hk, hframes] at hf
  obtain rfl := Option.some.inj hf
  exact ⟨hnumber, hover, hnot, hreply⟩

end Mjpeg.Stream
