import Mathlib.Logic.Relation
import Mjpeg.Proofs.Waiting

/-!
# Observers leave no trace

Whoever watches a stream tells it nothing. `Edit` changes what is asked of a stream in ways that
should not matter: an operation that only observes is put in or left out, or time passes in two
steps where it passed in one. The task then does the same at the same times, and at every moment
the board shows the same (`run_of_edits`). Where nobody waits for an answer, what observes can be
anything (`agrees_of_filter_eq`).

The one way in which a waiter could make a difference is that one may wait for its answer, which
takes time. But when it answers is settled when it is made: how long one waits for it follows from
how many frames it had seen (`Attended.perform_eq`), not from how often it was asked before. For
that a waiter has to answer as soon as it can (`Attended`). Hence two streams that have taken the
same course go on taking it while the same is asked of both (`Abreast.run`), be the waiters numbered
differently because there are more of them in one.
-/

namespace Mjpeg.Stream

variable {s s' : Stream} {op : Operation} {f : Nat → Nat} {ops ops' : List Operation}

/-! ### Operations that only observe -/

/-- The operation only observes. Of the others, three steer and two let time pass. -/
def Operation.isObserving : Operation → Bool
  | .config | .clone | .nextFrame | .poll _ | .subscribe | .checkFrame _ | .watchState
  | .checkState _ | .isFinished => true
  | .start | .drop | .advance _ | .shutdown | .wait _ _ => false

/-- The same operation, where waiter `i` has the number `f i`. -/
def Operation.renumber (f : Nat → Nat) : Operation → Operation
  | .poll i => .poll (f i)
  | .wait i millis => .wait (f i) millis
  | op => op

/-- The number of a waiter once another one has got the number `n`. -/
def makeRoom (n i : Nat) : Nat := if i < n then i else i + 1

/-- The numbers of the waiters once an operation was put in behind some others. It makes room for
the waiter it makes, if it makes one. -/
def Operation.numbering (before : List Operation) : Operation → Nat → Nat
  | .nextFrame => makeRoom (before.count .nextFrame)
  | _ => id

/-- A change of what is asked of a stream. The operations behind one that is put in or left out go
on asking the waiters that they asked, by the numbers that these then have. -/
inductive Edit : List Operation → List Operation → Prop
  | insert (before after : List Operation) {op : Operation} (hop : op.isObserving = true) :
      Edit (before ++ after) (before ++ op :: after.map (.renumber (op.numbering before)))
  | delete (before after : List Operation) {op : Operation} (hop : op.isObserving = true) :
      Edit (before ++ op :: after.map (.renumber (op.numbering before))) (before ++ after)
  | split (before after : List Operation) (a b : Nat) :
      Edit (before ++ .advance (a + b) :: after) (before ++ .advance a :: .advance b :: after)

/-! ### Waiters that answer as soon as they can -/

/-- Nothing is due, and a waiter has answered only if it had something to say. -/
structure Attended (s : Stream) : Prop where
  quiet : IsQuiet s
  frames : s.board.frames = s.board.published.length
  seen_le : ∀ w ∈ s.waiters, w.seen ≤ s.board.published.length
  answered : ∀ w ∈ s.waiters, w.finished = true →
    w.seen < s.board.published.length ∨ s.isOver = true

theorem attended_create (config : Config) (script : List Attempt) (fallback : SourceError) :
    Attended (create config script fallback) where
  quiet := (settled_create config script fallback).quiet
  frames := rfl
  seen_le := by rintro w ⟨⟩
  answered := by rintro w ⟨⟩

/-- A waiter is pending when no frame was published since it was made and one may still come. -/
theorem Attended.poll_eq_pending_iff (h : Attended s) {w : Waiter} (hw : w ∈ s.waiters) :
    (w.poll s.board.published s.isOver).1 = .pending ↔
      s.board.published.length ≤ w.seen ∧ s.isOver = false := by
  rw [Waiter.poll_eq_pending_iff]
  refine and_iff_right_of_imp fun ⟨hle, hover⟩ => ?_
  rw [← Bool.not_eq_true]
  intro hfinished
  rcases h.answered w hw hfinished with hlt | hover'
  · exact absurd hle (Nat.not_le.mpr hlt)
  · exact absurd hover' (by simp [hover])

/-- The waiters after an operation are those from before, the one that was asked, and one that was
made. -/
theorem mem_waiters_perform {w : Waiter} (h : Attended s)
    (hw : w ∈ (s.perform op).stream.waiters) :
    w = ⟨s.board.frames, false⟩ ∨ w ∈ s.waiters ∨
      ∃ w' ∈ s.waiters, w = (w'.poll (s.perform op).stream.board.published
        (s.perform op).stream.isOver).2.2 := by
  obtain ⟨i, hi⟩ := List.getElem?_of_mem hw
  cases hop : op.asks i with
  | false =>
    rcases waiters_perform hop with hsame | ⟨-, hnew⟩
    · exact Or.inr (Or.inl (List.mem_of_getElem? (hsame ▸ hi)))
    · exact Or.inl (Option.some.inj (hi.symm.trans hnew))
  | true =>
    cases hget : s.waiters[i]? with
    | none =>
      -- nobody was asked
      have hsame : (s.perform op).stream.waiters = s.waiters := by
        cases op with
        | poll j | wait j _ =>
          obtain rfl : i = j := by simpa [Operation.asks] using hop
          simp only [Stream.perform, hget]
        | _ => exact absurd hop Bool.noConfusion
      exact Or.inr (Or.inl (hsame ▸ hw))
    | some w' =>
      have hmem := List.mem_of_getElem? hget
      obtain ⟨hwaiters, -⟩ := perform_of_asks hop hget (h.seen_le w' hmem)
      obtain ⟨hlt, -⟩ := List.getElem?_eq_some_iff.mp hget
      rw [hwaiters, List.getElem?_set_self hlt] at hi
      exact Or.inr (Or.inr ⟨w', hmem, (Option.some.inj hi).symm⟩)

theorem isOver_perform (hquiet : IsQuiet s) (op : Operation) (hover : s.isOver = true) :
    (s.perform op).stream.isOver = true := by
  rw [isOver, Bool.or_eq_true] at hover ⊢
  rcases hover with hcancelled | hgone
  · exact Or.inl ((cancelled_perform_iff hquiet op).mpr (Or.inl hcancelled))
  · exact Or.inr ((perform_goes s op).of_isGone hgone).1

theorem Attended.perform (h : Attended s) (op : Operation) : Attended (s.perform op).stream := by
  have hle := length_published_perform s op
  have hover := isOver_perform h.quiet op
  refine ⟨?_, ?_, fun w hw => ?_, fun w hw hfinished => ?_⟩
  · have hsettled : Settled s [] := ⟨h.quiet, by simp⟩
    exact (hsettled.perform op).quiet
  · rw [(perform_goes s op).board]
    obtain ⟨hpublished, hframes, -⟩ := foldl_record s.board ((s.perform op).actions.map (·.2))
    rw [hpublished, hframes, h.frames, List.length_append, List.length_reverse, Nat.add_comm]
  · rcases mem_waiters_perform h hw with rfl | hmem | ⟨w', hmem, rfl⟩
    · exact h.frames.le.trans hle
    · exact (h.seen_le w hmem).trans hle
    · rw [Waiter.poll_seen]
      exact (h.seen_le w' hmem).trans hle
  · rcases mem_waiters_perform h hw with rfl | hmem | ⟨w', hmem, rfl⟩
    · exact absurd hfinished Bool.false_ne_true
    · exact (h.answered w hmem hfinished).imp (·.trans_le hle) hover
    · rw [Waiter.poll_seen]
      rcases (Waiter.poll_finished_iff_lt_or ..).mp hfinished with hbefore | hnow
      · exact (h.answered w' hmem hbefore).imp (·.trans_le hle) hover
      · exact hnow

theorem Attended.run (h : Attended s) (ops : List Operation) : Attended (s.run ops).stream := by
  induction ops generalizing s with
  | nil => exact h
  | cons op ops ih => exact ih (h.perform op)

/-! ### How much time passes -/

/-- The moment at which an operation is over that does not steer. -/
def timeAfter (s : Stream) : Operation → Nat
  | .advance millis => s.now + millis
  | .wait i millis =>
    match s.waiterSeen[i]? with
    | none => s.now
    | some seen =>
      if s.board.published.length ≤ seen ∧ s.isOver = false then
        (firstPublication? (s.task.runUntil (s.now + millis)).1).getD (s.now + millis)
      else s.now
  | _ => s.now

/-- **An operation that does not steer lets time pass** for so long, and no more. -/
theorem Attended.perform_eq (h : Attended s) (hop : op.isSteering = false) :
    (s.perform op).actions = (s.runTo (s.timeAfter op)).1 ∧
      SameCourse (s.runTo (s.timeAfter op)).2 (s.perform op).stream := by
  have hstays : ∀ s', SameCourse s s' → _ := fun s' => h.quiet.stays
  cases op with
  | start | drop | shutdown => exact absurd hop Bool.noConfusion
  | advance millis => exact ⟨rfl, SameCourse.refl _⟩
  | poll i =>
    dsimp only [Stream.perform, timeAfter]
    split
    · exact hstays s (SameCourse.refl s)
    · exact hstays _ (sameCourse_ask s i _ [])
  | wait i millis =>
    dsimp only [Stream.perform, timeAfter]
    rw [waiterSeen_getElem?]
    split
    · rename_i hw
      simp only [hw, Option.map_none]
      exact hstays s (SameCourse.refl s)
    · rename_i w hw
      simp only [hw, Option.map_some]
      unfold Stream.wait
      simp only [h.poll_eq_pending_iff (List.mem_of_getElem? hw)]
      split
      · split
        · rename_i time hfirst
          rw [hfirst]
          exact ⟨rfl, sameCourse_ask _ i w _⟩
        · rename_i hnone
          rw [hnone]
          exact ⟨rfl, SameCourse.refl _⟩
      · exact hstays _ (sameCourse_ask s i w [])
  | checkFrame i | checkState i =>
    dsimp only [Stream.perform, timeAfter]
    split
    · exact hstays s (SameCourse.refl s)
    · exact hstays _ ⟨rfl, rfl, rfl, rfl, rfl⟩
  | config | clone | nextFrame | subscribe | watchState | isFinished =>
    exact hstays _ ⟨rfl, rfl, rfl, rfl, rfl⟩

/-! ### Streams that take the same course -/

theorem SameCourse.isOver (h : SameCourse s s') : s'.isOver = s.isOver := by
  rw [Stream.isOver, Stream.isOver, isGone, isGone, h.task, h.cancelled]

theorem SameCourse.runTo (h : SameCourse s s') (time : Nat) :
    (s'.runTo time).1 = (s.runTo time).1 ∧ SameCourse (s.runTo time).2 (s'.runTo time).2 := by
  obtain ⟨htask, -, hboard, hcancelled, hspawned⟩ := h
  refine ⟨by rw [runTo_fst, runTo_fst, htask], ?_, rfl, ?_, hcancelled, hspawned⟩
  · rw [runTo_task, runTo_task, htask]
  · change ((s'.task.runUntil time).1.map (·.2)).foldl Board.record s'.board = _
    rw [htask, hboard]
    rfl

/-- Who watches has no part in what steering does. -/
theorem SameCourse.perform_of_isSteering (h : SameCourse s s') (hop : op.isSteering = true) :
    (s'.perform op).actions = (s.perform op).actions ∧
      SameCourse (s.perform op).stream (s'.perform op).stream := by
  obtain ⟨task, now, board, cancelled, spawned, _⟩ := s
  obtain ⟨task', now', board', cancelled', spawned', _⟩ := s'
  obtain ⟨rfl, rfl, rfl, rfl, rfl⟩ := h
  cases op with
  | start =>
    obtain ⟨config, script, fallback, phase⟩ := task'
    cases phase <;> exact ⟨rfl, rfl, rfl, rfl, rfl, rfl⟩
  | drop | shutdown => exact ⟨rfl, rfl, rfl, rfl, rfl, rfl⟩
  | _ => exact absurd hop Bool.noConfusion

/-- Entry `i` of the one list is entry `f i` of the other, and so it is when more is put behind
both. -/
structure Matches (f : Nat → Nat) (seen seen' : List Nat) : Prop where
  get : ∀ i, seen'[f i]? = seen[i]?
  next : ∀ k, f (seen.length + k) = seen'.length + k

section Matches

variable {seen seen' : List Nat}

theorem Matches.refl (seen : List Nat) : Matches id seen seen := ⟨fun _ => rfl, fun _ => rfl⟩

/-- One entry that the other list has not got is made room for. -/
theorem matches_concat (seen : List Nat) (n : Nat) :
    Matches (makeRoom seen.length) seen (seen ++ [n]) where
  get i := by
    rw [makeRoom]
    split
    · rename_i hi
      exact List.getElem?_append_left hi
    · rw [List.getElem?_eq_none (by simp; omega), List.getElem?_eq_none (by omega)]
  next k := by
    rw [makeRoom, if_neg (by omega), List.length_append, List.length_singleton]
    omega

theorem Matches.append (h : Matches f seen seen') (more : List Nat) :
    Matches f (seen ++ more) (seen' ++ more) where
  get i := by
    rcases Nat.lt_or_ge i seen.length with hi | hi
    · have hget := h.get i
      rw [List.getElem?_eq_getElem hi] at hget
      obtain ⟨hfi, -⟩ := List.getElem?_eq_some_iff.mp hget
      rw [List.getElem?_append_left hfi, List.getElem?_append_left hi, h.get]
    · obtain ⟨k, rfl⟩ := Nat.exists_eq_add_of_le hi
      rw [h.next, List.getElem?_append_right (Nat.le_add_right _ _),
        List.getElem?_append_right (Nat.le_add_right _ _), Nat.add_sub_cancel_left,
        Nat.add_sub_cancel_left]
  next k := by
    rw [List.length_append, List.length_append, Nat.add_assoc, Nat.add_assoc]
    exact h.next _

end Matches

/-- Two streams have taken the same course, and waiter `i` of the one is waiter `f i` of the
other. -/
structure Abreast (f : Nat → Nat) (s s' : Stream) : Prop where
  course : SameCourse s s'
  attended : Attended s
  attended' : Attended s'
  seen : Matches f s.waiterSeen s'.waiterSeen

/-- The same time passes in both. -/
theorem Abreast.timeAfter (h : Abreast f s s') (op : Operation) :
    s'.timeAfter (op.renumber f) = s.timeAfter op := by
  cases op with
  | wait i millis =>
    simp only [Operation.renumber, Stream.timeAfter, h.seen.get, h.course.now, h.course.board,
      h.course.task, h.course.isOver]
  | _ => simp only [Operation.renumber, Stream.timeAfter, h.course.now]

theorem Operation.isSteering_renumber (f : Nat → Nat) (op : Operation) :
    (op.renumber f).isSteering = op.isSteering := by cases op <;> rfl

theorem Operation.renumber_of_isSteering (hop : op.isSteering = true) : op.renumber f = op := by
  cases op <;> first | rfl | exact absurd hop Bool.noConfusion

theorem Operation.renumber_eq_nextFrame_iff : op.renumber f = .nextFrame ↔ op = .nextFrame := by
  cases op <;> simp [Operation.renumber]

/-- The task does the same in both. -/
theorem Abreast.course_perform (h : Abreast f s s') (op : Operation) :
    (s'.perform (op.renumber f)).actions = (s.perform op).actions ∧
      SameCourse (s.perform op).stream (s'.perform (op.renumber f)).stream := by
  cases hop : op.isSteering with
  | true =>
    rw [Operation.renumber_of_isSteering hop]
    exact h.course.perform_of_isSteering hop
  | false =>
    obtain ⟨hactions, hstream⟩ := h.attended.perform_eq hop
    obtain ⟨hactions', hstream'⟩ := h.attended'.perform_eq ((op.isSteering_renumber f).trans hop)
    obtain ⟨hpass, hpassed⟩ := h.course.runTo (s.timeAfter op)
    rw [h.timeAfter] at hactions' hstream'
    exact ⟨hactions'.trans (hpass.trans hactions.symm),
      hstream.symm.trans (hpassed.trans hstream')⟩

theorem Abreast.perform (h : Abreast f s s') (op : Operation) :
    (s'.perform (op.renumber f)).actions = (s.perform op).actions ∧
      Abreast f (s.perform op).stream (s'.perform (op.renumber f)).stream := by
  obtain ⟨hactions, hcourse⟩ := h.course_perform op
  refine ⟨hactions, hcourse, h.attended.perform op, h.attended'.perform _, ?_⟩
  rw [waiterSeen_perform, waiterSeen_perform, h.course.board]
  simp only [Operation.renumber_eq_nextFrame_iff]
  exact h.seen.append _

/-- **Streams that have taken the same course go on taking it**, while the same is asked of both. -/
theorem Abreast.run (h : Abreast f s s') (ops : List Operation) :
    (s'.run (ops.map (.renumber f))).actions = (s.run ops).actions ∧
      Abreast f (s.run ops).stream (s'.run (ops.map (.renumber f))).stream := by
  induction ops generalizing s s' with
  | nil => exact ⟨rfl, h⟩
  | cons op ops ih =>
    obtain ⟨hactions, hstep⟩ := h.perform op
    obtain ⟨hlater, hrun⟩ := ih hstep
    refine ⟨?_, hrun⟩
    simp only [List.map_cons, Stream.run, hactions, hlater]

/-! ### One edit -/

theorem length_waiterSeen_run (s : Stream) (ops : List Operation) :
    (s.run ops).stream.waiterSeen.length = s.waiterSeen.length + ops.count .nextFrame := by
  induction ops generalizing s with
  | nil => rfl
  | cons op ops ih =>
    rw [Stream.run, ih, waiterSeen_perform, List.length_append, List.count_cons]
    simp only [beq_iff_eq]
    split <;> simp only [List.length_singleton, List.length_nil] <;> omega

/-- An operation that only observes leaves the stream abreast of itself. -/
theorem Attended.abreast (h : Attended s) (hop : op.isObserving = true) (before : List Operation)
    (hbefore : s.waiterSeen.length = before.count .nextFrame) :
    (s.perform op).actions = [] ∧ Abreast (op.numbering before) s (s.perform op).stream := by
  have hsteering : op.isSteering = false := by
    cases op <;> first | rfl | exact absurd hop Bool.noConfusion
  have htime : s.timeAfter op = s.now := by
    cases op <;> first | rfl | exact absurd hop Bool.noConfusion
  obtain ⟨hactions, hstream⟩ := h.perform_eq hsteering
  rw [htime] at hactions hstream
  obtain ⟨hnone, hnow⟩ := h.quiet.runTo_now
  refine ⟨hactions.trans hnone, hnow.trans hstream, h, h.perform op, ?_⟩
  rw [waiterSeen_perform]
  cases op with
  | nextFrame =>
    rw [if_pos rfl, Operation.numbering, ← hbefore]
    exact matches_concat _ _
  | _ =>
    rw [if_neg (by simp), List.append_nil]
    exact Matches.refl _

/-- Time passes in one step as in two. -/
theorem run_advance_add (s : Stream) (a b : Nat) (after : List Operation) :
    s.run (.advance (a + b) :: after) = s.run (.advance a :: .advance b :: after) := by
  have hpass := s.runTo_runTo (Nat.le_add_right (s.now + a) b)
  simp only [Stream.run, Stream.perform, ← Nat.add_assoc, hpass, List.append_assoc, runTo_now]

/-- Two runs agree: the task does the same at the same times, and all but those who watch stands
the same in the end. -/
structure Run.Agrees (r r' : Run) : Prop where
  actions : r'.actions = r.actions
  course : SameCourse r.stream r'.stream

theorem Run.Agrees.refl (r : Run) : Run.Agrees r r := ⟨rfl, SameCourse.refl _⟩

theorem Run.Agrees.symm {r r' : Run} (h : Run.Agrees r r') : Run.Agrees r' r :=
  ⟨h.actions.symm, h.course.symm⟩

theorem Run.Agrees.trans {r r' r'' : Run} (h : Run.Agrees r r') (h' : Run.Agrees r' r'') :
    Run.Agrees r r'' := ⟨h'.actions.trans h.actions, h.course.trans h'.course⟩

theorem agrees_insert (config : Config) (script : List Attempt) (fallback : SourceError)
    (before after : List Operation) (hop : op.isObserving = true) :
    let s := create config script fallback
    Run.Agrees (s.run (before ++ after))
      (s.run (before ++ op :: after.map (.renumber (op.numbering before)))) := by
  intro s
  have hattended : Attended (s.run before).stream :=
    (attended_create config script fallback).run before
  have hcount : (s.run before).stream.waiterSeen.length = before.count .nextFrame := by
    rw [length_waiterSeen_run]
    exact Nat.zero_add _
  obtain ⟨hnone, habreast⟩ := hattended.abreast hop before hcount
  obtain ⟨hactions, hend⟩ := habreast.run after
  rw [run_append, run_append]
  refine ⟨?_, hend.course⟩
  simp only [Stream.run, hnone, hactions, List.nil_append]

/-- **One edit makes no difference.** -/
theorem Edit.agrees (h : Edit ops ops') (config : Config) (script : List Attempt)
    (fallback : SourceError) :
    let s := create config script fallback
    Run.Agrees (s.run ops) (s.run ops') := by
  intro s
  cases h with
  | insert before after hop => exact agrees_insert config script fallback before after hop
  | delete before after hop => exact (agrees_insert config script fallback before after hop).symm
  | split before after a b =>
    rw [run_append, run_append, run_advance_add]
    exact Run.Agrees.refl _

/-! ### Whole runs -/

/-- What is asked up to a moment ends before a given operation, or has it and more behind it. -/
theorem prefix_or_exists_of_prefix {early before after : List Operation}
    (h : early <+: before ++ op :: after) :
    early <+: before ∨ ∃ middle, early = before ++ op :: middle ∧ middle <+: after := by
  rcases List.prefix_or_prefix_of_prefix h (List.prefix_append _ _) with hshort | ⟨rest, rfl⟩
  · exact Or.inl hshort
  · rcases List.prefix_cons_iff.mp ((List.prefix_append_right_inj before).mp h) with
      rfl | ⟨middle, rfl, hmiddle⟩
    · exact Or.inl ((List.append_nil before).symm ▸ List.prefix_rfl)
    · exact Or.inr ⟨middle, rfl, hmiddle⟩

/-- Up to every moment of the one run, what is asked comes by edits to what is asked up to some
moment of the other. -/
theorem Edit.exists_prefix (h : Edit ops ops') {early : List Operation} (hearly : early <+: ops) :
    ∃ early', early' <+: ops' ∧ Relation.ReflTransGen Edit early early' := by
  -- the edit lies behind the moment, or it changes what is asked before in the same way
  cases h with
  | @insert before after op hop =>
    rcases List.prefix_or_prefix_of_prefix hearly (List.prefix_append before after) with
      hshort | ⟨middle, rfl⟩
    · exact ⟨early, hshort.trans (List.prefix_append _ _), .refl⟩
    · have hmiddle : middle <+: after := (List.prefix_append_right_inj before).mp hearly
      refine ⟨_, ?_, .single (.insert before middle hop)⟩
      exact (List.prefix_append_right_inj before).mpr
        ((List.prefix_cons_inj op).mpr (hmiddle.map _))
  | @delete before after op hop =>
    rcases prefix_or_exists_of_prefix hearly with hshort | ⟨middle, rfl, hmiddle⟩
    · exact ⟨early, hshort.trans (List.prefix_append _ _), .refl⟩
    · obtain ⟨middle', hmiddle', rfl⟩ := List.prefix_map_iff.mp hmiddle
      exact ⟨_, (List.prefix_append_right_inj before).mpr hmiddle',
        .single (.delete before middle' hop)⟩
  | split before after a b =>
    rcases prefix_or_exists_of_prefix hearly with hshort | ⟨middle, rfl, hmiddle⟩
    · exact ⟨early, hshort.trans (List.prefix_append _ _), .refl⟩
    · refine ⟨_, ?_, .single (.split before middle a b)⟩
      exact (List.prefix_append_right_inj before).mpr
        ((List.prefix_cons_inj _).mpr ((List.prefix_cons_inj _).mpr hmiddle))

theorem exists_prefix_of_edits (h : Relation.ReflTransGen Edit ops ops') {early : List Operation}
    (hearly : early <+: ops) :
    ∃ early', early' <+: ops' ∧ Relation.ReflTransGen Edit early early' := by
  induction h with
  | refl => exact ⟨early, hearly, Relation.ReflTransGen.refl⟩
  | tail _ hedit ih =>
    obtain ⟨middle, hmiddle, hedits⟩ := ih
    obtain ⟨early', hearly', hlast⟩ := hedit.exists_prefix hmiddle
    exact ⟨early', hearly', hedits.trans hlast⟩

theorem agrees_of_edits (h : Relation.ReflTransGen Edit ops ops') (config : Config)
    (script : List Attempt) (fallback : SourceError) :
    let s := create config script fallback
    Run.Agrees (s.run ops) (s.run ops') := by
  intro s
  induction h with
  | refl => exact Run.Agrees.refl _
  | tail _ hedit ih => exact ih.trans (hedit.agrees config script fallback)

/-- Where nobody waits, all that observes may be left out, or be put in. -/
theorem edits_filter (before : List Operation) (hops : ∀ i millis, .wait i millis ∉ ops) :
    let rest := ops.filter (!·.isObserving)
    Relation.ReflTransGen Edit (before ++ ops) (before ++ rest) ∧
      Relation.ReflTransGen Edit (before ++ rest) (before ++ ops) := by
  intro rest
  induction ops generalizing before with
  | nil => exact ⟨.refl, .refl⟩
  | cons op ops ih =>
    have hlater : ∀ i millis, .wait i millis ∉ ops := fun i millis hmem =>
      hops i millis (List.mem_cons_of_mem op hmem)
    obtain ⟨hout, hback⟩ := ih (before ++ [op]) hlater
    rw [List.append_assoc, List.append_assoc, List.singleton_append, List.singleton_append]
      at hout hback
    cases hop : op.isObserving with
    | false =>
      rw [show rest = op :: ops.filter (!·.isObserving) by simp [rest, hop]]
      exact ⟨hout, hback⟩
    | true =>
      -- what is left asks no waiter, so it reads the same behind one waiter more
      have hsame : (ops.filter (!·.isObserving)).map (.renumber (op.numbering before)) =
          ops.filter (!·.isObserving) := by
        refine (List.map_congr_left fun op' hop' => ?_).trans (List.map_id _)
        obtain ⟨hmem, hnot⟩ := List.mem_filter.mp hop'
        cases op' with
        | wait i millis => exact absurd hmem (hlater i millis)
        | poll i => exact absurd hnot Bool.false_ne_true
        | _ => rfl
      have hdelete := Edit.delete before (ops.filter (!·.isObserving)) hop
      have hinsert := Edit.insert before (ops.filter (!·.isObserving)) hop
      rw [hsame] at hdelete hinsert
      rw [show rest = ops.filter (!·.isObserving) by simp [rest, hop]]
      exact ⟨hout.tail hdelete, .head hinsert hback⟩

/-- Where nobody waits, **only what steers and what lets time pass matters**: runs in which these
operations are the same agree, whatever observes in between. -/
theorem agrees_of_filter_eq (config : Config) (script : List Attempt) (fallback : SourceError)
    (hops : ∀ i millis, .wait i millis ∉ ops) (hops' : ∀ i millis, .wait i millis ∉ ops')
    (h : ops.filter (!·.isObserving) = ops'.filter (!·.isObserving)) :
    let s := create config script fallback
    Run.Agrees (s.run ops) (s.run ops') := by
  have hout := (edits_filter [] hops).1
  rw [h] at hout
  exact agrees_of_edits (hout.trans (edits_filter [] hops').2) config script fallback

/-- **Observers leave no trace.** Put in operations that only observe, leave some out, or let time
pass in two steps where it passed in one: the task does the same at the same times, from its
attempts to the frames it publishes, and the state, the counters and the frames on the board are the
same. So it is in the end and at every moment of the first run, for which there is one of the
second. -/
theorem run_of_edits (config : Config) (script : List Attempt) (fallback : SourceError)
    (h : Relation.ReflTransGen Edit ops ops') :
    let s := create config script fallback
    Run.Agrees (s.run ops) (s.run ops') ∧
    ∀ early, early <+: ops → ∃ early', early' <+: ops' ∧ Relation.ReflTransGen Edit early early' ∧
      Run.Agrees (s.run early) (s.run early') := by
  intro s
  refine ⟨agrees_of_edits h config script fallback, fun early hearly => ?_⟩
  obtain ⟨early', hearly', hedits⟩ := exists_prefix_of_edits h hearly
  exact ⟨early', hearly', hedits, agrees_of_edits hedits config script fallback⟩

/-- A waiter is made and asked, and time passes in two steps, the second attempt falling due between
them. -/
theorem run_of_edits_second_attempt :
    let script : List Attempt :=
      [⟨0, .failed refused⟩, ⟨1, .accepted (some "a;boundary=b") []⟩]
    let s := create ⟨⟨5⟩, ⟨3⟩, 100⟩ script refused
    let ops : List Operation := [.start, .advance 6]
    let ops' : List Operation := [.start, .nextFrame, .advance 5, .poll 0, .advance 1]
    Relation.ReflTransGen Edit ops ops' ∧ (s.run ops').actions = (s.run ops).actions ∧
      (s.run ops').stream.board.state = .streaming ∧ (s.run ops').stream.board.attempts = 2 := by
  intro script s ops ops'
  have hsplit : Edit ops [.start, .advance 5, .advance 1] := .split [.start] [] 5 1
  have hmade : Edit [.start, .advance 5, .advance 1] [.start, .nextFrame, .advance 5, .advance 1] :=
    @Edit.insert [.start] [.advance 5, .advance 1] .nextFrame rfl
  have hasked : Edit [.start, .nextFrame, .advance 5, .advance 1] ops' :=
    @Edit.insert [.start, .nextFrame, .advance 5] [.advance 1] (.poll 0) rfl
  have hedits : Relation.ReflTransGen Edit ops ops' :=
    ((Relation.ReflTransGen.single hsplit).tail hmade).tail hasked
  obtain ⟨⟨hactions, hcourse⟩, -⟩ := run_of_edits ⟨⟨5⟩, ⟨3⟩, 100⟩ script refused hedits
  have hstate : (s.run ops).stream.board.state = .streaming := by cbv
  have hattempts : (s.run ops).stream.board.attempts = 2 := by cbv
  rw [hcourse.board]
  exact ⟨hedits, hactions, hstate, hattempts⟩

end Mjpeg.Stream
