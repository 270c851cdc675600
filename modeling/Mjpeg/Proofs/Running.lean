import Mathlib.Order.Nat
import Mjpeg.Proofs.Turns

/-!
# When a task runs

A task runs from when its stream is started to when it is shut down (`Steered`), whatever else is
asked. Carrying it to a given moment does all that is due until then and nothing that is due
later (`Task.due?_runUntil`, `Task.time_of_mem_runUntil`), so between two operations nothing
is due and nothing was done in the future (`Settled`). Nothing but a shutdown stops a task
(`isStopped_run_iff`).
-/

namespace Mjpeg.Stream

/-! ### Running tasks -/

/-- The task was started and not stopped. -/
def Phase.isRunning : Phase → Bool
  | .pausing _ | .connecting _ _ | .streaming _ _ _ => true
  | .unstarted | .dropped | .stopped => false

/-- The task was stopped. -/
def Phase.isStopped : Phase → Bool
  | .stopped => true
  | _ => false

theorem Phase.eq_stopped_of_isStopped {p : Phase} (h : p.isStopped = true) : p = .stopped := by
  cases p with
  | stopped => rfl
  | _ => exact absurd h Bool.false_ne_true

variable {t t' : Task} {now target : Nat} {actions : List Action}

theorem Turn.isRunning (h : Turn t now actions t') :
    t.phase.isRunning = true ∧ t'.phase.isRunning = true := by
  cases h <;> exact ⟨rfl, rfl⟩

/-- After a turn, a task is not due earlier. -/
theorem Turn.le_due? (h : Turn t now actions t') {next : Nat} (hnext : t'.due? = some next) :
    now ≤ next := by
  cases h with
  | attempt a now | connected | chunk =>
    simp only [Task.due?, Option.some.injEq] at hnext
    omega
  | refused | unanswered | failed | unusable | idle | closed | overflow =>
    simp only [Task.due?] at hnext
    split at hnext
    · exact absurd hnext (by simp)
    · have hwake := Option.some.inj hnext
      omega

namespace Task

theorem due?_of_not_isRunning (h : t.phase.isRunning = false) : t.due? = none := by
  obtain ⟨config, script, fallback, phase⟩ := t
  cases phase with
  | unstarted | dropped | stopped => rfl
  | pausing | connecting | streaming => exact absurd h (by simp [Phase.isRunning])

theorem runUntil_of_due?_eq_none (h : t.due? = none) (target : Nat) :
    t.runUntil target = ([], t) := by
  rw [runUntil]
  split
  · rfl
  · rename_i now hdue
    exact absurd (hdue.symm.trans h) (by simp)

/-- A task that does not run does nothing. -/
theorem runUntil_of_not_isRunning (h : t.phase.isRunning = false) (target : Nat) :
    t.runUntil target = ([], t) :=
  runUntil_of_due?_eq_none (due?_of_not_isRunning h) target

/-- A running task goes on running. -/
theorem isRunning_runUntil (target : Nat) (t : Task) :
    (t.runUntil target).2.phase.isRunning = t.phase.isRunning := by
  fun_induction runUntil target t with
  | case1 t hdue => rfl
  | case2 t now hdue hle step run ih =>
    have hturn := fire_turn hdue
    exact ih.trans (hturn.isRunning.2.trans hturn.isRunning.1.symm)
  | case3 t now hdue hlt => rfl

/-- What is due until `target` is done: the rest is due later. -/
theorem due?_runUntil (target : Nat) (t : Task) :
    ∀ due ∈ (t.runUntil target).2.due?, target < due := by
  fun_induction runUntil target t with
  | case1 t hdue =>
    intro due hmem
    rw [hdue] at hmem
    exact absurd hmem (by simp)
  | case2 t now hdue hle step run ih => exact ih
  | case3 t now hdue hlt =>
    intro due hmem
    rw [hdue] at hmem
    obtain rfl := Option.some.inj hmem
    exact Nat.lt_of_not_le hlt

/-- Nothing is done after `target`, nor before the task is due. -/
theorem time_of_mem_runUntil (target : Nat) (t : Task) :
    ∀ x ∈ (t.runUntil target).1, x.1 ≤ target ∧ ∀ due ∈ t.due?, due ≤ x.1 := by
  fun_induction runUntil target t with
  | case1 t hdue => simp
  | case2 t now hdue hle step run ih =>
    intro x hx
    rw [hdue]
    rcases List.mem_append.mp hx with hx | hx
    · obtain ⟨a, -, rfl⟩ := List.mem_map.mp hx
      exact ⟨hle, fun due hmem => (Option.some.inj hmem).symm.le⟩
    · obtain ⟨hbefore, hafter⟩ := ih x hx
      refine ⟨hbefore, fun due hmem => ?_⟩
      obtain rfl := Option.some.inj hmem
      -- there is a next turn, since something was done behind this one
      cases hnext : step.2.due? with
      | none =>
        rw [show run = ([], step.2) from runUntil_of_due?_eq_none hnext target] at hx
        exact absurd hx List.not_mem_nil
      | some next =>
        exact ((fire_turn hdue).le_due? hnext).trans (hafter next hnext)
  | case3 t now hdue hlt => simp

/-- What a task does that is not due yet is done later. -/
theorem lt_of_mem_runUntil (h : ∀ due ∈ t.due?, now < due) {x : Nat × Action}
    (hx : x ∈ (t.runUntil target).1) : now < x.1 := by
  cases hdue : t.due? with
  | none =>
    rw [runUntil_of_due?_eq_none hdue] at hx
    exact absurd hx List.not_mem_nil
  | some due =>
    exact (h due hdue).trans_le ((time_of_mem_runUntil target t x hx).2 due hdue)

/-- A task does what is due, unless that is later than it is carried, and is carried on. -/
theorem runUntil_of_due? (hdue : t.due? = some now) :
    t.runUntil target = if now ≤ target then
        ((t.fire now).1.map (now, ·) ++ ((t.fire now).2.runUntil target).1,
          ((t.fire now).2.runUntil target).2)
      else ([], t) := by
  rw [runUntil]
  split
  · rename_i hnone
    exact absurd (hdue.symm.trans hnone) (by simp)
  · rename_i now' hdue'
    obtain rfl := Option.some.inj (hdue.symm.trans hdue')
    rfl

/-- **Carrying a task on from one moment to a later one** comes to the same as carrying it there at
once. -/
theorem runUntil_runUntil {a b : Nat} (h : a ≤ b) (t : Task) :
    t.runUntil b =
      ((t.runUntil a).1 ++ ((t.runUntil a).2.runUntil b).1, ((t.runUntil a).2.runUntil b).2) := by
  fun_induction runUntil a t with
  | case1 t hdue => rfl
  | case2 t now hdue hle step run ih =>
    rw [runUntil_of_due? hdue, if_pos (hle.trans h), List.append_assoc]
    exact Prod.ext (congrArg (_ ++ ·.1) ih) (congrArg (·.2) ih)
  | case3 t now hdue hlt => rfl

/-- Nothing moves a task that was dropped or stopped. -/
theorem Moves.eq_of_gone {actions : List (Nat × Action)} (h : Moves t actions t')
    (hgone : t.phase = .dropped ∨ t.phase = .stopped) : actions = [] ∧ t' = t := by
  induction h with
  | nil t => exact ⟨rfl, rfl⟩
  | @cons t t' t'' first later hmove hmoves ih =>
    obtain ⟨config, script, fallback, phase⟩ := t
    have hstays : first = [] ∧ t' = ⟨config, script, fallback, phase⟩ := by
      rcases hgone with rfl | rfl <;>
      · cases hmove with
        | fire due => exact absurd due (by simp [Task.due?])
        | start | stop | drop => exact ⟨rfl, rfl⟩
    obtain ⟨rfl, rfl⟩ := hstays
    exact ih hgone

end Task

/-! ### Letting time pass -/

variable {s s' : Stream} {op : Operation} {past : List (Nat × Action)}

@[simp] theorem runTo_fst (s : Stream) (time : Nat) :
    (s.runTo time).1 = (s.task.runUntil time).1 := rfl

@[simp] theorem runTo_task (s : Stream) (time : Nat) :
    (s.runTo time).2.task = (s.task.runUntil time).2 := rfl

@[simp] theorem runTo_now (s : Stream) (time : Nat) : (s.runTo time).2.now = time := rfl

@[simp] theorem runTo_cancelled (s : Stream) (time : Nat) :
    (s.runTo time).2.cancelled = s.cancelled := rfl

@[simp] theorem runTo_spawned (s : Stream) (time : Nat) :
    (s.runTo time).2.spawned = s.spawned := rfl

/-- Time passes in one step as in two, whatever falls due at the moment in between. -/
theorem runTo_runTo (s : Stream) {a b : Nat} (h : a ≤ b) :
    s.runTo b = ((s.runTo a).1 ++ ((s.runTo a).2.runTo b).1, ((s.runTo a).2.runTo b).2) := by
  have htask := Task.runUntil_runUntil h s.task
  simp only [Stream.runTo, record, htask, List.map_append, List.foldl_append]

/-- Two streams that differ at most in who watches them. -/
structure SameCourse (s s' : Stream) : Prop where
  task : s'.task = s.task
  now : s'.now = s.now
  board : s'.board = s.board
  cancelled : s'.cancelled = s.cancelled
  spawned : s'.spawned = s.spawned

theorem SameCourse.refl (s : Stream) : SameCourse s s := ⟨rfl, rfl, rfl, rfl, rfl⟩

theorem SameCourse.symm (h : SameCourse s s') : SameCourse s' s :=
  ⟨h.task.symm, h.now.symm, h.board.symm, h.cancelled.symm, h.spawned.symm⟩

theorem SameCourse.trans {s'' : Stream} (h : SameCourse s s') (h' : SameCourse s' s'') :
    SameCourse s s'' :=
  ⟨h'.task.trans h.task, h'.now.trans h.now, h'.board.trans h.board,
    h'.cancelled.trans h.cancelled, h'.spawned.trans h.spawned⟩

theorem sameCourse_ask (s : Stream) (i : Nat) (w : Waiter) (actions : List (Nat × Action)) :
    SameCourse s (s.ask i w actions).stream := ⟨rfl, rfl, rfl, rfl, rfl⟩

/-- The stream has let time pass, perhaps none, and nothing else. -/
def Passes (s : Stream) (actions : List (Nat × Action)) (s' : Stream) : Prop :=
  ∃ time, s.now ≤ time ∧ actions = (s.runTo time).1 ∧ SameCourse (s.runTo time).2 s'

/-- Nothing is due at the present moment. -/
def IsQuiet (s : Stream) : Prop := ∀ due ∈ s.task.due?, s.now < due

theorem passes_runTo {time : Nat} (h : s.now ≤ time) : Passes s (s.runTo time).1 (s.runTo time).2 :=
  ⟨time, h, rfl, SameCourse.refl _⟩

/-- While nothing is due, nothing comes of no time passing. -/
theorem IsQuiet.runTo_now (h : IsQuiet s) :
    (s.runTo s.now).1 = [] ∧ SameCourse s (s.runTo s.now).2 := by
  have hnone : s.task.runUntil s.now = ([], s.task) := by
    rw [Task.runUntil]
    split
    · rfl
    · rename_i now hdue
      exact if_neg (Nat.not_le.mpr (h now hdue))
  refine ⟨congrArg Prod.fst hnone, ?_, rfl, ?_, rfl, rfl⟩
  · exact congrArg Prod.snd hnone
  · change (((s.task.runUntil s.now).1.map (·.2)).foldl Board.record s.board) = s.board
    rw [hnone]
    rfl

/-- What is in the future does not come of no time passing, whoever watches. -/
theorem IsQuiet.stays (h : IsQuiet s) (hsame : SameCourse s s') :
    [] = (s.runTo s.now).1 ∧ SameCourse (s.runTo s.now).2 s' := by
  obtain ⟨hnone, hnow⟩ := h.runTo_now
  exact ⟨hnone.symm, hnow.symm.trans hsame⟩

theorem IsQuiet.passes_of_sameCourse (h : IsQuiet s) (hsame : SameCourse s s') :
    Passes s [] s' := ⟨s.now, Nat.le_refl _, h.stays hsame⟩

theorem Passes.ask {actions : List (Nat × Action)} (h : Passes s actions s') (i : Nat)
    (w : Waiter) : Passes s (s'.ask i w actions).actions (s'.ask i w actions).stream := by
  obtain ⟨time, hle, hactions, hsame⟩ := h
  exact ⟨time, hle, hactions, hsame.trans (sameCourse_ask s' i w actions)⟩

/-- The first publication is one of the actions. -/
theorem exists_mem_of_firstPublication? {actions : List (Nat × Action)} {time : Nat}
    (h : firstPublication? actions = some time) : ∃ f, (time, .published f) ∈ actions := by
  obtain ⟨⟨time', a⟩, hmem, ha⟩ := List.exists_of_findSome?_eq_some h
  cases a with
  | published f =>
    obtain rfl := Option.some.inj ha
    exact ⟨f, hmem⟩
  | _ => exact absurd ha (by simp)

theorem IsQuiet.wait (h : IsQuiet s) (i : Nat) (w : Waiter) (millis : Nat) :
    Passes s (s.wait i w millis).actions (s.wait i w millis).stream := by
  unfold Stream.wait
  dsimp only
  split
  · split
    · rename_i time hfirst
      -- what is published while time passes is published after the present moment
      obtain ⟨f, hmem⟩ := exists_mem_of_firstPublication? hfirst
      have hle : s.now ≤ time := (Task.lt_of_mem_runUntil h hmem).le
      exact (passes_runTo hle).ask i w
    · exact passes_runTo (Nat.le_add_right _ _)
  · exact (h.passes_of_sameCourse (SameCourse.refl s)).ask i w

/-! ### Operations -/

/-- The operation decides about the stream. Any other only watches it, or lets time pass. -/
def Operation.isSteering : Operation → Bool
  | .start | .drop | .shutdown => true
  | _ => false

/-- **An operation that does not steer lets time pass**, perhaps none, and no more. -/
theorem IsQuiet.perform (h : IsQuiet s) (hop : op.isSteering = false) :
    Passes s (s.perform op).actions (s.perform op).stream := by
  have hsame : ∀ s', SameCourse s s' → Passes s [] s' := fun s' => h.passes_of_sameCourse
  cases op with
  | start | drop | shutdown => exact absurd hop Bool.noConfusion
  | advance millis => exact passes_runTo (Nat.le_add_right _ _)
  | poll i =>
    dsimp only [Stream.perform]
    split
    · exact hsame s (SameCourse.refl s)
    · exact hsame _ (sameCourse_ask s i _ [])
  | wait i millis =>
    dsimp only [Stream.perform]
    split
    · exact hsame s (SameCourse.refl s)
    · exact h.wait i _ millis
  | checkFrame i | checkState i =>
    dsimp only [Stream.perform]
    split
    · exact hsame s (SameCourse.refl s)
    · exact hsame _ ⟨rfl, rfl, rfl, rfl, rfl⟩
  | config | clone | nextFrame | subscribe | watchState | isFinished =>
    exact hsame _ ⟨rfl, rfl, rfl, rfl, rfl⟩

/-- Nothing is due, and nothing was done in the future. -/
structure Settled (s : Stream) (past : List (Nat × Action)) : Prop where
  quiet : IsQuiet s
  past : ∀ x ∈ past, x.1 ≤ s.now

theorem settled_create (config : Config) (script : List Attempt) (fallback : SourceError) :
    Settled (create config script fallback) [] where
  quiet := by rintro due ⟨⟩
  past := by simp

theorem Settled.passes {actions : List (Nat × Action)} (h : Settled s past)
    (hpasses : Passes s actions s') : Settled s' (past ++ actions) := by
  obtain ⟨time, hle, rfl, hsame⟩ := hpasses
  constructor
  · rw [IsQuiet, hsame.task, hsame.now]
    exact Task.due?_runUntil time s.task
  · intro x hx
    rw [hsame.now]
    rcases List.mem_append.mp hx with hx | hx
    · exact (h.past x hx).trans hle
    · exact (Task.time_of_mem_runUntil time s.task x hx).1

theorem Settled.start (h : Settled s past) : Settled s.start.2 (past ++ s.start.1) := by
  have hnow : s.start.2.now = s.now := by
    unfold Stream.start
    dsimp only
    split <;> rfl
  constructor
  · intro due hdue
    have htask : s.start.2.task = ((s.task.start s.now s.cancelled).2.runUntil s.now).2 := by
      unfold Stream.start
      dsimp only
      split <;> rfl
    rw [htask] at hdue
    rw [hnow]
    exact Task.due?_runUntil _ _ due hdue
  · intro x hx
    rw [hnow]
    rcases List.mem_append.mp hx with hx | hx
    · exact h.past x hx
    · rcases List.mem_append.mp hx with hx | hx
      · obtain ⟨a, -, rfl⟩ := List.mem_map.mp hx
        exact Nat.le_refl _
      · exact (Task.time_of_mem_runUntil _ _ x hx).1

theorem Settled.shutdown (h : Settled s past) : Settled s.shutdown.2 (past ++ s.shutdown.1) := by
  constructor
  · intro due hdue
    have hnone : s.task.stop.2.due? = none := by
      obtain ⟨⟨config, script, fallback, phase⟩, _⟩ := s
      cases phase <;> rfl
    exact absurd (hdue.symm.trans hnone) (by simp)
  · intro x hx
    rcases List.mem_append.mp hx with hx | hx
    · exact h.past x hx
    · obtain ⟨a, -, rfl⟩ := List.mem_map.mp hx
      exact Nat.le_refl _

theorem Settled.drop (h : Settled s past) :
    Settled (s.perform .drop).stream (past ++ (s.perform .drop).actions) := by
  constructor
  · intro due hdue
    refine h.quiet due ?_
    have hsame : s.task.drop.due? = s.task.due? := by
      obtain ⟨⟨config, script, fallback, phase⟩, _⟩ := s
      cases phase <;> rfl
    exact hsame.symm.trans hdue
  · intro x hx
    exact h.past x (by simpa [Stream.perform] using hx)

theorem Settled.perform (h : Settled s past) (op : Operation) :
    Settled (s.perform op).stream (past ++ (s.perform op).actions) := by
  cases hop : op.isSteering with
  | false => exact h.passes (h.quiet.perform hop)
  | true =>
    cases op with
    | start => exact h.start
    | shutdown => exact h.shutdown
    | drop => exact h.drop
    | _ => exact absurd hop Bool.noConfusion

/-- **Between operations nothing is due**, and nothing was done in the future. -/
theorem Settled.run (h : Settled s past) (ops : List Operation) :
    Settled (s.run ops).stream (past ++ (s.run ops).actions) := by
  induction ops generalizing s past with
  | nil => simpa [Stream.run] using h
  | cons op ops ih =>
    rw [Stream.run, ← List.append_assoc]
    exact ih (h.perform op)

/-! ### Started and shut down -/

/-- Where the task stands goes with what was asked: it runs from when the stream was started until
it is shut down. -/
structure Steered (s : Stream) : Prop where
  waiting : s.spawned = false → s.task.phase = .unstarted ∨ s.task.phase = .dropped
  running : s.spawned = true → s.cancelled = false → s.task.phase.isRunning = true
  stopped : s.spawned = true → s.cancelled = true → s.task.phase = .stopped

theorem steered_create (config : Config) (script : List Attempt) (fallback : SourceError) :
    Steered (create config script fallback) where
  waiting := fun _ => Or.inl rfl
  running := fun h => absurd h Bool.false_ne_true
  stopped := fun h => absurd h Bool.false_ne_true

/-- A task that does not run stays where it is while time passes. -/
theorem Passes.phase_eq {actions : List (Nat × Action)} (h : Passes s actions s')
    (hphase : s.task.phase.isRunning = false) : s'.task.phase = s.task.phase := by
  obtain ⟨time, -, -, hsame⟩ := h
  rw [hsame.task, runTo_task, Task.runUntil_of_not_isRunning hphase]

theorem Steered.passes {actions : List (Nat × Action)} (h : Steered s)
    (hpasses : Passes s actions s') : Steered s' := by
  obtain ⟨time, -, -, hsame⟩ := id hpasses
  refine ⟨fun hspawned => ?_, fun hspawned hcancelled => ?_, fun hspawned hcancelled => ?_⟩
  · have hphase := h.waiting (hsame.spawned.symm.trans hspawned)
    have hnot : s.task.phase.isRunning = false := by
      rcases hphase with hphase | hphase <;> rw [hphase] <;> rfl
    rwa [hpasses.phase_eq hnot]
  · rw [hsame.task, runTo_task, Task.isRunning_runUntil]
    exact h.running (hsame.spawned.symm.trans hspawned) (hsame.cancelled.symm.trans hcancelled)
  · have hphase :=
      h.stopped (hsame.spawned.symm.trans hspawned) (hsame.cancelled.symm.trans hcancelled)
    rwa [hpasses.phase_eq (by rw [hphase]; rfl)]

/-- A stream that was started before is not started again. -/
theorem start_eq_runTo (h : s.task.phase ≠ .unstarted) : s.start = s.runTo s.now := by
  obtain ⟨⟨config, script, fallback, phase⟩, _⟩ := s
  cases phase with
  | unstarted => exact absurd rfl h
  | dropped | pausing | connecting | streaming | stopped => rfl

theorem Steered.start (h : Steered s) : Steered s.start.2 := by
  by_cases hphase : s.task.phase = .unstarted
  · obtain ⟨⟨config, script, fallback, phase⟩, now, board, cancelled, spawned, _⟩ := s
    obtain rfl : phase = .unstarted := hphase
    refine ⟨fun hspawned => absurd hspawned (by simp [Stream.start, isUnstarted]), ?_, ?_⟩
    · rintro - (rfl : cancelled = false)
      exact Task.isRunning_runUntil now ⟨config, script, fallback, .pausing now⟩
    · rintro - (rfl : cancelled = true)
      exact congrArg (·.2.phase)
        (Task.runUntil_of_not_isRunning (t := ⟨config, script, fallback, .stopped⟩) rfl now)
  · rw [start_eq_runTo hphase]
    exact h.passes (passes_runTo (Nat.le_refl _))

theorem Steered.shutdown (h : Steered s) : Steered s.shutdown.2 := by
  obtain ⟨⟨config, script, fallback, phase⟩, now, board, cancelled, spawned, _⟩ := s
  refine ⟨fun hspawned => ?_, fun _ hcancelled => absurd hcancelled (by simp [Stream.shutdown]),
    fun hspawned _ => ?_⟩
  · obtain rfl | rfl : phase = .unstarted ∨ phase = .dropped := h.waiting hspawned
    · exact Or.inl rfl
    · exact Or.inr rfl
  · cases cancelled with
    | false =>
      have hrunning : phase.isRunning = true := h.running hspawned rfl
      cases phase with
      | unstarted | dropped | stopped => exact absurd hrunning Bool.false_ne_true
      | pausing | connecting | streaming => rfl
    | true =>
      obtain rfl : phase = .stopped := h.stopped hspawned rfl
      rfl

theorem Steered.drop (h : Steered s) : Steered (s.perform .drop).stream := by
  obtain ⟨⟨config, script, fallback, phase⟩, now, board, cancelled, spawned, _⟩ := s
  cases phase with
  | unstarted =>
    refine ⟨fun _ => Or.inr rfl, fun hspawned hcancelled => ?_, fun hspawned hcancelled => ?_⟩
    · exact absurd (h.running hspawned hcancelled) Bool.false_ne_true
    · exact absurd (h.stopped hspawned hcancelled) Phase.noConfusion
  | dropped | pausing | connecting | streaming | stopped =>
    exact ⟨h.waiting, h.running, h.stopped⟩

theorem Steered.perform (h : Steered s) (hquiet : IsQuiet s) (op : Operation) :
    Steered (s.perform op).stream := by
  cases hop : op.isSteering with
  | false => exact h.passes (hquiet.perform hop)
  | true =>
    cases op with
    | start => exact h.start
    | shutdown => exact h.shutdown
    | drop => exact h.drop
    | _ => exact absurd hop Bool.noConfusion

theorem Steered.run (h : Steered s) (hsettled : Settled s past) (ops : List Operation) :
    Steered (s.run ops).stream := by
  induction ops generalizing s past with
  | nil => exact h
  | cons op ops ih => exact ih (h.perform hsettled.quiet op) (hsettled.perform op)

/-- A stream is shut down by one operation only. -/
theorem cancelled_perform_iff (hquiet : IsQuiet s) (op : Operation) :
    (s.perform op).stream.cancelled = true ↔ s.cancelled = true ∨ op = .shutdown := by
  cases hop : op.isSteering with
  | false =>
    obtain ⟨time, -, -, hsame⟩ := hquiet.perform hop
    rw [hsame.cancelled, runTo_cancelled]
    refine ⟨Or.inl, fun h => h.resolve_right ?_⟩
    rintro rfl
    exact absurd hop Bool.noConfusion
  | true =>
    cases op with
    | start =>
      have hsame : s.start.2.cancelled = s.cancelled := by
        unfold Stream.start
        dsimp only
        split <;> rfl
      simp [Stream.perform, hsame]
    | shutdown => simp [Stream.perform, Stream.shutdown]
    | drop => simp [Stream.perform]
    | _ => exact absurd hop Bool.noConfusion

theorem cancelled_run_iff (hsettled : Settled s past) (ops : List Operation) :
    (s.run ops).stream.cancelled = true ↔ s.cancelled = true ∨ .shutdown ∈ ops := by
  induction ops generalizing s past with
  | nil => simp [Stream.run]
  | cons op ops ih =>
    rw [Stream.run, ih (hsettled.perform op), cancelled_perform_iff hsettled.quiet, List.mem_cons,
      or_assoc, eq_comm (a := op)]

theorem cancelled_run_create_iff (config : Config) (script : List Attempt)
    (fallback : SourceError) (ops : List Operation) :
    ((create config script fallback).run ops).stream.cancelled = true ↔ .shutdown ∈ ops := by
  rw [cancelled_run_iff (settled_create config script fallback)]
  exact or_iff_right Bool.false_ne_true

/-- A stopped task stays stopped. -/
theorem isStopped_of_moves {timed : List (Nat × Action)} (hmoves : t.Moves timed t')
    (h : t.phase.isStopped = true) : t'.phase.isStopped = true := by
  obtain ⟨-, rfl⟩ := hmoves.eq_of_gone (Or.inr (Phase.eq_stopped_of_isStopped h))
  exact h

/-- Once started, a task is stopped exactly when the stream was shut down. -/
theorem isStopped_run_iff (config : Config) (script : List Attempt) (fallback : SourceError)
    (ops : List Operation) :
    let run := (create config script fallback).run ops
    (run.stream.task.phase.isStopped = true ↔ run.stream.spawned = true ∧ .shutdown ∈ ops) := by
  intro run
  have hsettled := settled_create config script fallback
  have hsteered : Steered run.stream := (steered_create config script fallback).run hsettled ops
  rw [← cancelled_run_create_iff config script fallback]
  constructor
  · intro hstopped
    have hphase := Phase.eq_stopped_of_isStopped hstopped
    have hspawned : run.stream.spawned = true := by
      by_contra hnot
      rcases hsteered.waiting (Bool.not_eq_true _ ▸ hnot) with h | h <;>
        exact absurd (h.symm.trans hphase) Phase.noConfusion
    refine ⟨hspawned, ?_⟩
    by_contra hnot
    have hrunning := hsteered.running hspawned (Bool.not_eq_true _ ▸ hnot)
    rw [hphase] at hrunning
    exact absurd hrunning Bool.false_ne_true
  · rintro ⟨hspawned, hcancelled⟩
    rw [hsteered.stopped hspawned hcancelled]
    rfl

end Mjpeg.Stream
