import Mjpeg.Stream

/-!
# What a stream does, move by move

Whatever is asked of a stream, its task only ever makes four moves (`Task.Move`): it does what
is due, it is started, stopped or dropped. Between two moves it waits. `Task.Moves` is a
sequence of moves with all that was done on the way.

Carrying a task to a given time is such a sequence (`Task.runUntil_moves`), and so is any list
of operations (`run_goes`), with the board as the record of what was done. What every move
preserves holds of a stream whatever was asked of it.

In what a task does, a chunk and what is found in it stand together. `MayWait` says of the rest
of a record that it does not begin among them; it holds wherever a move begins
(`mayWait_of_moves`), so at every moment at which a task waits while operations are carried out
(`WaitsAt`). `Obeys` is a law of a history that looks at each action and at what was done before it.
-/

namespace Mjpeg.Stream

namespace Task

/-- One move of a task: what it does, with the times, and where it stands then. -/
inductive Move (t : Task) : List (Nat × Action) → Task → Prop
  | fire {now : Nat} (due : t.due? = some now) :
      Move t ((t.fire now).1.map (now, ·)) (t.fire now).2
  | start (now : Nat) (cancelled : Bool) :
      Move t ((t.start now cancelled).1.map (now, ·)) (t.start now cancelled).2
  | stop (now : Nat) : Move t (t.stop.1.map (now, ·)) t.stop.2
  | drop : Move t [] t.drop

/-- Moves one after the other. -/
inductive Moves : Task → List (Nat × Action) → Task → Prop
  | nil (t : Task) : Moves t [] t
  | cons {t t' t'' : Task} {first later : List (Nat × Action)} :
      Move t first t' → Moves t' later t'' → Moves t (first ++ later) t''

variable {t t' t'' : Task} {actions later : List (Nat × Action)}

theorem Move.moves (h : Move t actions t') : Moves t actions t' := by
  have hmoves := Moves.cons h (Moves.nil t')
  rwa [List.append_nil] at hmoves

theorem Moves.append (h : Moves t actions t') (h' : Moves t' later t'') :
    Moves t (actions ++ later) t'' := by
  induction h with
  | nil t => exact h'
  | cons hmove hmoves ih =>
    rw [List.append_assoc]
    exact Moves.cons hmove (ih h')

/-- **Carrying a task to a time is a sequence of moves.** -/
theorem runUntil_moves (target : Nat) (t : Task) :
    Moves t (t.runUntil target).1 (t.runUntil target).2 := by
  fun_induction runUntil target t with
  | case1 t hdue => exact Moves.nil t
  | case2 t now hdue hle step run ih => exact Moves.cons (Move.fire hdue) ih
  | case3 t now hdue hlt => exact Moves.nil t

end Task

@[simp] theorem map_snd_map (now : Nat) (actions : List Action) :
    (actions.map (now, ·)).map (·.2) = actions := by
  rw [List.map_map]
  exact List.map_id _

/-! ### Where a task may wait -/

/-- The action goes on with the handling of a chunk: it skips a segment or publishes a frame. -/
def Action.isFind : Action → Bool
  | .skipped _ | .published _ => true
  | _ => false

/-- The task may be waiting before it does `after`: it is not in the middle of a chunk. -/
def MayWait (after : List Action) : Prop := ∀ a ∈ after.head?, a.isFind = false

theorem mayWait_nil : MayWait [] := by
  rintro a ⟨⟩

theorem mayWait_cons {a : Action} (h : a.isFind = false) (actions : List Action) :
    MayWait (a :: actions) := by
  rintro b ⟨⟩
  exact h

theorem mayWait_nextEvent (t : Task) (now : Nat) (decoder : Decoder)
    (body : List (Nat × BodyEvent)) : MayWait (t.nextEvent now decoder body).1 := by
  unfold Task.nextEvent
  split
  · exact mayWait_cons rfl _
  · split
    · exact mayWait_cons rfl _
    · split
      · unfold Task.receive
        dsimp only
        split <;> exact mayWait_cons rfl _
      all_goals exact mayWait_cons rfl _

theorem mayWait_answered (t : Task) (now : Nat) (a : Attempt) : MayWait (t.answered now a).1 := by
  unfold Task.answered
  split
  · exact mayWait_cons rfl _
  · split
    · exact mayWait_cons rfl _
    · exact mayWait_cons rfl _
    · split <;> exact mayWait_cons rfl _

theorem mayWait_fire (t : Task) (now : Nat) : MayWait (t.fire now).1 := by
  unfold Task.fire
  split
  · exact mayWait_nil
  · exact mayWait_nil
  · exact mayWait_nil
  · split <;> exact mayWait_cons rfl _
  · exact mayWait_answered t _ _
  · exact mayWait_nextEvent t _ _ _

theorem mayWait_of_move {t t' : Task} {timed : List (Nat × Action)} (h : t.Move timed t') :
    MayWait (timed.map (·.2)) := by
  cases h with
  | fire due =>
    rw [map_snd_map]
    exact mayWait_fire t _
  | start now cancelled =>
    rw [map_snd_map]
    unfold Task.start
    split
    · split <;> exact mayWait_cons rfl _
    · exact mayWait_nil
  | stop now =>
    rw [map_snd_map]
    unfold Task.stop
    split <;> first | exact mayWait_nil | exact mayWait_cons rfl _
  | drop => exact mayWait_nil

/-- **Between two moves a task may wait**: what it does next goes on with no chunk. -/
theorem mayWait_of_moves {t t' : Task} {timed : List (Nat × Action)} (h : t.Moves timed t') :
    MayWait (timed.map (·.2)) := by
  induction h with
  | nil t => exact mayWait_nil
  | @cons t t' t'' first later hmove hmoves ih =>
    rw [List.map_append]
    cases first with
    | nil => exact ih
    | cons a first => exact mayWait_of_move hmove

/-! ### Laws of a history -/

/-- Each of some actions obeys a law that may look at what was done before it. -/
def Obeys {α : Type} (law : List α → α → Prop) (past actions : List α) : Prop :=
  ∀ before a after, actions = before ++ a :: after → law (past ++ before) a

section Obeys

variable {α : Type} {law : List α → α → Prop} {past xs ys : List α} {x : α}

theorem obeys_nil (law : List α → α → Prop) (past : List α) : Obeys law past [] := by
  intro before a after h
  exact absurd h.symm (by simp)

theorem Obeys.cons (h : law past x) (hrest : Obeys law (past ++ [x]) xs) :
    Obeys law past (x :: xs) := by
  intro before a after heq
  cases before with
  | nil =>
    obtain ⟨rfl, -⟩ := List.cons_eq_cons.mp heq
    rwa [List.append_nil]
  | cons y before =>
    obtain ⟨rfl, htail⟩ := List.cons_eq_cons.mp heq
    have hlaw := hrest before a after htail
    rwa [List.append_assoc] at hlaw

theorem Obeys.append (h : Obeys law past xs) (h' : Obeys law (past ++ xs) ys) :
    Obeys law past (xs ++ ys) := by
  induction xs generalizing past with
  | nil => rwa [List.append_nil] at h'
  | cons x xs ih =>
    have hfirst : law past x := by simpa using h [] x xs rfl
    have hrest : Obeys law (past ++ [x]) xs := by
      intro before a after heq
      have hlaw := h (x :: before) a after (congrArg (x :: ·) heq)
      rwa [List.append_assoc]
    refine Obeys.cons hfirst (ih hrest ?_)
    rwa [List.append_assoc]

end Obeys

/-! ### Operations -/

variable {s s' s'' : Stream} {actions later : List (Nat × Action)}

/-- A stream came to another state: its task made moves, and the board recorded them. -/
structure Goes (s : Stream) (actions : List (Nat × Action)) (s' : Stream) : Prop where
  moves : s.task.Moves actions s'.task
  board : s'.board = (actions.map (·.2)).foldl Board.record s.board

/-- Nothing was done. -/
theorem goes_of_eq (htask : s'.task = s.task) (hboard : s'.board = s.board) : Goes s [] s' where
  moves := htask ▸ Task.Moves.nil s.task
  board := hboard

theorem Goes.append (h : Goes s actions s') (h' : Goes s' later s'') :
    Goes s (actions ++ later) s'' where
  moves := h.moves.append h'.moves
  board := by rw [h'.board, h.board, List.map_append, List.foldl_append]

theorem runTo_goes (s : Stream) (time : Nat) : Goes s (s.runTo time).1 (s.runTo time).2 where
  moves := s.task.runUntil_moves time
  board := rfl

theorem record_goes {task : Task} {first : List Action} {now : Nat}
    (h : s.task.Move (first.map (now, ·)) task) :
    Goes s (first.map (now, ·)) (s.record first task) where
  moves := h.moves
  board := by simp [record, Function.comp_def]

theorem start_goes (s : Stream) : Goes s s.start.1 s.start.2 := by
  have hstart := (record_goes (Task.Move.start s.now s.cancelled)).append
    (runTo_goes (s.record (s.task.start s.now s.cancelled).1
      (s.task.start s.now s.cancelled).2) s.now)
  unfold start
  dsimp only
  split
  · exact ⟨hstart.moves, hstart.board⟩
  · exact hstart

theorem shutdown_goes (s : Stream) : Goes s s.shutdown.1 s.shutdown.2 where
  moves := (Task.Move.stop s.now).moves
  board := (record_goes (Task.Move.stop s.now)).board

/-- Asking a waiter adds nothing to what was done before. -/
theorem ask_goes (h : Goes s actions s') (i : Nat) (w : Waiter) :
    Goes s (s'.ask i w actions).actions (s'.ask i w actions).stream :=
  ⟨h.moves, h.board⟩

theorem wait_goes (s : Stream) (i : Nat) (w : Waiter) (millis : Nat) :
    Goes s (s.wait i w millis).actions (s.wait i w millis).stream := by
  unfold wait
  dsimp only
  split
  · split
    · exact ask_goes (runTo_goes s _) i w
    · exact runTo_goes s _
  · exact ask_goes (goes_of_eq rfl rfl) i w

/-- **An operation is a sequence of moves.** -/
theorem perform_goes (s : Stream) (op : Operation) :
    Goes s (s.perform op).actions (s.perform op).stream := by
  cases op with
  | start => exact start_goes s
  | drop => exact ⟨Task.Move.drop.moves, rfl⟩
  | advance millis => exact runTo_goes s _
  | shutdown => exact shutdown_goes s
  | poll i =>
    dsimp only [perform]
    split
    · exact goes_of_eq rfl rfl
    · exact ask_goes (goes_of_eq rfl rfl) i _
  | wait i millis =>
    dsimp only [perform]
    split
    · exact goes_of_eq rfl rfl
    · exact wait_goes s i _ millis
  | checkFrame i | checkState i =>
    dsimp only [perform]
    split <;> exact goes_of_eq rfl rfl
  | config | clone | nextFrame | subscribe | watchState | isFinished => exact goes_of_eq rfl rfl

/-- What some operations come to. -/
structure Run where
  stream : Stream
  /-- What the task did, and when. -/
  actions : List (Nat × Action)

/-- Carries out operations one after the other. -/
def run (s : Stream) : List Operation → Run
  | [] => ⟨s, []⟩
  | op :: ops =>
    let step := s.perform op
    let later := step.stream.run ops
    ⟨later.stream, step.actions ++ later.actions⟩

theorem run_append (s : Stream) (ops later : List Operation) :
    s.run (ops ++ later) =
      ⟨((s.run ops).stream.run later).stream,
        (s.run ops).actions ++ ((s.run ops).stream.run later).actions⟩ := by
  induction ops generalizing s with
  | nil => rfl
  | cons op ops ih => simp only [List.cons_append, run, ih, List.append_assoc]

/-- **Whatever is asked of a stream, its task makes moves and the board records them.** -/
theorem run_goes (s : Stream) (ops : List Operation) :
    Goes s (s.run ops).actions (s.run ops).stream := by
  induction ops generalizing s with
  | nil => exact goes_of_eq rfl rfl
  | cons op ops ih => exact (perform_goes s op).append (ih _)

/-- While operations are carried out, the task has done `before` and waits at `t` for what it does
next. -/
structure WaitsAt (s : Stream) (ops : List Operation) (before : List (Nat × Action)) (t : Task) :
    Prop where
  reached : s.task.Moves before t
  left : ∃ after, (s.run ops).actions = before ++ after ∧ t.Moves after (s.run ops).stream.task

/-- A run ends where its task waits. -/
theorem waitsAt_end (s : Stream) (ops : List Operation) :
    s.WaitsAt ops (s.run ops).actions (s.run ops).stream.task where
  reached := (run_goes s ops).moves
  left := ⟨[], (List.append_nil _).symm, Task.Moves.nil _⟩

end Mjpeg.Stream
