import Mjpeg.Proofs.LifeCycle
import Mjpeg.Proofs.Queueing
import Mjpeg.Proofs.Sessions

/-!
# A shutdown is final

A running stream that is shut down lets go of its source and stops (`shutdown_board`).
Nothing that is asked of it afterwards moves it again: every operation leaves it stopped, does
nothing and changes nothing on the board (`IsDown.perform`).

Those who watch it get to know. A waiter that is owed nothing (`IsOwedNothing`) stays so until it
is asked, and a waiter that is made later is owed nothing, since nothing is published any more.
Such a waiter answers that there is no frame (`IsDown.reply_eq`).
-/

namespace Mjpeg.Stream

variable {s s' : Stream} {op : Operation} {actions : List (Nat × Action)} {i : Nat}

/-! ### The moment of the shutdown -/

/-- A stream was started and is shut down. -/
structure IsDown (s : Stream) : Prop where
  phase : s.task.phase = .stopped
  cancelled : s.cancelled = true
  spawned : s.spawned = true

/-- A running stream was started. -/
theorem Steered.spawned (h : Steered s) (hrunning : s.task.phase.isRunning = true) :
    s.spawned = true := by
  by_contra hnot
  rcases h.waiting (Bool.not_eq_true _ ▸ hnot) with hphase | hphase <;>
  · rw [hphase] at hrunning
    exact absurd hrunning Bool.false_ne_true

theorem isDown_shutdown (hrunning : s.task.phase.isRunning = true) (hspawned : s.spawned = true) :
    IsDown s.shutdown.2 where
  phase := by
    obtain ⟨⟨config, script, fallback, phase⟩, _⟩ := s
    cases phase with
    | unstarted | dropped | stopped => exact absurd hrunning Bool.false_ne_true
    | pausing | connecting | streaming => rfl
  cancelled := rfl
  spawned := hspawned

/-- A shutdown assigns the state, lets go of the source that is held, and changes nothing else on
the board. -/
theorem shutdown_board (hrunning : s.task.phase.isRunning = true)
    (hheld : s.board.opened =
      s.board.released + if s.task.phase.state = .streaming then 1 else 0) :
    s.shutdown.2.board =
      { s.board with
        state := .disconnected
        assignments := s.board.assignments + 1
        released := s.board.opened } := by
  obtain ⟨⟨config, script, fallback, phase⟩, now, board, _⟩ := s
  obtain ⟨state, attempts, sessions, frames, malformed, disconnects, published, assignments,
    opened, released⟩ := board
  dsimp only at hheld
  cases phase with
  | unstarted | dropped | stopped => exact absurd hrunning Bool.false_ne_true
  | pausing | connecting =>
    obtain rfl : opened = released := hheld
    rfl
  | streaming =>
    obtain rfl : opened = released + 1 := hheld
    rfl

/-! ### After the shutdown -/

/-- Nothing is due in a stream that is down. -/
theorem IsDown.isQuiet (h : IsDown s) : IsQuiet s := by
  intro due hdue
  rw [Task.due?_of_not_isRunning (by rw [h.phase]; rfl)] at hdue
  exact absurd hdue (by simp)

/-- A stream came to another state in which it is down: nothing was done, and the board shows what
it showed before. -/
structure StaysDown (s : Stream) (actions : List (Nat × Action)) (s' : Stream) : Prop where
  isDown : IsDown s'
  actions_eq : actions = []
  board : s'.board = s.board

/-- Time passes, and nothing happens. -/
theorem IsDown.passes (h : IsDown s) (hpasses : Passes s actions s') : StaysDown s actions s' := by
  obtain ⟨time, -, hactions, hsame⟩ := hpasses
  have hnothing : s.task.runUntil time = ([], s.task) :=
    Task.runUntil_of_not_isRunning (by rw [h.phase]; rfl) time
  refine ⟨⟨?_, ?_, ?_⟩, ?_, ?_⟩
  · rw [hsame.task, runTo_task, hnothing, h.phase]
  · rw [hsame.cancelled, runTo_cancelled, h.cancelled]
  · rw [hsame.spawned, runTo_spawned, h.spawned]
  · rw [hactions, runTo_fst, hnothing]
  · rw [hsame.board]
    change (((s.task.runUntil time).1.map (·.2)).foldl Board.record s.board) = s.board
    rw [hnothing]
    rfl

/-- **Nothing moves a stream that is down.** -/
theorem IsDown.perform (h : IsDown s) (op : Operation) :
    StaysDown s (s.perform op).actions (s.perform op).stream := by
  cases hop : op.isSteering with
  | false => exact h.passes (h.isQuiet.perform hop)
  | true =>
    cases op with
    | start =>
      have hstart : s.start = s.runTo s.now := start_eq_runTo (by simp [h.phase])
      refine h.passes ?_
      simp only [Stream.perform, hstart]
      exact passes_runTo (Nat.le_refl _)
    | shutdown =>
      obtain ⟨⟨config, script, fallback, phase⟩, _⟩ := s
      obtain rfl : phase = .stopped := h.phase
      exact ⟨⟨rfl, rfl, h.spawned⟩, rfl, rfl⟩
    | drop =>
      obtain ⟨⟨config, script, fallback, phase⟩, _⟩ := s
      obtain rfl : phase = .stopped := h.phase
      exact ⟨⟨rfl, h.cancelled, h.spawned⟩, rfl, rfl⟩
    | _ => exact absurd hop Bool.noConfusion

theorem IsDown.isFinished (h : IsDown s) : (s.perform .isFinished).reply = .flag true := by
  simp [Stream.perform, isGone, h.spawned, h.phase]

/-! ### Those who wait -/

/-- The operation asks the waiter. -/
def Operation.asks (i : Nat) : Operation → Bool
  | .poll j | .wait j _ => i == j
  | _ => false

/-- The waiter has not answered, and no frame was published since it was made. -/
def IsOwedNothing (s : Stream) (i : Nat) : Prop :=
  ∀ w ∈ s.waiters[i]?, w.finished = false ∧ s.board.published.length ≤ w.seen

/-- A waiter that is not asked stays as it is. One may be made, from the frames published so far. -/
theorem waiters_perform (hop : op.asks i = false) :
    (s.perform op).stream.waiters[i]? = s.waiters[i]? ∨
      i = s.waiters.length ∧
        (s.perform op).stream.waiters[i]? = some ⟨s.board.frames, false⟩ := by
  have hset : ∀ j w, (i == j) = false → (s.waiters.set j w)[i]? = s.waiters[i]? :=
    fun j w hne => List.getElem?_set_ne (Ne.symm (by simpa using hne))
  cases op with
  | start =>
    refine Or.inl ?_
    simp only [Stream.perform, Stream.start]
    split <;> rfl
  | nextFrame =>
    simp only [Stream.perform, List.getElem?_append]
    split
    · exact Or.inl rfl
    · rename_i hlen
      cases hsub : i - s.waiters.length with
      | zero => exact Or.inr ⟨by omega, rfl⟩
      | succ n => exact Or.inl (List.getElem?_eq_none (Nat.le_of_not_lt hlen)).symm
  | poll j =>
    dsimp only [Stream.perform]
    split
    · exact Or.inl rfl
    · exact Or.inl (hset j _ hop)
  | wait j millis =>
    dsimp only [Stream.perform]
    split
    · exact Or.inl rfl
    · unfold Stream.wait
      dsimp only
      split
      · split
        · exact Or.inl (hset j _ hop)
        · exact Or.inl rfl
      · exact Or.inl (hset j _ hop)
  | checkFrame j | checkState j =>
    dsimp only [Stream.perform]
    split <;> exact Or.inl rfl
  | config | drop | advance | shutdown | clone | subscribe | watchState | isFinished =>
    exact Or.inl rfl

/-- A waiter that is owed nothing is owed nothing until it is asked. -/
theorem IsOwedNothing.perform (h : IsOwedNothing s i)
    (hframes : s.board.frames = s.board.published.length)
    (hboard : (s.perform op).stream.board = s.board) (hop : op.asks i = false) :
    IsOwedNothing (s.perform op).stream i := by
  intro w hw
  rw [hboard]
  rcases waiters_perform hop with hsame | ⟨-, hnew⟩
  · exact h w (hsame ▸ hw)
  · obtain rfl := Option.some.inj (hnew.symm.trans hw)
    exact ⟨rfl, hframes.ge⟩

/-- A waiter that is owed nothing answers that there is no frame. -/
theorem IsDown.reply_eq (h : IsDown s) (howed : IsOwedNothing s i) (hi : i < s.waiters.length)
    (hop : op.asks i = true) : (s.perform op).reply = .waiter (.frame none) := by
  obtain ⟨w, hw⟩ : ∃ w, s.waiters[i]? = some w := ⟨_, List.getElem?_eq_getElem hi⟩
  obtain ⟨hfinished, hseen⟩ := howed w hw
  have hover : s.isOver = true := by rw [isOver, h.cancelled, Bool.true_or]
  have hpoll : (w.poll s.board.published s.isOver).1 = .frame none := by
    rw [Waiter.poll_of_le hfinished hseen, hover]
    rfl
  have hask : (s.ask i w []).reply = .waiter (.frame none) := congrArg Reply.waiter hpoll
  cases op with
  | poll j =>
    obtain rfl : i = j := by simpa [Operation.asks] using hop
    simp only [Stream.perform, hw]
    exact hask
  | wait j millis =>
    obtain rfl : i = j := by simpa [Operation.asks] using hop
    simp only [Stream.perform, hw]
    unfold Stream.wait
    rw [hpoll, if_neg (by simp)]
    exact hask
  | _ => exact absurd hop Bool.noConfusion

/-! ### Whole runs -/

theorem IsDown.run (h : IsDown s) (ops : List Operation) :
    StaysDown s (s.run ops).actions (s.run ops).stream := by
  induction ops generalizing s with
  | nil => exact ⟨h, rfl, rfl⟩
  | cons op ops ih =>
    obtain ⟨hdown, hactions, hboard⟩ := h.perform op
    obtain ⟨hdown', hactions', hboard'⟩ := ih hdown
    refine ⟨hdown', ?_, hboard'.trans hboard⟩
    rw [Stream.run, hactions, hactions', List.append_nil]

theorem IsOwedNothing.run (howed : IsOwedNothing s i) (h : IsDown s)
    (hframes : s.board.frames = s.board.published.length) (ops : List Operation)
    (hops : ∀ op ∈ ops, op.asks i = false) : IsOwedNothing (s.run ops).stream i := by
  induction ops generalizing s with
  | nil => exact howed
  | cons op ops ih =>
    obtain ⟨hop, hrest⟩ := List.forall_mem_cons.mp hops
    have hstep := h.perform op
    refine ih (howed.perform hframes hstep.board hop) hstep.isDown ?_ hrest
    rw [hstep.board, hframes]

/-- **A shutdown is final.** Whatever was asked before, a running stream that is shut down assigns
`disconnected` and lets go of its source, and nothing else changes on the board: no attempt and
no frame is added, and the shutdown does not count as a disconnect. Whatever is asked
afterwards, the task is finished, does nothing more and leaves the board as it is, with the last
frame published before as the latest one. A waiter that had not answered and had no frame to come,
or was made afterwards, answers the first time it is asked that there is no frame. -/
theorem run_shutdown_final (config : Config) (script : List Attempt) (fallback : SourceError)
    (ops : List Operation)
    (hrunning :
      ((create config script fallback).run ops).stream.task.phase.isRunning = true) :
    let run := (create config script fallback).run ops
    let board := run.stream.board
    let down := run.stream.perform .shutdown
    down.stream.board =
      { board with
        state := .disconnected
        assignments := board.assignments + 1
        released := board.opened } ∧
    board.latest? = (publishedOf (run.actions.map (·.2))).getLast? ∧
    ∀ later : List Operation,
      let run' := down.stream.run later
      run'.actions = [] ∧ run'.stream.board = down.stream.board ∧
      run'.stream.cancelled = true ∧ (run'.stream.perform .isFinished).reply = .flag true ∧
      ∀ i < run'.stream.waiters.length,
        (∀ w ∈ run.stream.waiters[i]?, w.finished = false ∧ board.published.length ≤ w.seen) →
        (∀ op ∈ later, op.asks i = false) →
        ∀ op : Operation, op.asks i = true →
          (run'.stream.perform op).reply = .waiter (.frame none) := by
  intro run board down
  have hgoes : Goes _ run.actions run.stream := run_goes _ ops
  have hsettled := settled_create config script fallback
  have hsteered : Steered run.stream := (steered_create config script fallback).run hsettled ops
  have hstanding := (standing_moves (standing_create config script fallback) hgoes.moves).standing
  have hrecord : board = (run.actions.map (·.2)).foldl Board.record {} := hgoes.board
  obtain ⟨hpublished, hframes, -⟩ := foldl_record {} (run.actions.map (·.2))
  rw [← hrecord] at hpublished hframes
  have hcount : board.frames = board.published.length := by
    rw [hpublished, hframes]
    simp
  have hheld : board.opened =
      board.released + if run.stream.task.phase.state = .streaming then 1 else 0 := by
    obtain ⟨-, -, -, -, hopened, hreleased⟩ := foldl_record_counters {} (run.actions.map (·.2))
    rw [← hrecord, Nat.zero_add] at hopened hreleased
    rw [hopened, hreleased]
    exact hstanding.held
  have hboard := shutdown_board hrunning hheld
  have hdown : IsDown down.stream := isDown_shutdown hrunning (hsteered.spawned hrunning)
  refine ⟨hboard, ?_, ?_⟩
  · rw [Board.latest?, hpublished, List.append_nil, List.head?_reverse]
  · intro later run'
    obtain ⟨hdown', hactions', hboard'⟩ := hdown.run later
    refine ⟨hactions', hboard', hdown'.cancelled, hdown'.isFinished,
      fun i hi howed hlater op hop => ?_⟩
    have hsame : down.stream.board.published = board.published :=
      (congrArg Board.published hboard).trans rfl
    have hcount' : down.stream.board.frames = down.stream.board.published.length := by
      rw [hsame, ← hcount]
      exact (congrArg Board.frames hboard).trans rfl
    have howed' : IsOwedNothing down.stream i := fun w hw => by
      rw [hsame]
      exact howed w hw
    exact hdown'.reply_eq (howed'.run hdown hcount' later hlater) hi hop

/-- A session is shut down while somebody waits, and somebody else comes to wait afterwards. -/
theorem run_shutdown_final_session :
    let script : List Attempt := [⟨0, .accepted (some "a;boundary=b") []⟩]
    let run := (create ⟨⟨5⟩, ⟨3⟩, 100⟩ script refused).run [.start, .nextFrame]
    let down := run.stream.perform .shutdown
    let run' := down.stream.run [.nextFrame, .advance 100]
    run.stream.task.phase.isRunning = true ∧
      run.stream.board.state = .streaming ∧ run.stream.board.disconnects = 0 ∧
      down.stream.board.state = .disconnected ∧ down.stream.board.disconnects = 0 ∧
      down.stream.board.released = down.stream.board.opened ∧ run'.actions = [] ∧
      (run'.stream.perform (.poll 0)).reply = .waiter (.frame none) ∧
      (run'.stream.perform (.wait 1 5)).reply = .waiter (.frame none) := by
  intro script run down run'
  have hrunning : run.stream.task.phase.isRunning = true := by cbv
  have hstate : run.stream.board.state = .streaming := by cbv
  have hdisconnects : run.stream.board.disconnects = 0 := by cbv
  obtain ⟨hboard, -, hlater⟩ :=
    run_shutdown_final ⟨⟨5⟩, ⟨3⟩, 100⟩ script refused [.start, .nextFrame] hrunning
  obtain ⟨hactions, -, -, -, hwaiters⟩ := hlater [.nextFrame, .advance 100]
  have hlength : run'.stream.waiters.length = 2 := by cbv
  have hfirst : run.stream.waiters = [⟨0, false⟩] := by cbv
  have hpublished : run.stream.board.published = [] := by cbv
  have howed : ∀ (i : Nat) (w : Waiter), w ∈ run.stream.waiters[i]? →
      w.finished = false ∧ run.stream.board.published.length ≤ w.seen := by
    intro i w hw
    rw [hfirst] at hw
    obtain rfl := List.mem_singleton.mp (List.mem_of_getElem? hw)
    exact ⟨rfl, hpublished ▸ Nat.le_refl _⟩
  refine ⟨hrunning, hstate, hdisconnects, ?_, ?_, ?_, hactions, ?_, ?_⟩
  · exact (congrArg Board.state hboard).trans rfl
  · exact (congrArg Board.disconnects hboard).trans hdisconnects
  · exact (congrArg Board.released hboard).trans (congrArg Board.opened hboard).symm
  · exact hwaiters 0 (hlength ▸ Nat.zero_lt_two) (howed 0) (by decide) (.poll 0) rfl
  · exact hwaiters 1 (hlength ▸ Nat.one_lt_two) (howed 1) (by decide) (.wait 1 5) rfl

end Mjpeg.Stream
