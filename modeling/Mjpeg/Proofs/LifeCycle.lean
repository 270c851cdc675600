import Mathlib
import Mjpeg.Proofs.Running

/-!
# The life cycle of a connection

The states of a connection follow one another as a regular expression says (`lifeCycle`): an
attempt is made, it may become a session, and it is over, again and again. A stream that is shut
down leaves that word wherever it is and adds one more assignment. The counters of the board
count the assignments (`foldl_record_counters`).

`Standing` relates what was done to where the task stands: how far the word has come, and whether
a source is held, which is so exactly during a session. Every move preserves it
(`standing_move`), and the next attempt is made only when no source is held (`Alone`).
-/

namespace Mjpeg.Stream.Action

/-- The state that is assigned other than by being stopped. -/
def turned? : Action → Option ConnectionState
  | .connecting => some .connecting
  | .connected _ => some .streaming
  | .disconnected _ _ => some .disconnected
  | _ => none

/-- The state that is assigned. -/
def assigned? : Action → Option ConnectionState
  | .stopped => some .disconnected
  | a => a.turned?

/-- The answer to an attempt is a source. -/
def isOpened : Action → Bool
  | .opened => true
  | _ => false

/-- A source is let go of. -/
def isReleased : Action → Bool
  | .released => true
  | _ => false

/-- The action has nothing to do with the connection. -/
def isInner : Action → Bool
  | .starting | .received _ _ | .skipped _ | .published _ => true
  | _ => false

end Mjpeg.Stream.Action

namespace Mjpeg.Stream

open scoped Computability

/-! ### The word of a connection -/

/-- One attempt: it is made, it may become a session, and it is over. -/
def oneAttempt : RegularExpression ConnectionState :=
  .char .connecting * (1 + .char .streaming) * .char .disconnected

/-- One attempt after the other. -/
def lifeCycle : RegularExpression ConnectionState := oneAttempt.star

variable {word : List ConnectionState}

theorem mem_oneAttempt_iff :
    word ∈ oneAttempt.matches' ↔
      word = [.connecting, .disconnected] ∨ word = [.connecting, .streaming, .disconnected] := by
  simp only [oneAttempt, RegularExpression.matches'_mul, RegularExpression.matches'_add,
    RegularExpression.matches'_epsilon, RegularExpression.matches'_char]
  constructor
  · rintro ⟨u, ⟨v, rfl, w, hw | rfl, rfl⟩, x, rfl, rfl⟩
    · obtain rfl := hw
      exact Or.inl rfl
    · exact Or.inr rfl
  · rintro (rfl | rfl)
    · exact ⟨_, ⟨_, rfl, _, Or.inl rfl, rfl⟩, _, rfl, rfl⟩
    · exact ⟨_, ⟨_, rfl, _, Or.inr rfl, rfl⟩, _, rfl, rfl⟩

theorem nil_mem_lifeCycle : [] ∈ lifeCycle.matches' := Language.nil_mem_kstar _

/-- A word goes on with one more attempt. -/
theorem append_mem_lifeCycle {attempt : List ConnectionState} (hword : word ∈ lifeCycle.matches')
    (hattempt : attempt ∈ oneAttempt.matches') : word ++ attempt ∈ lifeCycle.matches' := by
  have hle : lifeCycle.matches' * oneAttempt.matches' ≤ lifeCycle.matches' := kstar_mul_le_kstar
  exact hle (Language.append_mem_mul hword hattempt)

/-- In a word as many attempts are over as were made, and no more were sessions. -/
theorem count_of_mem_lifeCycle (h : word ∈ lifeCycle.matches') :
    word.count .connecting = word.count .disconnected ∧
      word.count .streaming ≤ word.count .disconnected := by
  obtain ⟨attempts, rfl, hattempts⟩ := Language.mem_kstar.mp h
  clear h
  induction attempts with
  | nil => exact ⟨rfl, Nat.le_refl _⟩
  | cons attempt attempts ih =>
    obtain ⟨hattempt, hrest⟩ := List.forall_mem_cons.mp hattempts
    obtain ⟨hmade, hsessions⟩ := ih hrest
    rw [List.flatten_cons, List.count_append, List.count_append, List.count_append]
    rcases mem_oneAttempt_iff.mp hattempt with rfl | rfl
    · exact ⟨congrArg (1 + ·) hmade, by simpa using Nat.le_add_left_of_le hsessions⟩
    · exact ⟨congrArg (1 + ·) hmade, Nat.add_le_add_left hsessions 1⟩

/-! ### Assignments and counters -/

variable {past actions later : List Action}

/-- The states that some actions assign, in order. -/
def statesOf (actions : List Action) : List ConnectionState := actions.filterMap Action.assigned?

/-- The states that some actions assign other than by being stopped. -/
def turnsOf (actions : List Action) : List ConnectionState := actions.filterMap Action.turned?

/-- The state of a connection after some actions. -/
def stateOf (actions : List Action) : ConnectionState :=
  (actions.foldl Board.record {}).state

@[simp] theorem statesOf_append (actions later : List Action) :
    statesOf (actions ++ later) = statesOf actions ++ statesOf later := List.filterMap_append

@[simp] theorem turnsOf_append (actions later : List Action) :
    turnsOf (actions ++ later) = turnsOf actions ++ turnsOf later := List.filterMap_append

/-- **The board counts the assignments**, and the sources opened and let go of. -/
theorem foldl_record_counters (b : Board) (actions : List Action) :
    let board := actions.foldl Board.record b
    board.state = (statesOf actions).getLast?.getD b.state ∧
      board.attempts = b.attempts + (turnsOf actions).count .connecting ∧
      board.sessions = b.sessions + (turnsOf actions).count .streaming ∧
      board.disconnects = b.disconnects + (turnsOf actions).count .disconnected ∧
      board.opened = b.opened + actions.countP Action.isOpened ∧
      board.released = b.released + actions.countP Action.isReleased := by
  induction actions generalizing b with
  | nil => exact ⟨rfl, rfl, rfl, rfl, rfl, rfl⟩
  | cons a actions ih =>
    obtain ⟨hstate, hattempts, hsessions, hdisconnects, hopened, hreleased⟩ := ih (b.record a)
    dsimp only
    rw [List.foldl_cons, hstate, hattempts, hsessions, hdisconnects, hopened, hreleased]
    cases a <;>
      simp [statesOf, turnsOf, List.filterMap_cons, List.countP_cons, List.getLast?_cons,
        Action.assigned?, Action.turned?, Action.isOpened, Action.isReleased, Board.record,
        Board.assign, Nat.add_comm, Nat.add_left_comm]

theorem stateOf_append (past actions : List Action) :
    stateOf (past ++ actions) = (statesOf actions).getLast?.getD (stateOf past) := by
  rw [stateOf, List.foldl_append]
  exact (foldl_record_counters _ actions).1

/-! ### Where a task stands -/

/-- The state of the connection while a task stands there. -/
def Phase.state : Phase → ConnectionState
  | .connecting _ _ => .connecting
  | .streaming _ _ _ => .streaming
  | .unstarted | .dropped | .pausing _ | .stopped => .disconnected

/-- How far the word of a connection has come when a task stands there. -/
def Phase.HasCome (turns : List ConnectionState) : Phase → Prop
  | .unstarted | .dropped | .pausing _ => turns ∈ lifeCycle.matches'
  | .connecting _ _ => ∃ word ∈ lifeCycle.matches', turns = word ++ [.connecting]
  | .streaming _ _ _ => ∃ word ∈ lifeCycle.matches', turns = word ++ [.connecting, .streaming]
  | .stopped => ∃ word ∈ lifeCycle.matches', turns <+: word

variable {turns : List ConnectionState} {p : Phase}

/-- In every phase the word so far can be completed. -/
theorem Phase.HasCome.exists_prefix (h : p.HasCome turns) :
    ∃ word ∈ lifeCycle.matches', turns <+: word := by
  cases p with
  | unstarted | dropped | pausing => exact ⟨turns, h, List.prefix_refl _⟩
  | connecting =>
    obtain ⟨word, hword, rfl⟩ := h
    exact ⟨word ++ [.connecting, .disconnected],
      append_mem_lifeCycle hword (mem_oneAttempt_iff.mpr (Or.inl rfl)), [.disconnected], by simp⟩
  | streaming =>
    obtain ⟨word, hword, rfl⟩ := h
    exact ⟨word ++ [.connecting, .streaming, .disconnected],
      append_mem_lifeCycle hword (mem_oneAttempt_iff.mpr (Or.inr rfl)), [.disconnected], by simp⟩
  | stopped => exact h

/-- The end of an attempt or a session completes the word. -/
theorem Phase.HasCome.over (h : p.HasCome turns) (hstate : p.state ≠ .disconnected) :
    turns ++ [.disconnected] ∈ lifeCycle.matches' := by
  cases p with
  | unstarted | dropped | pausing | stopped => exact absurd rfl hstate
  | connecting =>
    obtain ⟨word, hword, rfl⟩ := h
    rw [List.append_assoc]
    exact append_mem_lifeCycle hword (mem_oneAttempt_iff.mpr (Or.inl rfl))
  | streaming =>
    obtain ⟨word, hword, rfl⟩ := h
    rw [List.append_assoc]
    exact append_mem_lifeCycle hword (mem_oneAttempt_iff.mpr (Or.inr rfl))

/-- How many more assignments of one state than of another have been made. -/
theorem Phase.HasCome.count (h : p.HasCome turns) (hstopped : p.isStopped = false) :
    turns.count .connecting =
        turns.count .disconnected + (if p.state = .disconnected then 0 else 1) ∧
      turns.count .streaming ≤
        turns.count .disconnected + (if p.state = .streaming then 1 else 0) := by
  cases p with
  | unstarted | dropped | pausing => exact count_of_mem_lifeCycle h
  | connecting =>
    obtain ⟨word, hword, rfl⟩ := h
    obtain ⟨hmade, hsessions⟩ := count_of_mem_lifeCycle hword
    simp [Phase.state, hmade, hsessions]
  | streaming =>
    obtain ⟨word, hword, rfl⟩ := h
    obtain ⟨hmade, hsessions⟩ := count_of_mem_lifeCycle hword
    simp [Phase.state, hmade, hsessions]
  | stopped => exact absurd hstopped (by simp [Phase.isStopped])

/-- Where a task stands goes with what it did. -/
structure Standing (past : List Action) (t : Task) : Prop where
  hasCome : t.phase.HasCome (turnsOf past)
  states : statesOf past = turnsOf past ++ if t.phase.isStopped then [.disconnected] else []
  state : stateOf past = t.phase.state
  held : past.countP Action.isOpened =
    past.countP Action.isReleased + if t.phase.state = .streaming then 1 else 0

/-- An attempt is made only when every source was let go of. -/
def Alone (past : List Action) (a : Action) : Prop :=
  a = .connecting → past.countP Action.isOpened = past.countP Action.isReleased

/-- What was done after `past`, and where the task stands then. -/
structure Comes (past actions : List Action) (t' : Task) : Prop where
  standing : Standing (past ++ actions) t'
  alone : Obeys Alone past actions

variable {t t' : Task} {now : Nat}

theorem Comes.trans (h : Comes past actions t) (h' : Comes (past ++ actions) later t') :
    Comes past (actions ++ later) t' where
  standing := by
    rw [← List.append_assoc]
    exact h'.standing
  alone := h.alone.append h'.alone

theorem obeys_alone_of_forall_ne (h : ∀ a ∈ actions, a ≠ .connecting) :
    Obeys Alone past actions := by
  rintro before a after rfl hconnecting
  exact absurd hconnecting (h a (by simp))

/-- What a task does while it runs, in so far as it has to do with the connection. -/
theorem Standing.go (h : Standing past t) (hstopped : t.phase.isStopped = false)
    (hstopped' : t'.phase.isStopped = false)
    (hcome : t'.phase.HasCome (turnsOf past ++ turnsOf actions))
    (hstates : statesOf actions = turnsOf actions)
    (hstate : (turnsOf actions).getLast?.getD t.phase.state = t'.phase.state)
    (hheld : actions.countP Action.isOpened + (if t.phase.state = .streaming then 1 else 0) =
      actions.countP Action.isReleased + if t'.phase.state = .streaming then 1 else 0) :
    Standing (past ++ actions) t' where
  hasCome := by rwa [turnsOf_append]
  states := by
    have hpast := h.states
    rw [hstopped] at hpast
    rw [statesOf_append, turnsOf_append, hpast, hstates, hstopped']
    simp
  state := by rw [stateOf_append, hstates, h.state, hstate]
  held := by
    have hpast := h.held
    rw [List.countP_append, List.countP_append]
    omega

theorem inner_eq (hactions : ∀ a ∈ actions, a.isInner = true) :
    turnsOf actions = [] ∧ statesOf actions = [] ∧ actions.countP Action.isOpened = 0 ∧
      actions.countP Action.isReleased = 0 := by
  refine ⟨List.filterMap_eq_nil_iff.mpr fun a ha => ?_,
    List.filterMap_eq_nil_iff.mpr fun a ha => ?_, List.countP_eq_zero.mpr fun a ha => ?_,
    List.countP_eq_zero.mpr fun a ha => ?_⟩ <;>
  · have hinner := hactions a ha
    cases a <;> simp_all [Action.isInner, Action.turned?, Action.assigned?, Action.isOpened,
      Action.isReleased]

theorem isInner_of_mem_chunkActions {decoder : Decoder} {bytes : Bytes} {a : Action}
    (h : a ∈ chunkActions decoder bytes) : a.isInner = true := by
  rcases List.mem_cons.mp h with rfl | h
  · rfl
  · obtain ⟨find, -, rfl⟩ := List.mem_map.mp h
    cases find <;> rfl

/-- What has nothing to do with the connection changes nothing. -/
theorem Standing.inner (h : Standing past t) (hactions : ∀ a ∈ actions, a.isInner = true) :
    Comes past actions t := by
  obtain ⟨hturns, hstates, hopened, hreleased⟩ := inner_eq hactions
  refine ⟨⟨?_, ?_, ?_, ?_⟩, obeys_alone_of_forall_ne fun a ha => ?_⟩
  · rw [turnsOf_append, hturns, List.append_nil]
    exact h.hasCome
  · rw [statesOf_append, turnsOf_append, hturns, hstates, List.append_nil, List.append_nil]
    exact h.states
  · rw [stateOf_append, hstates]
    exact h.state
  · rw [List.countP_append, List.countP_append, hopened, hreleased]
    exact h.held
  · rintro rfl
    exact absurd (hactions _ ha) Bool.false_ne_true

theorem Standing.chunk (h : Standing past t) (decoder : Decoder) (bytes : Bytes) :
    Comes past (chunkActions decoder bytes) t :=
  h.inner fun _ => isInner_of_mem_chunkActions

/-- **Every turn keeps to the life cycle.** -/
theorem standing_turn (h : Standing past t) (hturn : Turn t now actions t') :
    Comes past actions t' := by
  cases hturn with
  | attempt a now =>
    refine ⟨h.go rfl rfl ⟨_, h.hasCome, rfl⟩ rfl rfl rfl, ?_⟩
    exact (obeys_nil _ _).cons fun _ => h.held
  | refused now =>
    have hword := append_mem_lifeCycle h.hasCome (mem_oneAttempt_iff.mpr (Or.inl rfl))
    refine ⟨h.go rfl rfl hword rfl rfl rfl, Obeys.cons (fun _ => h.held) ?_⟩
    exact obeys_alone_of_forall_ne (by simp)
  | unanswered | failed | unusable | idle | closed =>
    have hword := h.hasCome.over (by simp [Phase.state])
    exact ⟨h.go rfl rfl hword rfl rfl rfl, obeys_alone_of_forall_ne (by simp)⟩
  | connected =>
    obtain ⟨word, hword, heq⟩ := h.hasCome
    refine ⟨h.go rfl rfl ⟨word, hword, ?_⟩ rfl rfl rfl, obeys_alone_of_forall_ne (by simp)⟩
    rw [heq, List.append_assoc]
    rfl
  | @chunk _ _ _ _ decoder _ _ bytes =>
    have hinner := h.chunk decoder bytes
    exact ⟨⟨hinner.standing.hasCome, hinner.standing.states, hinner.standing.state,
      hinner.standing.held⟩, hinner.alone⟩
  | @overflow _ _ _ _ decoder _ _ bytes =>
    -- the session is over behind the chunk
    have hinner := h.chunk decoder bytes
    have hword := hinner.standing.hasCome.over (by simp [Phase.state])
    exact hinner.trans ⟨hinner.standing.go rfl rfl hword rfl rfl rfl,
      obeys_alone_of_forall_ne (by simp)⟩

/-! ### Moves -/

theorem Standing.comes (h : Standing past t) : Comes past [] t where
  standing := by rwa [List.append_nil]
  alone := obeys_nil _ _

/-- A stop leaves the word wherever it is, and lets go of the source that is held. -/
theorem Standing.stopped (h : Standing past t) (hstopped : t.phase.isStopped = false)
    (hturns : turnsOf actions = []) (hstates : statesOf actions = [.disconnected])
    (hheld : actions.countP Action.isOpened + (if t.phase.state = .streaming then 1 else 0) =
      actions.countP Action.isReleased)
    (hconnecting : ∀ a ∈ actions, a ≠ .connecting) :
    Comes past actions { t with phase := .stopped } := by
  refine ⟨⟨?_, ?_, ?_, ?_⟩, obeys_alone_of_forall_ne hconnecting⟩
  · rw [turnsOf_append, hturns, List.append_nil]
    exact h.hasCome.exists_prefix
  · have hpast := h.states
    rw [hstopped] at hpast
    rw [statesOf_append, turnsOf_append, hturns, hstates, hpast]
    simp [Phase.isStopped]
  · rw [stateOf_append, hstates]
    rfl
  · have hpast := h.held
    rw [List.countP_append, List.countP_append]
    simp only [Phase.state, reduceCtorEq, if_false]
    omega

theorem standing_stop (h : Standing past t) : Comes past t.stop.1 t.stop.2 := by
  obtain ⟨config, script, fallback, phase⟩ := t
  cases phase with
  | unstarted | dropped | stopped => exact h.comes
  | pausing | connecting | streaming => exact h.stopped rfl rfl rfl rfl (by simp [Task.stop])

theorem standing_start (h : Standing past t) (now : Nat) (cancelled : Bool) :
    Comes past (t.start now cancelled).1 (t.start now cancelled).2 := by
  obtain ⟨config, script, fallback, phase⟩ := t
  cases phase with
  | unstarted =>
    cases cancelled with
    | true => exact h.stopped rfl rfl rfl rfl (by simp [Task.start])
    | false =>
      have hinner : Comes past [.starting] ⟨config, script, fallback, .unstarted⟩ :=
        h.inner (by simp [Action.isInner])
      exact ⟨⟨hinner.standing.hasCome, hinner.standing.states, hinner.standing.state,
        hinner.standing.held⟩, hinner.alone⟩
  | dropped | pausing | connecting | streaming | stopped => exact h.comes

theorem standing_drop (h : Standing past t) : Comes past [] t.drop := by
  obtain ⟨config, script, fallback, phase⟩ := t
  cases phase with
  | unstarted =>
    have hcomes := h.comes
    exact ⟨⟨hcomes.standing.hasCome, hcomes.standing.states, hcomes.standing.state,
      hcomes.standing.held⟩, hcomes.alone⟩
  | dropped | pausing | connecting | streaming | stopped => exact h.comes

/-- **Every move keeps to the life cycle.** -/
theorem standing_move {timed : List (Nat × Action)} (h : Standing past t)
    (hmove : t.Move timed t') : Comes past (timed.map (·.2)) t' := by
  cases hmove with
  | fire due =>
    rw [map_snd_map]
    exact standing_turn h (fire_turn due)
  | start now cancelled =>
    rw [map_snd_map]
    exact standing_start h now cancelled
  | stop now =>
    rw [map_snd_map]
    exact standing_stop h
  | drop => exact standing_drop h

theorem standing_moves {timed : List (Nat × Action)} (h : Standing past t)
    (hmoves : t.Moves timed t') : Comes past (timed.map (·.2)) t' := by
  induction hmoves generalizing past with
  | nil t => exact h.comes
  | cons hmove hmoves ih =>
    have hfirst := standing_move h hmove
    rw [List.map_append]
    exact hfirst.trans (ih hfirst.standing)

theorem standing_create (config : Config) (script : List Attempt) (fallback : SourceError) :
    Standing [] (create config script fallback).task where
  hasCome := nil_mem_lifeCycle
  states := rfl
  state := rfl
  held := rfl

/-! ### Whole runs -/

/-- **A connection keeps to its life cycle**, and the counters count it. Whatever is asked of a
stream, at every moment at which its task waits the states assigned are a beginning of a word of
`lifeCycle`, with one more assignment if the task was stopped; the board counts the attempts, the
sessions and what was over, without that last assignment. One source is held during a session and
none at any other time, so no attempt is made while a source is held. The task is stopped exactly
when the stream was started and shut down. -/
theorem run_lifeCycle (config : Config) (script : List Attempt) (fallback : SourceError)
    (ops : List Operation) :
    let s := create config script fallback
    let run := s.run ops
    run.stream.board = (run.actions.map (·.2)).foldl Board.record {} ∧
    (∀ before t, s.WaitsAt ops before t →
      let past := before.map (·.2)
      let board : Board := past.foldl Board.record {}
      ∃ turns, statesOf past = turns ++ (if t.phase.isStopped then [.disconnected] else []) ∧
        (∃ word ∈ lifeCycle.matches', turns <+: word) ∧
        board.state = (statesOf past).getLast?.getD .disconnected ∧
        board.attempts = turns.count .connecting ∧
        board.sessions = turns.count .streaming ∧
        board.disconnects = turns.count .disconnected ∧
        (t.phase.isStopped = false →
          board.attempts = board.disconnects + (if board.state = .disconnected then 0 else 1) ∧
          board.sessions ≤ board.disconnects + (if board.state = .streaming then 1 else 0)) ∧
        board.opened = board.released + (if board.state = .streaming then 1 else 0) ∧
        (t.phase.isStopped = true → .shutdown ∈ ops)) ∧
    (∀ before time after, run.actions = before ++ (time, .connecting) :: after →
      let board : Board := (before.map (·.2)).foldl Board.record {}
      board.opened = board.released) ∧
    (run.stream.task.phase.isStopped = true ↔ run.stream.spawned = true ∧ .shutdown ∈ ops) := by
  intro s run
  have hstart : Standing [] s.task := standing_create config script fallback
  have hgoes : Goes s run.actions run.stream := run_goes s ops
  have hstopped := isStopped_run_iff config script fallback ops
  refine ⟨hgoes.board, ?_, ?_, hstopped⟩
  · rintro before t ⟨hreached, after, -, hleft⟩ past board
    have hstanding : Standing past t := (standing_moves hstart hreached).standing
    obtain ⟨hstate, hattempts, hsessions, hdisconnects, hopened, hreleased⟩ :=
      foldl_record_counters {} past
    rw [Nat.zero_add] at hattempts hsessions hdisconnects hopened hreleased
    have hphase : board.state = t.phase.state := hstanding.state
    refine ⟨turnsOf past, hstanding.states, hstanding.hasCome.exists_prefix, hstate, hattempts,
      hsessions, hdisconnects, fun hnot => ?_, ?_, fun hstops => ?_⟩
    · rw [hattempts, hsessions, hdisconnects, hphase]
      exact hstanding.hasCome.count hnot
    · rw [hopened, hreleased, hphase]
      exact hstanding.held
    · exact (hstopped.mp (isStopped_of_moves hleft hstops)).2
  · intro before time after heq board
    have halone := (standing_moves hstart hgoes.moves).alone (before.map (·.2)) .connecting
      (after.map (·.2)) (by rw [heq]; simp) rfl
    obtain ⟨-, -, -, -, hopened, hreleased⟩ := foldl_record_counters {} (before.map (·.2))
    rw [Nat.zero_add] at hopened hreleased
    exact hopened.trans (halone.trans hreleased.symm)

/-- The first attempt is refused, the second one becomes a session. -/
theorem run_lifeCycle_second_attempt :
    let script : List Attempt :=
      [⟨0, .failed refused⟩, ⟨1, .accepted (some "a;boundary=b") []⟩]
    let s := create ⟨⟨5⟩, ⟨3⟩, 100⟩ script refused
    let ops : List Operation := [.start, .advance 6]
    let run := s.run ops
    let past := run.actions.map (·.2)
    s.WaitsAt ops run.actions run.stream.task ∧
      statesOf past = [.connecting, .disconnected, .connecting, .streaming] ∧
      run.stream.board.state = .streaming ∧
      run.stream.board.attempts = run.stream.board.disconnects + 1 ∧
      run.stream.board.opened = run.stream.board.released + 1 := by
  intro script s ops run past
  have hwaits : s.WaitsAt ops run.actions run.stream.task := waitsAt_end s ops
  have hstates : statesOf past = [.connecting, .disconnected, .connecting, .streaming] := by cbv
  have hstopped : run.stream.task.phase.isStopped = false := by cbv
  obtain ⟨hboard, hwaiting, -, -⟩ := run_lifeCycle ⟨⟨5⟩, ⟨3⟩, 100⟩ script refused ops
  obtain ⟨turns, -, -, hstate, -, -, -, hcount, hheld, -⟩ := hwaiting _ _ hwaits
  rw [← hboard] at hstate hcount hheld
  have hstreaming : run.stream.board.state = .streaming := by rw [hstate, hstates]; rfl
  have hattempts := (hcount hstopped).1
  rw [hstreaming] at hattempts hheld
  exact ⟨hwaits, hstates, hstreaming, hattempts, hheld⟩

end Mjpeg.Stream
