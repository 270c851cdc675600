import Mjpeg.Proofs.LifeCycle

/-!
# When a stream reconnects, and when it gives up waiting

`Watch` is what a history shows of the times: when the last attempt was made, when the other side
was last heard of, when the last attempt or session was over, and how many there were. Together
with the script it says what is waited for (`Watch.awaited?`). `Watch.Allows` is the law of a
single action at a given time. An attempt is made one pause after the one before was over, what is
waited for is heard of when it comes, and nothing is given up before it is late.

A running task agrees with the watch (`OnTime`), every turn preserves this and keeps the law
(`onTime_turn`), and between two operations nothing is due (`OnTime.due?`). So the law holds of
whole runs, and a stream neither waits longer than it may nor pauses longer than it should.
-/

namespace Mjpeg.Stream

/-! ### What a history shows of the times -/

/-- What a history shows of the times. -/
structure Watch where
  state : ConnectionState := .disconnected
  /-- When the last attempt was made. -/
  tried : Nat := 0
  /-- The last sign of life: an attempt was made, answered, or a chunk arrived. -/
  heard : Nat := 0
  /-- When the last attempt or session was over. -/
  ended : Nat := 0
  attempts : Nat := 0
  disconnects : Nat := 0
  /-- How many chunks arrived since the last answer. -/
  chunks : Nat := 0

namespace Watch

/-- The watch after one more action. -/
def note (w : Watch) : Nat × Action → Watch
  | (now, .connecting) =>
    { w with state := .connecting, tried := now, heard := now, attempts := w.attempts + 1 }
  | (now, .connected _) => { w with state := .streaming, heard := now, chunks := 0 }
  | (now, .received _ _) => { w with heard := now, chunks := w.chunks + 1 }
  | (now, .disconnected _ _) =>
    { w with state := .disconnected, ended := now, disconnects := w.disconnects + 1 }
  | (_, .stopped) => { w with state := .disconnected }
  | (_, .starting) | (_, .opened) | (_, .skipped _) | (_, .published _) | (_, .released) => w

/-- The events of the session under way. -/
def body? (w : Watch) (script : List Attempt) : Option (List (Nat × BodyEvent)) :=
  match script[w.disconnects]? with
  | some ⟨_, .accepted _ body⟩ => some body
  | _ => none

/-- The time from the last sign of life until what is waited for comes, if it does. Past the
script an attempt fails at once. -/
def awaited? (w : Watch) (script : List Attempt) : Option Nat :=
  match w.state with
  | .streaming => (w.body? script).bind fun body => nextTime? (body.drop w.chunks)
  | .disconnected | .connecting =>
    match script[w.disconnects]? with
    | none => some 0
    | some a => a.answerTime?

end Watch

/-- The watch after some actions. -/
def watchOf (past : List (Nat × Action)) : Watch := past.foldl Watch.note {}

/-- Every event of a session comes in time, until the other side ends it. -/
def comesInTime (limit : Nat) : List (Nat × BodyEvent) → Bool
  | [] | (_, .stalled) :: _ => false
  | (delay, .chunk _) :: body => delay ≤ limit && comesInTime limit body
  | (delay, .ended) :: _ | (delay, .failed _) :: _ => delay ≤ limit

/-- What a watch allows at the time `now`.

* The next attempt is made a pause after the one before was over, hence no less than a pause after
  it was made, and exactly the limit and a pause after it was made if its answer is late.
* What is heard of comes when it is due, which is not after the limit.
* An attempt or a session is given up at the limit, and only when what is waited for is late. -/
def Watch.Allows (config : Config) (script : List Attempt) (w : Watch) (now : Nat) :
    Action → Prop
  | .connecting => ∀ k, w.attempts = k + 1 →
      w.disconnects = k + 1 ∧
      now = w.ended + config.retryDelay.millis ∧
      w.tried + config.retryDelay.millis ≤ now ∧
      ∀ a ∈ script[k]?, IsLate config.idleTimeout.millis a.answerTime? →
        now = w.tried + config.idleTimeout.millis + config.retryDelay.millis
  | .connected _ | .received _ _ | .disconnected .ended _ | .disconnected (.source _) _ =>
      ∃ delay ∈ w.awaited? script,
        delay ≤ config.idleTimeout.millis ∧ now = w.heard + delay
  | .disconnected (.connectTimeout _) _ =>
      w.state = .connecting ∧ now = w.heard + config.idleTimeout.millis ∧
      IsLate config.idleTimeout.millis (w.awaited? script)
  | .disconnected (.idle _) _ =>
      w.state = .streaming ∧ now = w.heard + config.idleTimeout.millis ∧
      IsLate config.idleTimeout.millis (w.awaited? script) ∧
      ∃ body ∈ w.body? script, comesInTime config.idleTimeout.millis body = false
  | .starting | .opened | .skipped _ | .published _ | .released | .disconnected (.frame _) _
  | .stopped => True

/-- An action keeps time: the watch allows it, and while something is waited for, it comes no
later than the limit after the last sign of life. -/
structure Watch.KeepsTime (config : Config) (script : List Attempt) (w : Watch)
    (x : Nat × Action) : Prop where
  allowed : w.Allows config script x.1 x.2
  inTime : w.state ≠ .disconnected →
    w.heard ≤ x.1 ∧ x.1 ≤ w.heard + config.idleTimeout.millis

@[simp] theorem watchOf_append_singleton (past : List (Nat × Action)) (x : Nat × Action) :
    watchOf (past ++ [x]) = (watchOf past).note x := by
  rw [watchOf, List.foldl_append]
  rfl

/-- The watch counts what the board counts. -/
theorem watchOf_eq_board (past : List (Nat × Action)) :
    let board : Board := (past.map (·.2)).foldl Board.record {}
    (watchOf past).state = board.state ∧ (watchOf past).attempts = board.attempts ∧
      (watchOf past).disconnects = board.disconnects := by
  induction past using List.reverseRecOn with
  | nil => exact ⟨rfl, rfl, rfl⟩
  | append_singleton past x ih =>
    obtain ⟨hstate, hattempts, hdisconnects⟩ := ih
    obtain ⟨now, a⟩ := x
    simp only [watchOf_append_singleton, List.map_append, List.map_cons, List.map_nil,
      List.foldl_append, List.foldl_cons, List.foldl_nil]
    cases a <;>
      simp [Watch.note, Board.record, Board.assign, hstate, hattempts, hdisconnects]

/-! ### Where a task stands and what the watch shows -/

/-- The watch in a pause that ends at the time `wake`. -/
structure Watch.Pauses (config : Config) (script : List Attempt) (w : Watch) (wake : Nat) :
    Prop where
  state : w.state = .disconnected
  counts : w.disconnects = w.attempts
  wake : ∀ k, w.attempts = k + 1 → wake = w.ended + config.retryDelay.millis
  tried : w.tried ≤ w.ended
  late : ∀ k, w.attempts = k + 1 → ∀ a ∈ script[k]?,
    IsLate config.idleTimeout.millis a.answerTime? →
      w.ended = w.tried + config.idleTimeout.millis

/-- The watch while something has been waited for since the time `since`. -/
structure Watch.Waits (w : Watch) (since : Nat) : Prop where
  heard : w.heard = since
  tried : w.tried ≤ since
  counts : w.attempts = w.disconnects + 1

/-- The watch while the attempt `a`, made at the time `since`, is not answered. -/
structure Watch.Tries (script : List Attempt) (w : Watch) (since : Nat) (a : Attempt) : Prop where
  waits : w.Waits since
  state : w.state = .connecting
  tried : w.tried = since
  attempt : script[w.disconnects]? = some a

/-- The watch during a session that was last heard of at the time `since`, with `body` to come. -/
structure Watch.Hears (config : Config) (script : List Attempt) (w : Watch) (since : Nat)
    (body : List (Nat × BodyEvent)) : Prop where
  waits : w.Waits since
  state : w.state = .streaming
  session : ∃ delay contentType full,
    script[w.disconnects]? = some ⟨delay, .accepted contentType full⟩ ∧
      delay ≤ config.idleTimeout.millis ∧ body = full.drop w.chunks ∧
      (comesInTime config.idleTimeout.millis full = true →
        comesInTime config.idleTimeout.millis body = true)

/-- The watch shows the times of a phase. -/
def Phase.Agrees (config : Config) (script : List Attempt) (w : Watch) : Phase → Prop
  | .unstarted | .dropped => w.state = .disconnected ∧ w.attempts = 0 ∧ w.disconnects = 0 ∧
      w.tried ≤ w.ended
  | .pausing wake => w.Pauses config script wake
  | .connecting since a => w.Tries script since a
  | .streaming since _ body => w.Hears config script since body
  | .stopped => True

/-- The task stands where the watch shows it, and has this script left. -/
structure OnTime (config : Config) (script : List Attempt) (w : Watch) (t : Task) : Prop where
  config_eq : t.config = config
  script_eq : t.script = script.drop w.attempts
  agrees : t.phase.Agrees config script w

/-- What is done once the watch shows `w` keeps time, and the task is on time then. -/
structure StaysOnTime (config : Config) (script : List Attempt) (w : Watch)
    (timed : List (Nat × Action)) (t' : Task) : Prop where
  onTime : OnTime config script (timed.foldl Watch.note w) t'
  keeps : Obeys (fun past => (past.foldl Watch.note w).KeepsTime config script) [] timed

variable {config : Config} {script left : List Attempt} {fallback : SourceError}
  {timed later : List (Nat × Action)} {x : Nat × Action} {t t' : Task} {now since delay : Nat}
  {w : Watch} {a : Attempt}

theorem OnTime.stays (h : OnTime config script w t) : StaysOnTime config script w [] t where
  onTime := h
  keeps := obeys_nil _ _

/-- One more action that keeps time. -/
theorem StaysOnTime.cons (h : w.KeepsTime config script x)
    (h' : StaysOnTime config script (w.note x) later t') :
    StaysOnTime config script w (x :: later) t' where
  onTime := h'.onTime
  keeps := Obeys.cons h h'.keeps

theorem StaysOnTime.append (h : StaysOnTime config script w timed t)
    (h' : StaysOnTime config script (timed.foldl Watch.note w) later t') :
    StaysOnTime config script w (timed ++ later) t' where
  onTime := by
    rw [List.foldl_append]
    exact h'.onTime
  keeps := by
    refine h.keeps.append fun before x after heq => ?_
    have hkeeps := h'.keeps before x after heq
    rwa [List.nil_append, ← List.foldl_append] at hkeeps

/-! ### One turn -/

/-- After a pause the next attempt is allowed. -/
theorem Watch.Pauses.keepsTime (h : w.Pauses config script now) :
    w.KeepsTime config script (now, .connecting) where
  allowed := fun k hk => by
    have hwake := h.wake k hk
    refine ⟨h.counts.trans hk, hwake, ?_, fun a ha hlate => ?_⟩
    · rw [hwake]
      exact Nat.add_le_add_right h.tried _
    · rw [hwake, h.late k hk a ha hlate]
  inTime := fun hstate => absurd h.state hstate

theorem Watch.Waits.add_eq (h : w.Waits since) (delay : Nat) : since + delay = w.heard + delay :=
  congrArg (· + delay) h.heard.symm

/-- What is done within the limit keeps time if it is allowed. -/
theorem Watch.Waits.keepsTime {act : Action} (h : w.Waits since)
    (hle : delay ≤ config.idleTimeout.millis)
    (hallowed : w.Allows config script (since + delay) act) :
    w.KeepsTime config script (since + delay, act) where
  allowed := hallowed
  inTime := fun _ => by
    rw [h.add_eq delay]
    exact ⟨Nat.le_add_right _ _, Nat.add_le_add_left hle _⟩

/-- The end of an attempt or a session begins a pause. -/
theorem Watch.Waits.over {reason : Failure} {retryIn : Duration} (h : w.Waits since)
    (hscript : left = script.drop w.attempts) (hle : delay ≤ config.idleTimeout.millis)
    (hallowed : w.Allows config script (since + delay) (.disconnected reason retryIn))
    (hlate : ∀ a ∈ script[w.disconnects]?, IsLate config.idleTimeout.millis a.answerTime? →
      since + delay = w.tried + config.idleTimeout.millis) :
    StaysOnTime config script w [(since + delay, .disconnected reason retryIn)]
      ⟨config, left, fallback, .pausing (since + delay + config.retryDelay.millis)⟩ := by
  refine StaysOnTime.cons (h.keepsTime hle hallowed) (OnTime.stays ⟨rfl, hscript, ?_⟩)
  exact {
    state := rfl
    counts := h.counts.symm
    wake := fun _ _ => rfl
    tried := h.tried.trans (Nat.le_add_right _ _)
    late := fun k hk => by
      obtain rfl : w.disconnects = k := Nat.succ_inj.mp (h.counts.symm.trans hk)
      exact hlate }

theorem Watch.Tries.awaited?_eq (h : w.Tries script since a) :
    w.awaited? script = a.answerTime? := by
  rw [Watch.awaited?, h.state]
  dsimp only
  rw [h.attempt]

/-- The end of an attempt. -/
theorem Watch.Tries.over {reason : Failure} {retryIn : Duration} (h : w.Tries script since a)
    (hscript : left = script.drop w.attempts) (hle : delay ≤ config.idleTimeout.millis)
    (hallowed : w.Allows config script (since + delay) (.disconnected reason retryIn))
    (hlate : IsLate config.idleTimeout.millis a.answerTime? → delay = config.idleTimeout.millis) :
    StaysOnTime config script w [(since + delay, .disconnected reason retryIn)]
      ⟨config, left, fallback, .pausing (since + delay + config.retryDelay.millis)⟩ := by
  refine h.waits.over hscript hle hallowed fun a' ha' hlate' => ?_
  obtain rfl := Option.some.inj (h.attempt.symm.trans ha')
  rw [h.tried, hlate hlate']

section Hears

variable {body : List (Nat × BodyEvent)}

theorem Watch.Hears.awaited?_eq (h : w.Hears config script since body) :
    w.awaited? script = nextTime? body := by
  obtain ⟨delay, contentType, full, hsession, -, rfl, -⟩ := h.session
  simp only [Watch.awaited?, h.state, Watch.body?, hsession, Option.bind_some]

/-- A session with a late event is not one that comes in time. -/
theorem Watch.Hears.comesInTime_eq_false (h : w.Hears config script since body)
    (hlate : IsLate config.idleTimeout.millis (nextTime? body)) :
    ∃ full ∈ w.body? script, comesInTime config.idleTimeout.millis full = false := by
  obtain ⟨delay, contentType, full, hsession, -, -, htime⟩ := h.session
  have hbody : comesInTime config.idleTimeout.millis body = false := by
    cases body with
    | nil => rfl
    | cons event body =>
      obtain ⟨delay, event⟩ := event
      cases event with
      | stalled => rfl
      | chunk | ended | failed =>
        have hlt := isLate_some_iff.mp hlate
        simp [comesInTime, Nat.not_le.mpr hlt]
  refine ⟨full, by simp only [Watch.body?, hsession, Option.mem_some_iff], ?_⟩
  by_contra hnot
  exact absurd (hbody.symm.trans (htime (Bool.not_eq_false _ ▸ hnot))) Bool.false_ne_true

/-- The end of a session. -/
theorem Watch.Hears.over {reason : Failure} {retryIn : Duration}
    (h : w.Hears config script since body)
    (hscript : left = script.drop w.attempts) (hle : delay ≤ config.idleTimeout.millis)
    (hallowed : w.Allows config script (since + delay) (.disconnected reason retryIn)) :
    StaysOnTime config script w
      [(since + delay, .released), (since + delay, .disconnected reason retryIn)]
      ⟨config, left, fallback, .pausing (since + delay + config.retryDelay.millis)⟩ := by
  refine StaysOnTime.cons (h.waits.keepsTime hle trivial) ?_
  refine h.waits.over hscript hle hallowed fun a ha hlate => ?_
  -- the answer that opened the session was not late
  obtain ⟨delay, contentType, full, hsession, hdelay, -, -⟩ := h.session
  obtain rfl := Option.some.inj (hsession.symm.trans ha)
  exact absurd (isLate_some_iff.mp hlate) (Nat.not_lt.mpr hdelay)

/-- A chunk that comes in time is a sign of life. -/
theorem Watch.Hears.received {bytes : Bytes} (h : w.Hears config script since
    ((delay, .chunk bytes) :: body)) (buffered : Nat) :
    (w.note (since + delay, .received bytes buffered)).Hears config script (since + delay)
      body where
  waits := ⟨rfl, h.waits.tried.trans (Nat.le_add_right _ _), h.waits.counts⟩
  state := h.state
  session := by
    obtain ⟨delay', contentType, full, hsession, hdelay, hbody, htime⟩ := h.session
    refine ⟨delay', contentType, full, hsession, hdelay, ?_, fun hfull => ?_⟩
    · change body = full.drop (w.chunks + 1)
      rw [← List.tail_drop, ← hbody, List.tail_cons]
    · have hcomes := htime hfull
      rw [comesInTime, Bool.and_eq_true] at hcomes
      exact hcomes.2

/-- What is found in a chunk is found at once. -/
theorem OnTime.finds (h : OnTime config script w t) (hwaits : w.Waits now)
    (finds : List Decoder.Find) :
    StaysOnTime config script w ((finds.map Task.actionOfFind).map (now, ·)) t := by
  induction finds with
  | nil => exact h.stays
  | cons find finds ih =>
    cases find with
    | malformed | frame => exact StaysOnTime.cons (hwaits.keepsTime (Nat.zero_le _) trivial) ih

/-- A chunk that comes in time, and all that is found in it. -/
theorem Watch.Hears.chunk {bytes : Bytes} {decoder' : Decoder}
    (h : w.Hears config script since ((delay, .chunk bytes) :: body))
    (hscript : left = script.drop w.attempts) (hle : delay ≤ config.idleTimeout.millis)
    (decoder : Decoder) :
    StaysOnTime config script w ((chunkActions decoder bytes).map (since + delay, ·))
      ⟨config, left, fallback, .streaming (since + delay) decoder' body⟩ := by
  have hreceived := h.received decoder.buffered
  have hallowed : w.Allows config script (since + delay) (.received bytes decoder.buffered) :=
    ⟨delay, h.awaited?_eq, hle, h.waits.add_eq delay⟩
  have honTime : OnTime config script (w.note (since + delay, .received bytes decoder.buffered))
      ⟨config, left, fallback, .streaming (since + delay) decoder' body⟩ :=
    ⟨rfl, hscript, hreceived⟩
  exact StaysOnTime.cons (h.waits.keepsTime hle hallowed) (honTime.finds hreceived.waits _)

end Hears

/-- **Every turn keeps time.** -/
theorem onTime_turn {actions : List Action} (h : OnTime config script w t)
    (hturn : Turn t now actions t') :
    StaysOnTime config script w (actions.map (now, ·)) t' := by
  obtain ⟨rfl, hscript, hagrees⟩ := h
  cases hturn with
  | attempt a now =>
    have hattempt : script[w.attempts]? = some a := by
      rw [← List.head?_drop, ← hscript, List.head?_cons]
    refine StaysOnTime.cons hagrees.keepsTime (OnTime.stays ⟨rfl, ?_, ?_⟩)
    · change _ = script.drop (w.attempts + 1)
      rw [← List.tail_drop, ← hscript, List.tail_cons]
    · refine ⟨⟨rfl, Nat.le_refl _, ?_⟩, rfl, rfl, ?_⟩
      · exact congrArg (· + 1) hagrees.counts.symm
      · exact (congrArg (script[·]?) hagrees.counts).trans hattempt
  | refused now =>
    have hscript' : script.drop (w.attempts + 1) = [] := by
      rw [← List.tail_drop, ← hscript, List.tail_nil]
    have hnone : script[w.attempts]? = none := by
      rw [← List.head?_drop, ← hscript, List.head?_nil]
    have hwaits : (w.note (now, .connecting)).Waits now :=
      ⟨rfl, Nat.le_refl _, congrArg (· + 1) hagrees.counts.symm⟩
    refine StaysOnTime.cons hagrees.keepsTime ?_
    have hcounts : script[w.disconnects]? = none := by rw [hagrees.counts, hnone]
    have hawaited : (w.note (now, .connecting)).awaited? script = some 0 := by
      simp only [Watch.awaited?, Watch.note, hcounts]
    refine hwaits.over hscript'.symm (Nat.zero_le _) ⟨0, hawaited, Nat.zero_le _, rfl⟩
      fun a ha => ?_
    exact absurd (ha.symm.trans hcounts) (by simp)
  | unanswered hlate =>
    rw [← hagrees.awaited?_eq] at hlate
    exact hagrees.over hscript (Nat.le_refl _)
      ⟨hagrees.state, hagrees.waits.add_eq _, hlate⟩ fun _ => rfl
  | failed hle =>
    exact hagrees.over hscript hle ⟨_, hagrees.awaited?_eq, hle, hagrees.waits.add_eq _⟩
      fun hlate => absurd (isLate_some_iff.mp hlate) (Nat.not_lt.mpr hle)
  | unusable hle =>
    refine StaysOnTime.cons (hagrees.waits.keepsTime hle trivial) ?_
    refine StaysOnTime.cons (hagrees.waits.keepsTime hle trivial) ?_
    exact hagrees.over hscript hle trivial fun hlate =>
      absurd (isLate_some_iff.mp hlate) (Nat.not_lt.mpr hle)
  | @connected config _ _ since delay contentType body b hle hboundary =>
    have hallowed : w.Allows config script (since + delay) (.connected b) :=
      ⟨delay, hagrees.awaited?_eq, hle, hagrees.waits.add_eq delay⟩
    refine StaysOnTime.cons (hagrees.waits.keepsTime hle trivial) ?_
    refine StaysOnTime.cons (hagrees.waits.keepsTime hle hallowed)
      (OnTime.stays ⟨rfl, hscript, ?_⟩)
    refine ⟨⟨rfl, hagrees.waits.tried.trans (Nat.le_add_right _ _), hagrees.waits.counts⟩, rfl, ?_⟩
    exact ⟨delay, contentType, body, hagrees.attempt, hle, rfl, id⟩
  | idle hlate =>
    have hnot := hagrees.comesInTime_eq_false hlate
    rw [← hagrees.awaited?_eq] at hlate
    exact hagrees.over hscript (Nat.le_refl _)
      ⟨hagrees.state, hagrees.waits.add_eq _, hlate, hnot⟩
  | @closed _ _ _ _ _ _ _ event reason hle hclosing =>
    refine hagrees.over hscript hle ?_
    cases event with
    | ended | failed =>
      obtain rfl := Option.some.inj hclosing
      exact ⟨_, hagrees.awaited?_eq, hle, hagrees.waits.add_eq _⟩
    | chunk | stalled => exact absurd hclosing (by simp [BodyEvent.closing?])
  | chunk hle hfits => exact hagrees.chunk hscript hle _
  | @overflow config left fallback since decoder delay body bytes e hle herror =>
    -- the session is over at the moment of the chunk, right behind it
    let t : Task := ⟨config, left, fallback, .streaming (since + delay) decoder body⟩
    have hchunk : StaysOnTime config script w
        ((chunkActions decoder bytes).map (since + delay, ·)) t :=
      hagrees.chunk hscript hle decoder
    have hhears : Watch.Hears config script _ (since + delay) body := hchunk.onTime.agrees
    rw [List.map_append]
    exact hchunk.append (hhears.over hchunk.onTime.script_eq (Nat.zero_le _) trivial)

/-! ### Moves -/

/-- **Every move keeps time**, as long as the task is not stopped. -/
theorem onTime_move (h : OnTime config script w t) (hmove : t.Move timed t')
    (hgoing : t'.phase.isStopped = false) : StaysOnTime config script w timed t' := by
  cases hmove with
  | fire due => exact onTime_turn h (fire_turn due)
  | start now cancelled =>
    obtain ⟨config', left, fallback, phase⟩ := t
    cases phase with
    | unstarted =>
      cases cancelled with
      | true => exact absurd hgoing Bool.noConfusion
      | false =>
        obtain ⟨hstate, hattempts, hdisconnects, htried⟩ := h.agrees
        have hnone : ∀ k, w.attempts ≠ k + 1 := fun k hk => by omega
        refine StaysOnTime.cons ⟨trivial, fun hnot => absurd hstate hnot⟩
          (OnTime.stays ⟨h.config_eq, h.script_eq, ?_⟩)
        exact ⟨hstate, hdisconnects.trans hattempts.symm, fun k hk => absurd hk (hnone k), htried,
          fun k hk => absurd hk (hnone k)⟩
    | dropped | pausing | connecting | streaming | stopped => exact h.stays
  | stop now =>
    obtain ⟨config', left, fallback, phase⟩ := t
    cases phase with
    | unstarted | dropped | stopped => exact h.stays
    | pausing | connecting | streaming => exact absurd hgoing Bool.noConfusion
  | drop =>
    obtain ⟨config', left, fallback, phase⟩ := t
    cases phase with
    | unstarted => exact OnTime.stays ⟨h.config_eq, h.script_eq, h.agrees⟩
    | dropped | pausing | connecting | streaming | stopped => exact h.stays

theorem onTime_moves (h : OnTime config script w t) (hmoves : t.Moves timed t')
    (hgoing : t'.phase.isStopped = false) : StaysOnTime config script w timed t' := by
  induction hmoves generalizing w with
  | nil t => exact h.stays
  | @cons t t' t'' first later hmove hmoves ih =>
    -- a task that was stopped on the way would still be stopped
    have hgoing' : t'.phase.isStopped = false := by
      by_contra hstopped
      have hend := isStopped_of_moves hmoves (Bool.not_eq_false _ ▸ hstopped)
      exact absurd (hend.symm.trans hgoing) Bool.noConfusion
    have hfirst := onTime_move h hmove hgoing'
    exact hfirst.append (ih hfirst.onTime hgoing)

theorem onTime_create (config : Config) (script : List Attempt) (fallback : SourceError) :
    OnTime config script {} (create config script fallback).task :=
  ⟨rfl, rfl, rfl, rfl, rfl, Nat.le_refl _⟩

/-! ### Whole runs -/

/-- An answer is waited for until it comes, and no longer than the limit. -/
theorem Task.answerTime_le (config : Config) (a : Attempt) :
    Task.answerTime config a ≤ config.idleTimeout.millis ∧
      ∀ delay ∈ a.answerTime?, Task.answerTime config a ≤ delay := by
  obtain ⟨delay, answer⟩ := a
  cases answer with
  | silent => exact ⟨Nat.le_refl _, by rintro _ ⟨⟩⟩
  | accepted | failed =>
    exact ⟨Nat.min_le_right _ _, fun _ heq => Option.some.inj heq ▸ Nat.min_le_left _ _⟩

/-- An event is waited for until it comes, and no longer than the limit. -/
theorem Task.eventTime_le (config : Config) (body : List (Nat × BodyEvent)) :
    Task.eventTime config body ≤ config.idleTimeout.millis ∧
      ∀ delay ∈ nextTime? body, Task.eventTime config body ≤ delay := by
  cases body with
  | nil => exact ⟨Nat.le_refl _, by rintro _ ⟨⟩⟩
  | cons event body =>
    obtain ⟨delay, event⟩ := event
    cases event with
    | stalled => exact ⟨Nat.le_refl _, by rintro _ ⟨⟩⟩
    | chunk | ended | failed =>
      exact ⟨Nat.min_le_right _ _, fun _ heq => Option.some.inj heq ▸ Nat.min_le_left _ _⟩

/-- A task that is on time is due when what is waited for comes or the limit is reached, or when
the pause is over. -/
theorem OnTime.due? (h : OnTime config script w t) (hgoing : t.phase.isStopped = false)
    (hpause : 0 < config.retryDelay.millis) :
    (w.state ≠ .disconnected →
      ∃ due ∈ t.due?, due ≤ w.heard + config.idleTimeout.millis ∧
        ∀ delay ∈ w.awaited? script, due ≤ w.heard + delay) ∧
    (w.state = .disconnected → 0 < w.attempts →
      ∃ due ∈ t.due?, due = w.ended + config.retryDelay.millis) := by
  obtain ⟨config, left, fallback, phase⟩ := t
  obtain ⟨rfl, -, hagrees⟩ := h
  cases phase with
  | unstarted | dropped =>
    obtain ⟨hstate, hattempts, -, -⟩ := hagrees
    exact ⟨fun hnot => absurd hstate hnot, fun _ hpos => absurd hattempts (Nat.ne_of_gt hpos)⟩
  | pausing wake =>
    refine ⟨fun hnot => absurd hagrees.state hnot, fun _ hpos => ⟨wake, ?_, ?_⟩⟩
    · have hne : config.retryDelay.millis ≠ 0 := Nat.ne_of_gt hpause
      simp [Task.due?, hne]
    · exact hagrees.wake _ (Nat.succ_pred_eq_of_pos hpos).symm
  | connecting since a =>
    refine ⟨fun _ => ⟨_, rfl, ?_⟩, fun hstate => absurd hstate (by simp [hagrees.state])⟩
    obtain ⟨hlimit, hcomes⟩ := Task.answerTime_le config a
    rw [hagrees.waits.heard, hagrees.awaited?_eq]
    exact ⟨Nat.add_le_add_left hlimit _, fun delay hd => Nat.add_le_add_left (hcomes delay hd) _⟩
  | streaming since decoder body =>
    refine ⟨fun _ => ⟨_, rfl, ?_⟩, fun hstate => absurd hstate (by simp [hagrees.state])⟩
    obtain ⟨hlimit, hcomes⟩ := Task.eventTime_le config body
    rw [hagrees.waits.heard, hagrees.awaited?_eq]
    exact ⟨Nat.add_le_add_left hlimit _, fun delay hd => Nat.add_le_add_left (hcomes delay hd) _⟩
  | stopped => exact absurd hgoing Bool.noConfusion

/-- **A stream that is not shut down keeps time.** Whatever else is asked of it, everything it
does is allowed by the watch and done while the limit lasts: an attempt is made exactly a pause
after the one before was over, and nothing is given up before it is late. At every moment less
than the limit has passed since the last sign of life and what is waited for is yet to come, and
less than a pause has passed since an attempt or a session was over. -/
theorem run_keepsTime (config : Config) (script : List Attempt) (fallback : SourceError)
    (ops : List Operation) (hpause : 0 < config.retryDelay.millis) (hgoing : .shutdown ∉ ops) :
    let run := (create config script fallback).run ops
    let w := watchOf run.actions
    (∀ before x after, run.actions = before ++ x :: after →
      (watchOf before).KeepsTime config script x) ∧
    (w.state = run.stream.board.state ∧ w.attempts = run.stream.board.attempts ∧
      w.disconnects = run.stream.board.disconnects) ∧
    (w.state ≠ .disconnected → run.stream.now < w.heard + config.idleTimeout.millis ∧
      ∀ delay ∈ w.awaited? script, run.stream.now < w.heard + delay) ∧
    (w.state = .disconnected → 0 < w.attempts →
      run.stream.now < w.ended + config.retryDelay.millis) := by
  intro run w
  have hgoes : Goes _ run.actions run.stream := run_goes _ ops
  have hnot : run.stream.task.phase.isStopped = false := by
    by_contra hstopped
    have hiff := isStopped_run_iff config script fallback ops
    exact hgoing (hiff.mp (Bool.not_eq_false _ ▸ hstopped)).2
  have hstays := onTime_moves (onTime_create config script fallback) hgoes.moves hnot
  have hquiet : IsQuiet run.stream := ((settled_create config script fallback).run ops).quiet
  obtain ⟨hwaiting, hpausing⟩ := hstays.onTime.due? hnot hpause
  refine ⟨hstays.keeps, ?_, fun hstate => ?_, fun hstate hpos => ?_⟩
  · rw [hgoes.board]
    exact watchOf_eq_board run.actions
  · obtain ⟨due, hdue, hlimit, hcomes⟩ := hwaiting hstate
    have hlt := hquiet due hdue
    exact ⟨hlt.trans_le hlimit, fun delay hd => hlt.trans_le (hcomes delay hd)⟩
  · obtain ⟨due, hdue, heq⟩ := hpausing hstate hpos
    exact heq ▸ hquiet due hdue

/-- The first attempt is never answered. The second one is answered when the limit is reached,
and the first event of its session comes too late. -/
theorem run_keepsTime_silent_attempt :
    let config : Config := ⟨⟨5⟩, ⟨3⟩, 100⟩
    let script : List Attempt :=
      [⟨0, .silent⟩, ⟨3, .accepted (some "a;boundary=b") [(4, .ended)]⟩]
    let ops : List Operation := [.start, .advance 16]
    let run := (create config script refused).run ops
    0 < config.retryDelay.millis ∧ .shutdown ∉ ops ∧
      run.actions.map (·.1) = [0, 0, 3, 8, 11, 11, 14, 14] ∧
      (watchOf (run.actions.take 3)).Allows config script 8 .connecting ∧
      (watchOf run.actions).ended = 14 ∧ run.stream.now < 14 + 5 := by
  intro config script ops run
  have hpause : 0 < config.retryDelay.millis := by decide
  have hgoing : .shutdown ∉ ops := by decide
  obtain ⟨hkeeps, -, -, hend⟩ := run_keepsTime config script refused ops hpause hgoing
  have hsplit : run.actions = run.actions.take 3 ++ (8, .connecting) :: run.actions.drop 4 := by
    cbv
  have htimes : run.actions.map (·.1) = [0, 0, 3, 8, 11, 11, 14, 14] := by cbv
  have hended : (watchOf run.actions).ended = 14 := by cbv
  have hstate : (watchOf run.actions).state = .disconnected := by cbv
  have hattempts : (watchOf run.actions).attempts = 2 := by cbv
  have hnow := hend hstate (hattempts ▸ Nat.zero_lt_two)
  rw [hended] at hnow
  exact ⟨hpause, hgoing, htimes, (hkeeps _ _ _ hsplit).allowed, hended, hnow⟩

end Mjpeg.Stream
