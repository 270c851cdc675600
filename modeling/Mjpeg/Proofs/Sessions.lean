import Mathlib.Data.List.Forall2
import Mjpeg.Proofs.Decoding
import Mjpeg.Proofs.Turns

/-!
# The sessions of a stream

What a task did shows its sessions: each begins with a boundary and goes on with chunks
(`sessionsOf`). On the other side, a script says which attempts become sessions, and which
chunks their bodies bring in time (`Attempt.session?`).

`Delivered` says how the two agree when a task waits. A session that is over was delivered as a
whole, or up to the first chunk that left too many unclosed bytes behind (`Session.IsOver`). One
that is going on was delivered all but what its body has still to bring, and never had too many
unclosed bytes (`Session.IsGoing`). So the script alone tells what was delivered, up to how far the
task has come.

Where all was delivered and nothing overflowed, how the bytes are cut into chunks does not matter,
nor do delays that are not too long (`Attempt.Recut`, `content?_eq_of_recut`).
-/

namespace Mjpeg.Stream

/-! ### Sessions -/

/-- A session: the boundary that its source announced, and the chunks it delivered. -/
@[ext]
structure Session where
  boundary : Boundary
  chunks : List Bytes
  deriving DecidableEq

namespace Session

/-- The bytes delivered. -/
def delivered (s : Session) : Bytes := s.chunks.flatten

/-- The frames of the bytes delivered, read at once. -/
def frames (s : Session) : List Frame := Body.frames s.boundary s.delivered

/-- The number of malformed segments of the bytes delivered. -/
def malformed (s : Session) : Nat :=
  (Body.segments s.boundary s.delivered).countP Body.isMalformed

/-- The bytes delivered behind the last delimiter. -/
def unclosed (s : Session) : Bytes := Body.remainder s.boundary s.delivered

/-- There are more unclosed bytes than `limit` allows. -/
def Overflows (limit : Nat) (s : Session) : Prop := limit < s.unclosed.length

/-- The session with one more chunk. -/
def receive (s : Session) (chunk : Bytes) : Session := ⟨s.boundary, s.chunks ++ [chunk]⟩

/-- The sessions, the latest first, after one more action. -/
def note : List Session → Action → List Session
  | sessions, .connected b => ⟨b, []⟩ :: sessions
  | s :: sessions, .received chunk _ => s.receive chunk :: sessions
  | sessions, _ => sessions

end Session

end Mjpeg.Stream

namespace Mjpeg.Stream.Action

/-- The frame that an action publishes. -/
def published? : Action → Option Frame
  | .published f => some f
  | _ => none

/-- The action skips a malformed segment. -/
def isSkipped : Action → Bool
  | .skipped _ => true
  | _ => false

/-- The action has to do with no session's bytes. -/
def isQuiet : Action → Bool
  | .connected _ | .received _ _ | .skipped _ | .published _ => false
  | _ => true

end Mjpeg.Stream.Action

namespace Mjpeg.Stream

variable {config : Config} {script attempts : List Attempt} {past actions : List Action}
  {sessions : List Session} {s full : Session} {body : List (Nat × BodyEvent)} {bytes : Bytes}

/-- The sessions that some actions show, the latest first. -/
def sessionsSoFar (actions : List Action) : List Session := actions.foldl Session.note []

/-- The sessions that some actions show, in order. -/
def sessionsOf (actions : List Action) : List Session := (sessionsSoFar actions).reverse

/-- The frames that some actions publish, in order. -/
def publishedOf (actions : List Action) : List Frame := actions.filterMap Action.published?

/-- How many segments some actions skip. -/
def skippedOf (actions : List Action) : Nat := actions.countP Action.isSkipped

@[simp] theorem publishedOf_append (actions later : List Action) :
    publishedOf (actions ++ later) = publishedOf actions ++ publishedOf later :=
  List.filterMap_append

@[simp] theorem skippedOf_append (actions later : List Action) :
    skippedOf (actions ++ later) = skippedOf actions + skippedOf later :=
  List.countP_append

theorem sessionsSoFar_append (actions later : List Action) :
    sessionsSoFar (actions ++ later) = later.foldl Session.note (sessionsSoFar actions) :=
  List.foldl_append

/-- The board shows the frames published, their number, and the number of segments skipped. -/
theorem foldl_record (b : Board) (actions : List Action) :
    (actions.foldl Board.record b).published = (publishedOf actions).reverse ++ b.published ∧
      (actions.foldl Board.record b).frames = b.frames + (publishedOf actions).length ∧
      (actions.foldl Board.record b).malformed = b.malformed + skippedOf actions := by
  induction actions generalizing b with
  | nil => exact ⟨rfl, rfl, rfl⟩
  | cons a actions ih =>
    obtain ⟨hpublished, hframes, hmalformed⟩ := ih (b.record a)
    rw [List.foldl_cons, hpublished, hframes, hmalformed]
    cases a <;>
      simp [publishedOf, skippedOf, List.filterMap_cons, List.countP_cons, Action.published?,
        Action.isSkipped, Board.record, Board.assign, Nat.add_comm, Nat.add_left_comm]

/-! ### The script -/

/-- The chunks that a body brings in time, one after the other. -/
def inTime (config : Config) : List (Nat × BodyEvent) → List Bytes
  | (delay, .chunk bytes) :: body =>
    if delay > config.idleTimeout.millis then [] else bytes :: inTime config body
  | _ => []

/-- The session that an attempt becomes when nothing cuts it short: the answer comes in time
and is a body whose content type announces a boundary. -/
def Attempt.session? (config : Config) (a : Attempt) : Option Session :=
  if a.delay > config.idleTimeout.millis then none
  else match a.answer with
    | .accepted contentType body =>
      match Boundary.ofContentType? contentType with
      | .ok b => some ⟨b, inTime config body⟩
      | .error _ => none
    | .failed _ | .silent => none

theorem inTime_chunk {delay : Nat} (h : delay ≤ config.idleTimeout.millis) (bytes : Bytes)
    (body : List (Nat × BodyEvent)) :
    inTime config ((delay, .chunk bytes) :: body) = bytes :: inTime config body :=
  if_neg (Nat.not_lt.mpr h)

/-- What comes too late is not waited for. -/
theorem inTime_eq_nil_of_isLate (h : IsLate config.idleTimeout.millis (nextTime? body)) :
    inTime config body = [] := by
  cases body with
  | nil => rfl
  | cons event body =>
    obtain ⟨delay, event⟩ := event
    cases event with
    | chunk bytes => exact if_pos (isLate_some_iff.mp h)
    | ended | failed | stalled => rfl

theorem inTime_eq_nil_of_closing {delay : Nat} {event : BodyEvent} {reason : Failure}
    (h : event.closing? = some reason) : inTime config ((delay, event) :: body) = [] := by
  cases event with
  | chunk | stalled => exact absurd h (by simp [BodyEvent.closing?])
  | ended | failed => rfl

theorem session?_eq_none_of_isLate {a : Attempt}
    (h : IsLate config.idleTimeout.millis a.answerTime?) : a.session? config = none := by
  obtain ⟨delay, answer⟩ := a
  unfold Attempt.session?
  cases answer with
  | silent => split <;> rfl
  | accepted | failed => exact if_pos (isLate_some_iff.mp h)

theorem session?_failed {delay : Nat} {e : SourceError} :
    Attempt.session? config ⟨delay, .failed e⟩ = none := by
  simp only [Attempt.session?]
  split <;> rfl

theorem session?_of_error {delay : Nat} {contentType : Option String} {e : FrameError}
    (h : Boundary.ofContentType? contentType = .error e) :
    Attempt.session? config ⟨delay, .accepted contentType body⟩ = none := by
  simp only [Attempt.session?, h]
  split <;> rfl

theorem session?_of_ok {delay : Nat} {contentType : Option String} {b : Boundary}
    (hdelay : delay ≤ config.idleTimeout.millis)
    (h : Boundary.ofContentType? contentType = .ok b) :
    Attempt.session? config ⟨delay, .accepted contentType body⟩ =
      some ⟨b, inTime config body⟩ := by
  simp only [Attempt.session?, if_neg (Nat.not_lt.mpr hdelay), h]

/-! ### What was delivered of a script -/

namespace Session

/-- The one session is a beginning of the other, and at most its last chunk left too many unclosed
bytes behind. -/
structure Begun (limit : Nat) (s full : Session) : Prop where
  boundary : s.boundary = full.boundary
  chunks : s.chunks <+: full.chunks
  fits : ∀ earlier, earlier <+: s.chunks → earlier ≠ s.chunks →
    ¬Overflows limit ⟨s.boundary, earlier⟩

/-- The session is over: it was delivered as a whole, or its last chunk, and no earlier one, left
too many unclosed bytes behind. -/
structure IsOver (limit : Nat) (s full : Session) : Prop extends Begun limit s full where
  whole : s.Overflows limit ∨ s.chunks = full.chunks

/-- The session goes on: what was delivered and what `body` has still to bring make up the whole,
and there never were too many unclosed bytes. -/
structure IsGoing (config : Config) (s full : Session) (body : List (Nat × BodyEvent)) :
    Prop where
  boundary : s.boundary = full.boundary
  chunks : full.chunks = s.chunks ++ inTime config body
  fits : ∀ earlier, earlier <+: s.chunks → ¬Overflows config.maxBuffer ⟨s.boundary, earlier⟩

theorem unclosed_nil (b : Boundary) : unclosed ⟨b, []⟩ = [] :=
  (Body.segments_eq_nil_of_forall_not_occurs (Decoder.not_occurs_nil b)).2

theorem not_overflows_nil (limit : Nat) (b : Boundary) : ¬Overflows limit ⟨b, []⟩ := by
  rw [Overflows, unclosed_nil]
  exact Nat.not_lt_zero limit

/-- A session that begins has still everything to come. -/
theorem isGoing_nil (config : Config) (b : Boundary) (body : List (Nat × BodyEvent)) :
    IsGoing config ⟨b, []⟩ ⟨b, inTime config body⟩ body where
  boundary := rfl
  chunks := rfl
  fits := by
    intro earlier hearlier
    rw [List.prefix_nil.mp hearlier]
    exact not_overflows_nil _ b

theorem IsGoing.begun (h : IsGoing config s full body) : Begun config.maxBuffer s full where
  boundary := h.boundary
  chunks := h.chunks ▸ List.prefix_append _ _
  fits := fun earlier hearlier _ => h.fits earlier hearlier

/-- A session whose body brings nothing more in time is complete. -/
theorem IsGoing.isOver (h : IsGoing config s full body) (hbody : inTime config body = []) :
    IsOver config.maxBuffer s full where
  toBegun := h.begun
  whole := by
    rw [h.chunks, hbody, List.append_nil]
    exact Or.inr rfl

/-- One more chunk is delivered. Before it there were not too many unclosed bytes. -/
theorem IsGoing.receive_begun {delay : Nat}
    (h : IsGoing config s full ((delay, .chunk bytes) :: body))
    (hdelay : delay ≤ config.idleTimeout.millis) :
    Begun config.maxBuffer (s.receive bytes) full where
  boundary := h.boundary
  chunks := by
    rw [h.chunks, inTime_chunk hdelay, receive]
    exact List.prefix_append_right_inj _ |>.mpr ⟨_, rfl⟩
  fits := by
    intro earlier hearlier hne
    rcases List.prefix_concat_iff.mp hearlier with rfl | hearlier
    · exact absurd rfl hne
    · exact h.fits earlier hearlier

/-- The session goes on behind a chunk that does not leave too many unclosed bytes behind. -/
theorem IsGoing.receive {delay : Nat} (h : IsGoing config s full ((delay, .chunk bytes) :: body))
    (hdelay : delay ≤ config.idleTimeout.millis)
    (hfits : ¬(s.receive bytes).Overflows config.maxBuffer) :
    IsGoing config (s.receive bytes) full body where
  boundary := h.boundary
  chunks := by
    rw [h.chunks, inTime_chunk hdelay, Session.receive, List.append_assoc, List.singleton_append]
  fits := by
    intro earlier hearlier
    rcases List.prefix_concat_iff.mp hearlier with rfl | hearlier
    · exact hfits
    · exact h.fits earlier hearlier

end Session

/-- The sessions that some attempts became, all of them over. -/
def Ended (config : Config) (attempts : List Attempt) (sessions : List Session) : Prop :=
  List.Forall₂ (Session.IsOver config.maxBuffer) sessions
    (attempts.filterMap (Attempt.session? config))

/-- What the sources have delivered, session by session, when a task has taken some attempts from
its script and stands in a phase. -/
inductive Delivered (config : Config) : List Attempt → List Session → Phase → Prop
  | unstarted : Delivered config [] [] .unstarted
  | dropped : Delivered config [] [] .dropped
  | pausing {attempts sessions wake} (ended : Ended config attempts sessions) :
      Delivered config attempts sessions (.pausing wake)
  /-- The last attempt was not answered so far. -/
  | connecting {attempts sessions since} (a : Attempt) (ended : Ended config attempts sessions) :
      Delivered config (attempts ++ [a]) sessions (.connecting since a)
  /-- The last attempt became the session that is going on. -/
  | streaming {attempts sessions since decoder body s full} {a : Attempt}
      (ended : Ended config attempts sessions) (answer : a.session? config = some full)
      (going : s.IsGoing config full body) :
      Delivered config (attempts ++ [a]) (sessions ++ [s]) (.streaming since decoder body)
  /-- A task that is stopped leaves everything as it was. -/
  | stopped {attempts sessions phase} (before : Delivered config attempts sessions phase) :
      Delivered config attempts sessions .stopped

/-- No chunk is to come in time of the attempts that were taken from the script. -/
def Phase.IsCaughtUp (config : Config) : Phase → Prop
  | .unstarted | .dropped | .pausing _ => True
  | .streaming _ _ body => inTime config body = []
  | .connecting _ _ | .stopped => False

theorem Ended.append_none {a : Attempt} (h : Ended config attempts sessions)
    (ha : a.session? config = none) : Ended config (attempts ++ [a]) sessions := by
  rw [Ended, List.filterMap_append, List.filterMap_cons_none ha, List.filterMap_nil,
    List.append_nil]
  exact h

theorem Ended.append_some {a : Attempt} (h : Ended config attempts sessions)
    (ha : a.session? config = some full) (hs : s.IsOver config.maxBuffer full) :
    Ended config (attempts ++ [a]) (sessions ++ [s]) := by
  rw [Ended, List.filterMap_append, List.filterMap_cons_some ha]
  exact List.rel_append h (.cons hs .nil)

theorem Ended.begun (h : Ended config attempts sessions) :
    List.Forall₂ (Session.Begun config.maxBuffer) sessions
      (attempts.filterMap (Attempt.session? config)) :=
  h.imp fun _ _ hover => hover.toBegun

/-- Sessions that are over are complete if none of them had too many unclosed bytes. -/
theorem Ended.eq (h : Ended config attempts sessions)
    (hfits : ∀ s ∈ sessions, ¬s.Overflows config.maxBuffer) :
    sessions = attempts.filterMap (Attempt.session? config) := by
  rw [Ended] at h
  generalize attempts.filterMap (Attempt.session? config) = fulls at h ⊢
  induction h with
  | nil => rfl
  | @cons s full sessions fulls hs hsessions ih =>
    obtain ⟨hfirst, hrest⟩ := List.forall_mem_cons.mp hfits
    have hchunks : s.chunks = full.chunks := hs.whole.resolve_left hfirst
    rw [Session.ext hs.boundary hchunks, ih hrest]

section Inversion

variable {phase : Phase} {since wake : Nat} {decoder : Decoder} {a : Attempt}

/-- Of a stream that is dropped nothing was delivered. -/
theorem Delivered.of_unstarted (h : Delivered config attempts sessions .unstarted) :
    Delivered config attempts sessions .dropped := by
  cases h with
  | unstarted => exact .dropped

theorem Delivered.of_pausing (h : Delivered config attempts sessions (.pausing wake)) :
    Ended config attempts sessions := by
  cases h with
  | pausing ended => exact ended

theorem Delivered.of_connecting (h : Delivered config attempts sessions (.connecting since a)) :
    ∃ answered, attempts = answered ++ [a] ∧ Ended config answered sessions := by
  cases h with
  | connecting a ended => exact ⟨_, rfl, ended⟩

theorem Delivered.of_streaming
    (h : Delivered config attempts sessions (.streaming since decoder body)) :
    ∃ answered a earlier s full, attempts = answered ++ [a] ∧ sessions = earlier ++ [s] ∧
      Ended config answered earlier ∧ a.session? config = some full ∧
      s.IsGoing config full body := by
  cases h with
  | streaming ended answer going => exact ⟨_, _, _, _, _, rfl, rfl, ended, answer, going⟩

theorem Delivered.ended (h : Delivered config attempts sessions phase)
    (hphase : phase.IsCaughtUp config) : Ended config attempts sessions := by
  cases h with
  | unstarted | dropped => exact .nil
  | pausing ended => exact ended
  | streaming ended answer going => exact ended.append_some answer (going.isOver hphase)
  | connecting | stopped => exact hphase.elim

/-- Whatever was delivered is a beginning. -/
theorem Delivered.begun (h : Delivered config attempts sessions phase) :
    ∃ answered, answered <+: attempts ∧
      List.Forall₂ (Session.Begun config.maxBuffer) sessions
        (answered.filterMap (Attempt.session? config)) := by
  induction h with
  | unstarted | dropped => exact ⟨[], List.prefix_refl _, .nil⟩
  | pausing ended => exact ⟨_, List.prefix_refl _, ended.begun⟩
  | connecting a ended => exact ⟨_, List.prefix_append _ _, ended.begun⟩
  | streaming ended answer going =>
    refine ⟨_, List.prefix_refl _, ?_⟩
    rw [List.filterMap_append, List.filterMap_cons_some answer]
    exact List.rel_append ended.begun (.cons going.begun .nil)
  | stopped before ih => exact ih

end Inversion

/-! ### The same bytes in other chunks -/

/-- The events that bring some chunks, each after so many milliseconds. -/
def chunkEvents (chunks : List (Nat × Bytes)) : List (Nat × BodyEvent) :=
  chunks.map fun chunk => (chunk.1, .chunk chunk.2)

/-- Two attempts that differ in how the bytes of the session are cut into chunks, and in delays
that are not too long. -/
inductive Attempt.Recut (config : Config) : Attempt → Attempt → Prop
  | refl (a : Attempt) : Recut config a a
  | failed {delay delay' : Nat} (e : SourceError) (hdelay : delay ≤ config.idleTimeout.millis)
      (hdelay' : delay' ≤ config.idleTimeout.millis) :
      Recut config ⟨delay, .failed e⟩ ⟨delay', .failed e⟩
  /-- Behind the chunks nothing more comes in time. -/
  | accepted {delay delay' : Nat} {chunks chunks' : List (Nat × Bytes)}
      {body body' : List (Nat × BodyEvent)} (contentType : Option String)
      (hdelay : delay ≤ config.idleTimeout.millis) (hdelay' : delay' ≤ config.idleTimeout.millis)
      (hchunks : ∀ chunk ∈ chunks, chunk.1 ≤ config.idleTimeout.millis)
      (hchunks' : ∀ chunk ∈ chunks', chunk.1 ≤ config.idleTimeout.millis)
      (bytes : (chunks.map (·.2)).flatten = (chunks'.map (·.2)).flatten)
      (hbody : inTime config body = []) (hbody' : inTime config body' = []) :
      Recut config ⟨delay, .accepted contentType (chunkEvents chunks ++ body)⟩
        ⟨delay', .accepted contentType (chunkEvents chunks' ++ body')⟩

/-- The boundary of a session and the bytes delivered, however they were cut into chunks. -/
def Session.content (s : Session) : Boundary × Bytes := (s.boundary, s.delivered)

/-- What an attempt brings, however it is cut into chunks. -/
def Attempt.content? (config : Config) (a : Attempt) : Option (Boundary × Bytes) :=
  (a.session? config).map Session.content

theorem inTime_append {chunks : List (Nat × Bytes)}
    (h : ∀ chunk ∈ chunks, chunk.1 ≤ config.idleTimeout.millis) (body : List (Nat × BodyEvent)) :
    inTime config (chunkEvents chunks ++ body) = chunks.map (·.2) ++ inTime config body := by
  induction chunks with
  | nil => rfl
  | cons chunk chunks ih =>
    obtain ⟨hchunk, hchunks⟩ := List.forall_mem_cons.mp h
    change inTime config ((chunk.1, .chunk chunk.2) :: (chunkEvents chunks ++ body)) = _
    rw [inTime_chunk hchunk, ih hchunks]
    rfl

/-- **What an attempt brings does not depend on how its bytes are cut into chunks, nor on delays
that are not too long.** -/
theorem content?_eq_of_recut {a a' : Attempt} (h : a.Recut config a') :
    a.content? config = a'.content? config := by
  cases h with
  | refl => rfl
  | failed => rw [Attempt.content?, Attempt.content?, session?_failed, session?_failed]
  | @accepted _ _ _ _ _ _ contentType hdelay hdelay' hchunks hchunks' hbytes hbody hbody' =>
    rw [Attempt.content?, Attempt.content?]
    cases hboundary : Boundary.ofContentType? contentType with
    | error e => rw [session?_of_error hboundary, session?_of_error hboundary]
    | ok b =>
      rw [session?_of_ok hdelay hboundary, session?_of_ok hdelay' hboundary, inTime_append hchunks,
        inTime_append hchunks', hbody, hbody', List.append_nil, List.append_nil]
      exact congrArg (fun delivered => some (b, delivered)) hbytes

theorem map_content?_eq_of_recut {script' : List Attempt}
    (h : List.Forall₂ (Attempt.Recut config) script script') :
    script.map (Attempt.content? config) = script'.map (Attempt.content? config) := by
  induction h with
  | nil => rfl
  | cons hfirst hrest ih => rw [List.map_cons, List.map_cons, content?_eq_of_recut hfirst, ih]

/-- What some attempts bring, in order, is what their sessions hold. -/
theorem map_content_filterMap_session? (attempts : List Attempt) :
    (attempts.filterMap (Attempt.session? config)).map Session.content =
      (attempts.map (Attempt.content? config)).filterMap id := by
  rw [List.map_filterMap, List.filterMap_map]
  rfl

end Mjpeg.Stream
