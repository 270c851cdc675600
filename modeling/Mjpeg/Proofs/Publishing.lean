import Mathlib.Algebra.GroupWithZero.Nat
import Mjpeg.Proofs.Running
import Mjpeg.Proofs.Sessions

/-!
# The frames that a stream publishes

At every moment at which a task waits, the frames published are those of the sessions, each read at
once as far as it was delivered, and the segments skipped are those that are malformed in such a
reading (`Balanced`). What was delivered is what the script says (`Delivered`).

* The invariant (`Fits`) is that during a session the decoder holds what is left of its bytes behind
  the last delimiter, and nothing of an earlier session.
* Each turn preserves it (`leads_turn`), and so do the moves of a whole run (`leads_moves`). An
  overflow is no exception: the chunk that was too much is read before the session ends
  (`leads_overflow`).
* Scripts that differ in how bytes are cut into chunks lead to the same frames
  (`Fits.published_eq`), since what was published depends on the bytes of each session only
  (`Balanced.eq_of_content`).
-/

namespace Mjpeg.Stream

variable {config : Config} {script attempts : List Attempt} {past actions : List Action}
  {sessions : List Session} {s full : Session} {body : List (Nat × BodyEvent)} {bytes : Bytes}

/-! ### Actions that have to do with no bytes -/

theorem note_eq_self {a : Action} (h : a.isQuiet = true ∨ a.isFind = true)
    (sessions : List Session) : Session.note sessions a = sessions := by
  cases a with
  | connected | received => rcases h with h | h <;> exact absurd h Bool.false_ne_true
  | starting | connecting | opened | skipped | published | released | disconnected | stopped =>
    cases sessions <;> rfl

theorem foldl_note_eq_self (h : ∀ a ∈ actions, a.isQuiet = true ∨ a.isFind = true)
    (sessions : List Session) : actions.foldl Session.note sessions = sessions := by
  induction actions with
  | nil => rfl
  | cons a actions ih =>
    obtain ⟨ha, hactions⟩ := List.forall_mem_cons.mp h
    rw [List.foldl_cons, note_eq_self ha, ih hactions]

theorem published?_of_isQuiet {a : Action} (h : a.isQuiet = true) : a.published? = none := by
  cases a with
  | published => exact absurd h Bool.false_ne_true
  | _ => rfl

theorem isSkipped_of_isQuiet {a : Action} (h : a.isQuiet = true) : a.isSkipped = false := by
  cases a with
  | skipped => exact absurd h Bool.false_ne_true
  | _ => rfl

theorem sessionsOf_append_of_quiet (h : ∀ a ∈ actions, a.isQuiet = true) (past : List Action) :
    sessionsOf (past ++ actions) = sessionsOf past := by
  rw [sessionsOf, sessionsSoFar_append, foldl_note_eq_self fun a ha => Or.inl (h a ha)]
  rfl

theorem publishedOf_of_quiet (h : ∀ a ∈ actions, a.isQuiet = true) : publishedOf actions = [] :=
  List.filterMap_eq_nil_iff.mpr fun a ha => published?_of_isQuiet (h a ha)

theorem skippedOf_of_quiet (h : ∀ a ∈ actions, a.isQuiet = true) : skippedOf actions = 0 :=
  List.countP_eq_zero.mpr fun a ha => by
    rw [isSkipped_of_isQuiet (h a ha)]
    exact Bool.false_ne_true

/-! ### Accounts -/

/-- The frames published are those of the sessions, each read at once as far as it was
delivered, and the segments skipped are the malformed ones of such readings. -/
structure Balanced (past : List Action) : Prop where
  published : publishedOf past = (sessionsOf past).flatMap Session.frames
  skipped : skippedOf past = ((sessionsOf past).map Session.malformed).sum

/-- The accounts balance, and the sessions are beginnings of the sessions that the first
attempts of the script become. -/
structure Accounted (config : Config) (script : List Attempt) (past : List Action) : Prop where
  balanced : Balanced past
  begun : ∃ answered, answered <+: script ∧
    List.Forall₂ (Session.Begun config.maxBuffer) (sessionsOf past)
      (answered.filterMap (Attempt.session? config))

/-- The end that comes now finds all sessions over. If the reason is that too many unclosed bytes
have come together, they are those of the last session. -/
structure Closing (config : Config) (script : List Attempt) (past : List Action)
    (reason : Failure) : Prop where
  ended : ∃ answered, answered <+: script ∧ Ended config answered (sessionsOf past)
  overflow : ∀ size limit, reason = .frame (.bufferOverflow size limit) →
    limit = config.maxBuffer ∧ limit < size ∧
      ∃ s ∈ (sessionsOf past).getLast?, s.unclosed.length = size

/-- The law of an action: what was done before it is accounted for unless the action goes on with
a chunk, and the end of an attempt or a session comes when it is over. -/
structure Accounts (config : Config) (script : List Attempt) (past : List Action) (a : Action) :
    Prop where
  accounted : a.isFind = false → Accounted config script past
  closing : ∀ reason retryIn, a = .disconnected reason retryIn → Closing config script past reason

theorem Balanced.append_quiet (h : Balanced past) (hquiet : ∀ a ∈ actions, a.isQuiet = true) :
    Balanced (past ++ actions) where
  published := by
    rw [publishedOf_append, publishedOf_of_quiet hquiet, List.append_nil,
      sessionsOf_append_of_quiet hquiet]
    exact h.published
  skipped := by
    rw [skippedOf_append, skippedOf_of_quiet hquiet, Nat.add_zero,
      sessionsOf_append_of_quiet hquiet]
    exact h.skipped

theorem Accounted.append_quiet (h : Accounted config script past)
    (hquiet : ∀ a ∈ actions, a.isQuiet = true) : Accounted config script (past ++ actions) where
  balanced := h.balanced.append_quiet hquiet
  begun := by
    rw [sessionsOf_append_of_quiet hquiet]
    exact h.begun

/-- Actions that have to do with no bytes obey the law if the ends among them are due. -/
theorem obeys_of_quiet (h : Accounted config script past)
    (hquiet : ∀ a ∈ actions, a.isQuiet = true)
    (hcloses : ∀ reason retryIn, .disconnected reason retryIn ∈ actions →
      Closing config script past reason) :
    Obeys (Accounts config script) past actions := by
  rintro before a after rfl
  have hbefore : ∀ a ∈ before, a.isQuiet = true :=
    fun a ha => hquiet a (List.mem_append_left _ ha)
  refine ⟨fun _ => h.append_quiet hbefore, ?_⟩
  rintro reason retryIn rfl
  obtain ⟨hended, hoverflow⟩ := hcloses reason retryIn (by simp)
  constructor <;> rwa [sessionsOf_append_of_quiet hbefore]

/-! ### A chunk -/

/-- A decoder holds what is left of a session's bytes, and of its bytes only. -/
structure Session.HeldBy (config : Config) (s : Session) (decoder : Decoder) : Prop where
  boundary : decoder.boundary = s.boundary
  limit : decoder.maxBuffer = config.maxBuffer
  marked : decoder.Marked
  pending : decoder.pending = s.unclosed

theorem Session.heldBy_start (config : Config) (b : Boundary) :
    Session.HeldBy config ⟨b, []⟩ (.start b config.maxBuffer) where
  boundary := rfl
  limit := rfl
  marked := Decoder.marked_of_scanned_eq_zero rfl
  pending := (unclosed_nil b).symm

/-- What a session that was delivered one more chunk amounts to. -/
theorem Session.receive_eq (s : Session) (chunk : Bytes) :
    (s.receive chunk).frames = s.frames ++ Body.frames s.boundary (s.unclosed ++ chunk) ∧
      (s.receive chunk).malformed = s.malformed +
        (Body.segments s.boundary (s.unclosed ++ chunk)).countP Body.isMalformed ∧
      (s.receive chunk).unclosed = Body.remainder s.boundary (s.unclosed ++ chunk) := by
  have hdelivered : (s.receive chunk).delivered = s.delivered ++ chunk := by
    simp [receive, delivered]
  obtain ⟨hsegments, hremainder⟩ := Body.segments_append s.boundary s.delivered chunk
  refine ⟨?_, ?_, ?_⟩
  · rw [frames, hdelivered]
    exact Body.frames_append s.boundary s.delivered chunk
  · rw [malformed, hdelivered]
    change (Body.segments s.boundary (s.delivered ++ chunk)).countP _ = _
    rw [hsegments, List.countP_append]
    rfl
  · rw [unclosed, hdelivered]
    exact hremainder

section Chunk

variable {decoder : Decoder}

/-- The decoder reads a chunk behind what is left of the session's bytes. Its error is that too
many unclosed bytes have come together. -/
theorem Session.HeldBy.receive (h : s.HeldBy config decoder) (bytes : Bytes) :
    let drain := (decoder.push bytes).drain
    (s.receive bytes).HeldBy config drain.decoder ∧
      drain.found = (Body.segments s.boundary (s.unclosed ++ bytes)).filterMap
        Decoder.Find.ofSegment? ∧
      (drain.error = none ∧ ¬(s.receive bytes).Overflows config.maxBuffer ∨
        drain.error =
            some (.bufferOverflow (s.receive bytes).unclosed.length config.maxBuffer) ∧
          (s.receive bytes).Overflows config.maxBuffer) := by
  have hreads := Decoder.drain_reads (h.marked.push bytes)
  have hboundary : (decoder.push bytes).boundary = s.boundary := h.boundary
  have hlimit : (decoder.push bytes).maxBuffer = config.maxBuffer := h.limit
  have hrest := hreads.rest
  have hfound := hreads.found
  have herror := hreads.error
  rw [hboundary, Decoder.pending_push, h.pending] at hrest hfound
  obtain ⟨-, -, hunclosed⟩ := s.receive_eq bytes
  rw [← hunclosed] at hrest
  rw [hrest, hlimit] at herror
  refine ⟨⟨hreads.passes.boundary.trans hboundary, hreads.passes.maxBuffer.trans hlimit,
    hreads.marked, hrest⟩, hfound, ?_⟩
  by_cases hoverflow : (s.receive bytes).Overflows config.maxBuffer
  · exact Or.inr ⟨herror.trans (if_pos hoverflow), hoverflow⟩
  · exact Or.inl ⟨herror.trans (if_neg hoverflow), hoverflow⟩

theorem isFind_of_mem_map {found : List Decoder.Find} {a : Action}
    (h : a ∈ found.map Task.actionOfFind) : a.isFind = true := by
  obtain ⟨find, -, rfl⟩ := List.mem_map.mp h
  cases find <;> rfl

theorem sessionsOf_chunk (h : sessionsOf past = sessions ++ [s]) (decoder : Decoder)
    (bytes : Bytes) :
    sessionsOf (past ++ chunkActions decoder bytes) = sessions ++ [s.receive bytes] := by
  have hsoFar : sessionsSoFar past = s :: sessions.reverse := by
    rw [← List.reverse_reverse (sessionsSoFar past), ← sessionsOf, h, List.reverse_concat]
  rw [sessionsOf, sessionsSoFar_append, hsoFar, chunkActions, List.foldl_cons,
    foldl_note_eq_self fun a ha => Or.inr (isFind_of_mem_map ha)]
  simp [Session.note]

theorem publishedOf_map_actionOfFind (found : List Decoder.Find) :
    publishedOf (found.map Task.actionOfFind) = found.filterMap Decoder.Find.frame? := by
  rw [publishedOf, List.filterMap_map]
  refine List.filterMap_congr fun find _ => ?_
  cases find <;> rfl

theorem skippedOf_map_actionOfFind (segments : List Bytes) :
    skippedOf ((segments.filterMap Decoder.Find.ofSegment?).map Task.actionOfFind) =
      segments.countP Body.isMalformed := by
  induction segments with
  | nil => rfl
  | cons segment segments ih =>
    rw [List.countP_cons, ← ih, List.filterMap_cons]
    cases hpart : Part.ofSegment? segment with
    | some f =>
      rw [Decoder.Find.ofSegment?_of_some hpart]
      simp [Body.isMalformed, hpart, skippedOf, Task.actionOfFind, Action.isSkipped]
    | none =>
      rw [Decoder.Find.ofSegment?_of_none hpart]
      cases hblank : Bytes.isBlank segment <;>
        simp [Body.isMalformed, hpart, hblank, skippedOf, Task.actionOfFind, List.countP_cons,
          Action.isSkipped]

/-- A chunk adds to the frames published and to the segments skipped what it adds to a reading of
the whole session. -/
theorem Balanced.append_chunk (h : Balanced past) (hlast : sessionsOf past = sessions ++ [s])
    (hheld : s.HeldBy config decoder) (bytes : Bytes) :
    Balanced (past ++ chunkActions decoder bytes) := by
  obtain ⟨-, hfound, -⟩ := hheld.receive bytes
  obtain ⟨hframes, hmalformed, -⟩ := s.receive_eq bytes
  constructor
  · have hchunk : publishedOf (chunkActions decoder bytes) =
        Body.frames s.boundary (s.unclosed ++ bytes) := by
      rw [chunkActions, hfound]
      change publishedOf (List.map _ _) = _
      rw [publishedOf_map_actionOfFind, Decoder.filterMap_ofSegment?_frame?]
      rfl
    rw [publishedOf_append, h.published, hchunk, sessionsOf_chunk hlast, hlast]
    simp [hframes]
  · have hchunk : skippedOf (chunkActions decoder bytes) =
        (Body.segments s.boundary (s.unclosed ++ bytes)).countP Body.isMalformed := by
      rw [chunkActions, hfound, ← skippedOf_map_actionOfFind]
      rfl
    rw [skippedOf_append, h.skipped, hchunk, sessionsOf_chunk hlast, hlast]
    simp [hmalformed, Nat.add_assoc]

/-- A chunk and what is found in it leave no moment between them at which a task waits. -/
theorem obeys_chunk (h : Accounted config script past) (decoder : Decoder) (bytes : Bytes) :
    Obeys (Accounts config script) past (chunkActions decoder bytes) := by
  refine Obeys.cons ⟨fun _ => h, by simp⟩ ?_
  intro before a after heq
  have hfind : a.isFind = true := isFind_of_mem_map (heq ▸ List.mem_append_right _ (by simp))
  refine ⟨fun hnot => absurd (hfind.symm.trans hnot) (by simp), ?_⟩
  rintro reason retryIn rfl
  exact absurd hfind Bool.false_ne_true

end Chunk

/-! ### A session begins -/

theorem sessionsOf_connected (past : List Action) (b : Boundary) :
    sessionsOf (past ++ [.opened, .connected b]) = sessionsOf past ++ [⟨b, []⟩] := by
  rw [sessionsOf, sessionsOf, sessionsSoFar_append]
  cases sessionsSoFar past <;> simp [Session.note]

/-- A session that was delivered nothing adds nothing. -/
theorem Balanced.append_connected (h : Balanced past) (b : Boundary) :
    Balanced (past ++ [.opened, .connected b]) := by
  obtain ⟨hsegments, -⟩ :=
    Body.segments_eq_nil_of_forall_not_occurs (Decoder.not_occurs_nil b)
  constructor
  · rw [publishedOf_append, sessionsOf_connected, h.published]
    simp [publishedOf, Action.published?, Session.frames, Session.delivered, Body.frames,
      hsegments]
  · rw [skippedOf_append, sessionsOf_connected, h.skipped]
    simp [skippedOf, Action.isSkipped, Session.malformed, Session.delivered, hsegments]

/-! ### Turns -/

/-- During a session the decoder holds what is left of its bytes. -/
def Phase.Holds (config : Config) (sessions : List Session) : Phase → Prop
  | .streaming _ decoder _ => ∃ s ∈ sessions.getLast?, s.HeldBy config decoder
  | _ => True

/-- Where a task stands fits what it did. -/
structure Fits (config : Config) (script : List Attempt) (past : List Action) (t : Task) :
    Prop where
  settings : t.config = config
  balanced : Balanced past
  delivered : ∃ attempts, script = attempts ++ t.script ∧
    Delivered config attempts (sessionsOf past) t.phase
  holds : t.phase.Holds config (sessionsOf past)

/-- What was done after `past` obeys the law, and where the task stands then fits it. -/
structure Leads (config : Config) (script : List Attempt) (past actions : List Action)
    (t' : Task) : Prop where
  accounts : Obeys (Accounts config script) past actions
  fits : Fits config script (past ++ actions) t'

variable {t t' : Task} {now : Nat}

/-- What fits is accounted for. -/
theorem Fits.accounted (h : Fits config script past t) : Accounted config script past := by
  obtain ⟨attempts, hscript, hdelivered⟩ := h.delivered
  obtain ⟨answered, hpre, hbegun⟩ := hdelivered.begun
  exact ⟨h.balanced, answered, hscript ▸ hpre.trans (List.prefix_append _ _), hbegun⟩

/-- Actions that have to do with no bytes, and no end among them. -/
theorem leads_of_quiet (h : Fits config script past t)
    (hquiet : ∀ a ∈ actions, a.isQuiet = true)
    (hopen : ∀ reason retryIn, .disconnected reason retryIn ∉ actions)
    (hsettings : t'.config = config)
    (hdelivered : ∃ attempts, script = attempts ++ t'.script ∧
      Delivered config attempts (sessionsOf past) t'.phase)
    (hholds : t'.phase.Holds config (sessionsOf past)) :
    Leads config script past actions t' := by
  refine ⟨obeys_of_quiet h.accounted hquiet fun reason retryIn hmem =>
    absurd hmem (hopen reason retryIn), hsettings, h.balanced.append_quiet hquiet, ?_, ?_⟩
  all_goals rwa [sessionsOf_append_of_quiet hquiet]

/-- The end of an attempt or a session that is over, and what leads up to it. -/
theorem leads_of_ended {toCome : List Attempt} {fallback : SourceError} {wake : Nat}
    {reason : Failure} (h : Accounted config script past)
    (hscript : script = attempts ++ toCome) (hended : Ended config attempts (sessionsOf past))
    (hoverflow : ∀ size limit, reason = .frame (.bufferOverflow size limit) →
      limit = config.maxBuffer ∧ limit < size ∧
        ∃ s ∈ (sessionsOf past).getLast?, s.unclosed.length = size)
    (before : List Action) (hbefore : ∀ a ∈ before, a.isQuiet = true)
    (hopen : ∀ reason retryIn, .disconnected reason retryIn ∉ before) (retryIn : Duration) :
    Leads config script past (before ++ [.disconnected reason retryIn])
      ⟨config, toCome, fallback, .pausing wake⟩ := by
  have hquiet : ∀ a ∈ before ++ [.disconnected reason retryIn], a.isQuiet = true :=
    List.forall_mem_append.mpr ⟨hbefore, by simp [Action.isQuiet]⟩
  constructor
  · refine obeys_of_quiet h hquiet fun reason' retryIn' hmem => ?_
    rcases List.mem_append.mp hmem with hmem | hmem
    · exact absurd hmem (hopen reason' retryIn')
    · obtain ⟨rfl, rfl⟩ := Action.disconnected.inj (List.mem_singleton.mp hmem)
      exact ⟨⟨attempts, hscript ▸ List.prefix_append _ _, hended⟩, hoverflow⟩
  · refine ⟨rfl, h.balanced.append_quiet hquiet, ⟨attempts, hscript, ?_⟩, trivial⟩
    rw [sessionsOf_append_of_quiet hquiet]
    exact .pausing hended

theorem Leads.behind {later : List Action} (h : Obeys (Accounts config script) past actions)
    (hlater : Leads config script (past ++ actions) later t') :
    Leads config script past (actions ++ later) t' := by
  refine ⟨h.append hlater.accounts, ?_⟩
  rw [← List.append_assoc]
  exact hlater.fits

/-- No content type is refused because of too many bytes. -/
theorem ne_bufferOverflow_of_ofContentType? {contentType : Option String} {e : FrameError}
    (h : Boundary.ofContentType? contentType = .error e) (size limit : Nat) :
    e ≠ .bufferOverflow size limit := by
  rintro rfl
  unfold Boundary.ofContentType? at h
  split at h
  · exact absurd h (by simp)
  · split at h
    · exact absurd h (by simp)
    · exact absurd h (by simp)
    · unfold Boundary.ofToken? at h
      split at h <;> exact absurd h (by simp)

/-- No body ends for a reason of the decoder. -/
theorem closing?_ne_frame (event : BodyEvent) (e : FrameError) :
    event.closing? ≠ some (.frame e) := by
  cases event <;> simp [BodyEvent.closing?]

section Streaming

variable {toCome : List Attempt} {fallback : SourceError} {since delay : Nat} {decoder : Decoder}

/-- During a session the decoder holds what is left of its bytes. -/
theorem Fits.of_streaming
    (h : Fits config script past ⟨config, toCome, fallback, .streaming since decoder body⟩) :
    ∃ answered a earlier s full, script = answered ++ [a] ++ toCome ∧
      sessionsOf past = earlier ++ [s] ∧ Ended config answered earlier ∧
      a.session? config = some full ∧ s.IsGoing config full body ∧ s.HeldBy config decoder := by
  obtain ⟨attempts, hscript, hdelivered⟩ := h.delivered
  obtain ⟨answered, a, earlier, s, full, rfl, hlast, hended, hanswer, hgoing⟩ :=
    hdelivered.of_streaming
  obtain ⟨s', hs', hheld⟩ := h.holds
  rw [hlast, List.getLast?_concat] at hs'
  obtain rfl := Option.some.inj hs'
  exact ⟨answered, a, earlier, s, full, hscript, hlast, hended, hanswer, hgoing, hheld⟩

/-- The session goes on behind a chunk. -/
theorem leads_chunk (h : Fits config script past
      ⟨config, toCome, fallback, .streaming since decoder ((delay, .chunk bytes) :: body)⟩)
    (hinTime : delay ≤ config.idleTimeout.millis)
    (hnone : (decoder.push bytes).drain.error = none) (now : Nat) :
    Leads config script past (chunkActions decoder bytes)
      ⟨config, toCome, fallback, .streaming now (decoder.push bytes).drain.decoder body⟩ := by
  obtain ⟨answered, a, earlier, s, full, hscript, hlast, hended, hanswer, hgoing, hheld⟩ :=
    h.of_streaming
  obtain ⟨hheld', -, herror⟩ := hheld.receive bytes
  have hfits : ¬(s.receive bytes).Overflows config.maxBuffer := by
    rcases herror with ⟨-, hfits⟩ | ⟨hsome, -⟩
    · exact hfits
    · exact absurd (hnone.symm.trans hsome) nofun
  refine ⟨obeys_chunk h.accounted decoder bytes, rfl, h.balanced.append_chunk hlast hheld bytes,
    ⟨_, hscript, ?_⟩, ?_⟩
  · rw [sessionsOf_chunk hlast]
    exact .streaming hended hanswer (hgoing.receive hinTime hfits)
  · rw [sessionsOf_chunk hlast]
    exact ⟨_, List.getLast?_concat, hheld'⟩

/-- A chunk leads to an overflow: what is complete by then is published and counted before the
session ends. -/
theorem leads_overflow {e : FrameError} (h : Fits config script past
      ⟨config, toCome, fallback, .streaming since decoder ((delay, .chunk bytes) :: body)⟩)
    (hinTime : delay ≤ config.idleTimeout.millis)
    (hsome : (decoder.push bytes).drain.error = some e) (wake : Nat) :
    Leads config script past
      (chunkActions decoder bytes ++ [.released, .disconnected (.frame e) config.retryDelay])
      ⟨config, toCome, fallback, .pausing wake⟩ := by
  obtain ⟨answered, a, earlier, s, full, hscript, hlast, hended, hanswer, hgoing, hheld⟩ :=
    h.of_streaming
  obtain ⟨-, -, ⟨hnone, -⟩ | ⟨herror, hoverflow⟩⟩ := hheld.receive bytes
  · exact absurd (hsome.symm.trans hnone) nofun
  · obtain rfl := Option.some.inj (hsome.symm.trans herror)
    have hsessions := sessionsOf_chunk hlast decoder bytes
    have hover : Ended config (answered ++ [a])
        (sessionsOf (past ++ chunkActions decoder bytes)) := by
      rw [hsessions]
      exact hended.append_some hanswer ⟨hgoing.receive_begun hinTime, Or.inl hoverflow⟩
    have hreceived : Accounted config script (past ++ chunkActions decoder bytes) :=
      ⟨h.balanced.append_chunk hlast hheld bytes, _, hscript ▸ List.prefix_append _ _, hover.begun⟩
    refine Leads.behind (obeys_chunk h.accounted decoder bytes) (leads_of_ended hreceived hscript
      hover (fun size limit heq => ?_) [.released] (by decide) (by simp) _)
    obtain ⟨rfl, rfl⟩ := FrameError.bufferOverflow.inj (Failure.frame.inj heq)
    refine ⟨rfl, hoverflow, _, ?_, rfl⟩
    rw [hsessions]
    exact List.getLast?_concat

/-- A session begins. Between the two actions it has not begun yet. -/
theorem leads_connected {contentType : Option String} {b : Boundary}
    (h : Fits config script past ⟨config, toCome, fallback,
      .connecting since ⟨delay, .accepted contentType body⟩⟩)
    (hinTime : delay ≤ config.idleTimeout.millis)
    (hboundary : Boundary.ofContentType? contentType = .ok b) (now : Nat) :
    Leads config script past [.opened, .connected b]
      ⟨config, toCome, fallback, .streaming now (.start b config.maxBuffer) body⟩ := by
  obtain ⟨attempts, hscript, hdelivered⟩ := h.delivered
  obtain ⟨answered, rfl, hended⟩ := hdelivered.of_connecting
  have hopened : Accounted config script (past ++ [.opened]) :=
    h.accounted.append_quiet (by decide)
  refine ⟨?_, rfl, h.balanced.append_connected b, ⟨_, hscript, ?_⟩, ?_⟩
  · exact Obeys.cons ⟨fun _ => h.accounted, by simp⟩
      (Obeys.cons ⟨fun _ => hopened, by simp⟩ (obeys_nil _ _))
  · rw [sessionsOf_connected]
    exact .streaming hended (session?_of_ok hinTime hboundary) (Session.isGoing_nil config b body)
  · rw [sessionsOf_connected]
    exact ⟨⟨b, []⟩, List.getLast?_concat, Session.heldBy_start config b⟩

/-- An attempt that became no session is over. -/
theorem leads_of_no_session {a : Attempt} {reason : Failure}
    (h : Fits config script past ⟨config, toCome, fallback, .connecting since a⟩)
    (ha : a.session? config = none)
    (hreason : ∀ size limit, reason ≠ .frame (.bufferOverflow size limit)) (wake : Nat)
    (before : List Action) (hbefore : ∀ a ∈ before, a.isQuiet = true)
    (hopen : ∀ reason retryIn, .disconnected reason retryIn ∉ before) :
    Leads config script past (before ++ [.disconnected reason config.retryDelay])
      ⟨config, toCome, fallback, .pausing wake⟩ := by
  obtain ⟨attempts, hscript, hdelivered⟩ := h.delivered
  obtain ⟨answered, rfl, hended⟩ := hdelivered.of_connecting
  exact leads_of_ended h.accounted hscript (hended.append_none ha)
    (fun size limit heq => absurd heq (hreason size limit)) before hbefore hopen _

/-- Nothing more of the session comes in time, and it is over. -/
theorem leads_of_caught_up {phase : Phase} {reason : Failure}
    (h : Fits config script past ⟨config, toCome, fallback, phase⟩)
    (hphase : phase.IsCaughtUp config)
    (hreason : ∀ size limit, reason ≠ .frame (.bufferOverflow size limit)) (wake : Nat)
    (before : List Action) (hbefore : ∀ a ∈ before, a.isQuiet = true)
    (hopen : ∀ reason retryIn, .disconnected reason retryIn ∉ before) :
    Leads config script past (before ++ [.disconnected reason config.retryDelay])
      ⟨config, toCome, fallback, .pausing wake⟩ := by
  obtain ⟨attempts, hscript, hdelivered⟩ := h.delivered
  exact leads_of_ended h.accounted hscript (hdelivered.ended hphase)
    (fun size limit heq => absurd heq (hreason size limit)) before hbefore hopen _

end Streaming

/-- **Every turn keeps the accounts.** -/
theorem leads_turn (h : Fits config script past t) (hturn : Turn t now actions t') :
    Leads config script past actions t' := by
  obtain ⟨config', toCome, fallback, phase⟩ := t
  obtain rfl : config' = config := h.settings
  cases hturn with
  | @attempt _ _ _ a =>
    obtain ⟨attempts, hscript, hdelivered⟩ := h.delivered
    refine leads_of_quiet h (by decide) (by simp) rfl
      ⟨attempts ++ [a], ?_, .connecting a hdelivered.of_pausing⟩ trivial
    rw [hscript, List.append_assoc]
    rfl
  | refused =>
    exact leads_of_caught_up h trivial (by simp) _ [.connecting] (by decide) (by simp)
  | unanswered late =>
    exact leads_of_no_session h (session?_eq_none_of_isLate late) (by simp) _ [] (by simp) (by simp)
  | failed => exact leads_of_no_session h session?_failed (by simp) _ [] (by simp) (by simp)
  | @unusable _ _ _ _ _ contentType body e hinTime hboundary =>
    refine leads_of_no_session h (session?_of_error hboundary) (fun size limit heq => ?_) _
      [.opened, .released] (by decide) (by simp)
    exact ne_bufferOverflow_of_ofContentType? hboundary size limit (Failure.frame.inj heq)
  | connected hinTime hboundary => exact leads_connected h hinTime hboundary _
  | idle late =>
    exact leads_of_caught_up h (inTime_eq_nil_of_isLate late) (by simp) _ [.released] (by decide)
      (by simp)
  | @closed _ _ _ _ _ _ _ event reason hinTime closing =>
    refine leads_of_caught_up h (inTime_eq_nil_of_closing closing) ?_ _ [.released] (by decide)
      (by simp)
    rintro size limit rfl
    exact closing?_ne_frame event _ closing
  | chunk hinTime hnone => exact leads_chunk h hinTime hnone _
  | overflow hinTime hsome => exact leads_overflow h hinTime hsome _

/-! ### Moves -/

theorem Fits.leads (h : Fits config script past t) : Leads config script past [] t where
  accounts := obeys_nil _ _
  fits := by rwa [List.append_nil]

/-- A task that is stopped has delivered what it had. -/
theorem leads_stopped (h : Fits config script past t) (hquiet : ∀ a ∈ actions, a.isQuiet = true)
    (hopen : ∀ reason retryIn, .disconnected reason retryIn ∉ actions) :
    Leads config script past actions { t with phase := .stopped } := by
  obtain ⟨attempts, hscript, hdelivered⟩ := h.delivered
  exact leads_of_quiet h hquiet hopen h.settings ⟨attempts, hscript, .stopped hdelivered⟩ trivial

theorem leads_stop (h : Fits config script past t) :
    Leads config script past t.stop.1 t.stop.2 := by
  unfold Task.stop
  cases t.phase with
  | unstarted | dropped | stopped => exact h.leads
  | pausing | connecting | streaming =>
    dsimp only
    exact leads_stopped h (by decide) (by simp)

theorem leads_start (h : Fits config script past t) (now : Nat) (cancelled : Bool) :
    Leads config script past (t.start now cancelled).1 (t.start now cancelled).2 := by
  obtain ⟨config', toCome, fallback, phase⟩ := t
  cases phase with
  | unstarted =>
    cases cancelled with
    | true =>
      change Leads config script past [.starting, .stopped] _
      exact leads_stopped h (by decide) (by simp)
    | false =>
      obtain ⟨attempts, hscript, hdelivered⟩ := h.delivered
      change Leads config script past [.starting] _
      exact leads_of_quiet h (by decide) (by simp) h.settings
        ⟨attempts, hscript, .pausing (hdelivered.ended trivial)⟩ trivial
  | dropped | pausing | connecting | streaming | stopped => exact h.leads

theorem leads_drop (h : Fits config script past t) : Leads config script past [] t.drop := by
  obtain ⟨config', toCome, fallback, phase⟩ := t
  cases phase with
  | unstarted =>
    obtain ⟨attempts, hscript, hdelivered⟩ := h.delivered
    exact leads_of_quiet h (by simp) (by simp) h.settings
      ⟨attempts, hscript, hdelivered.of_unstarted⟩ trivial
  | dropped | pausing | connecting | streaming | stopped => exact h.leads

/-- **Every move keeps the accounts.** -/
theorem leads_move {timed : List (Nat × Action)} (h : Fits config script past t)
    (hmove : t.Move timed t') : Leads config script past (timed.map (·.2)) t' := by
  cases hmove with
  | fire due =>
    rw [map_snd_map]
    exact leads_turn h (fire_turn due)
  | start now cancelled =>
    rw [map_snd_map]
    exact leads_start h now cancelled
  | stop now =>
    rw [map_snd_map]
    exact leads_stop h
  | drop => exact leads_drop h

/-- Moves one after the other keep the accounts. -/
theorem leads_moves {timed : List (Nat × Action)} (h : Fits config script past t)
    (hmoves : t.Moves timed t') : Leads config script past (timed.map (·.2)) t' := by
  -- induction on the moves, with what was done before them arbitrary
  induction hmoves generalizing past with
  | nil t => exact h.leads
  | cons hmove hmoves ih =>
    have hfirst := leads_move h hmove
    rw [List.map_append]
    exact Leads.behind hfirst.accounts (ih hfirst.fits)

/-- A stream of which nothing was asked fits. -/
theorem fits_create (config : Config) (script : List Attempt) (fallback : SourceError) :
    Fits config script [] (create config script fallback).task where
  settings := rfl
  balanced := ⟨rfl, rfl⟩
  delivered := ⟨[], rfl, .unstarted⟩
  holds := trivial

/-! ### The same bytes in other chunks -/

/-- Sessions with the same boundaries and bytes come to the same. -/
theorem Balanced.eq_of_content {past' : List Action} (h : Balanced past) (h' : Balanced past')
    (heq : (sessionsOf past).map Session.content = (sessionsOf past').map Session.content) :
    publishedOf past = publishedOf past' ∧ skippedOf past = skippedOf past' := by
  have hframes : ∀ sessions : List Session, sessions.flatMap Session.frames =
      (sessions.map Session.content).flatMap fun c => Body.frames c.1 c.2 := fun sessions => by
    rw [List.flatMap_map]
    rfl
  have hmalformed : ∀ sessions : List Session, sessions.map Session.malformed =
      (sessions.map Session.content).map fun c =>
        (Body.segments c.1 c.2).countP Body.isMalformed := fun sessions => by
    rw [List.map_map]
    rfl
  rw [h.published, h'.published, h.skipped, h'.skipped, hframes, hframes, hmalformed, hmalformed,
    heq]
  exact ⟨rfl, rfl⟩

/-- A task has taken as many attempts from its script as are missing, and where none of them has
anything more to bring, the sessions are complete unless one overflowed. -/
theorem Fits.sessionsOf_eq (h : Fits config script past t) (hphase : t.phase.IsCaughtUp config)
    (hfits : ∀ s ∈ sessionsOf past, ¬s.Overflows config.maxBuffer) :
    sessionsOf past =
      (script.take (script.length - t.script.length)).filterMap (Attempt.session? config) := by
  obtain ⟨attempts, hscript, hdelivered⟩ := h.delivered
  have htake : script.take (script.length - t.script.length) = attempts := by
    rw [hscript, List.length_append, Nat.add_sub_cancel, List.take_left]
  rw [htake]
  exact (hdelivered.ended hphase).eq hfits

/-- **Two scripts whose attempts bring the same, however it is cut into chunks, lead to the same
frames**, once as many attempts have brought all they had, and if no session overflowed. -/
theorem Fits.published_eq {script' : List Attempt} {past' : List Action}
    (h : Fits config script past t) (h' : Fits config script' past' t')
    (hcontent : script.map (Attempt.content? config) = script'.map (Attempt.content? config))
    (hphase : t.phase.IsCaughtUp config) (hphase' : t'.phase.IsCaughtUp config)
    (hleft : t.script.length = t'.script.length)
    (hfits : ∀ s ∈ sessionsOf past, ¬s.Overflows config.maxBuffer)
    (hfits' : ∀ s ∈ sessionsOf past', ¬s.Overflows config.maxBuffer) :
    publishedOf past = publishedOf past' ∧ skippedOf past = skippedOf past' := by
  have hlength : script.length = script'.length := by
    simpa using congrArg List.length hcontent
  refine h.balanced.eq_of_content h'.balanced ?_
  rw [h.sessionsOf_eq hphase hfits, h'.sessionsOf_eq hphase' hfits',
    map_content_filterMap_session?, map_content_filterMap_session?, List.map_take, List.map_take,
    hcontent, hlength, hleft]

/-! ### Whole runs -/

/-- What was done until a moment at which the task waits fits where it stands. -/
theorem WaitsAt.fits {ops : List Operation} {fallback : SourceError}
    {before : List (Nat × Action)}
    (h : (create config script fallback).WaitsAt ops before t) :
    Fits config script (before.map (·.2)) t :=
  (leads_moves (fits_create config script fallback) h.reached).fits

/-- **The frames published are those of the sessions, each read at once.** Whatever is asked of
a stream, at every moment at which its task waits, and right before a session ends, the frames
published so far are those of the sessions, in order, each read from its own bytes as far as they
were delivered; the board counts them, and counts the malformed segments of the same readings.

What was delivered is what the script says (`Delivered`): every session that is over is complete,
or complete up to the chunk that left too many unclosed bytes behind, and the one that is going on
lacks what its body has still to bring. Only a shutdown leaves a session as it is. When an attempt
or a session ends, all this holds already, so the chunk that was too much has been read
(`Closing`).

Two scripts that differ in how the bytes of their sessions are cut into chunks, and in delays that
are not too long, lead to the same frames, as long as no session overflows. -/
theorem run_publishes (config : Config) (script : List Attempt) (fallback : SourceError)
    (ops : List Operation) :
    let s := create config script fallback
    let run := s.run ops
    let actions := run.actions.map (·.2)
    run.stream.board = actions.foldl Board.record {} ∧
    s.WaitsAt ops run.actions run.stream.task ∧
    (∀ before after, actions = before ++ after → MayWait after →
      let board : Board := before.foldl Board.record {}
      let sessions := sessionsOf before
      publishedOf before = sessions.flatMap Session.frames ∧
      board.published.reverse = publishedOf before ∧
      board.frames = (publishedOf before).length ∧
      board.malformed = (sessions.map Session.malformed).sum ∧
      ∃ answered, answered <+: script ∧
        List.Forall₂ (Session.Begun config.maxBuffer) sessions
          (answered.filterMap (Attempt.session? config))) ∧
    (∀ before t, s.WaitsAt ops before t →
      (∃ after, actions = before.map (·.2) ++ after ∧ MayWait after) ∧
      ∃ attempts, script = attempts ++ t.script ∧
        Delivered config attempts (sessionsOf (before.map (·.2))) t.phase ∧
        (t.phase.isStopped = true → .shutdown ∈ ops)) ∧
    (∀ before reason retryIn after, actions = before ++ .disconnected reason retryIn :: after →
      Closing config script before reason) ∧
    ∀ (script' : List Attempt) (fallback' : SourceError) (ops' : List Operation),
      let s' := create config script' fallback'
      List.Forall₂ (Attempt.Recut config) script script' →
      ∀ before t before' t', s.WaitsAt ops before t → s'.WaitsAt ops' before' t' →
        t.phase.IsCaughtUp config → t'.phase.IsCaughtUp config →
        t.script.length = t'.script.length →
        let past := before.map (·.2)
        let past' := before'.map (·.2)
        (∀ session ∈ sessionsOf past, ¬session.Overflows config.maxBuffer) →
        (∀ session ∈ sessionsOf past', ¬session.Overflows config.maxBuffer) →
        publishedOf past = publishedOf past' ∧
          (past.foldl Board.record {}).malformed = (past'.foldl Board.record {}).malformed := by
  intro s run actions
  have hgoes : Goes s run.actions run.stream := run_goes s ops
  have hleads : Leads config script [] actions run.stream.task :=
    leads_moves (fits_create config script fallback) hgoes.moves
  refine ⟨hgoes.board, waitsAt_end s ops, ?_, ?_, ?_, ?_⟩
  · intro before after heq hwait board sessions
    have haccounted : Accounted config script before := by
      cases after with
      | nil =>
        rw [List.append_nil] at heq
        exact heq ▸ hleads.fits.accounted
      | cons a after => exact (hleads.accounts before a after heq).accounted (hwait a rfl)
    obtain ⟨⟨hpublished, hskipped⟩, hbegun⟩ := haccounted
    obtain ⟨hshown, hframes, hmalformed⟩ := foldl_record {} before
    refine ⟨hpublished, ?_, ?_, ?_, hbegun⟩
    · rw [hshown, List.append_nil, List.reverse_reverse]
    · rw [hframes]
      exact Nat.zero_add _
    · rw [hmalformed]
      exact (Nat.zero_add _).trans hskipped
  · rintro before t ⟨hreached, after, heq, hleft⟩
    obtain ⟨attempts, hscript, hdelivered⟩ := (WaitsAt.fits ⟨hreached, after, heq, hleft⟩).delivered
    refine ⟨⟨after.map (·.2), ?_, mayWait_of_moves hleft⟩, attempts, hscript, hdelivered,
      fun hstopped => ?_⟩
    · rw [← List.map_append, ← heq]
    · exact ((isStopped_run_iff config script fallback ops).mp
        (isStopped_of_moves hleft hstopped)).2
  · intro before reason retryIn after heq
    exact (hleads.accounts before _ after heq).closing reason retryIn rfl
  · intro script' fallback' ops' s' hrecut before t before' t' hwaits hwaits' hphase hphase' hleft
      past past' hfits hfits'
    obtain ⟨hpublished, hskipped⟩ := hwaits.fits.published_eq hwaits'.fits
      (map_content?_eq_of_recut hrecut) hphase hphase' hleft hfits hfits'
    refine ⟨hpublished, ?_⟩
    rw [(foldl_record {} past).2.2, (foldl_record {} past').2.2]
    exact congrArg (_ + ·) hskipped

end Mjpeg.Stream
