import Mjpeg.Proofs.Delivery
import Mjpeg.Proofs.RoundTrip

/-!
# Writing to a sink that takes little, pauses and fails

A writer answers requests one after the other, and hands one message over for each of them: what
is to be written, behind the opening delimiter as long as that is still to come (`message`,
`perform_eq`). What a writer keeps between two requests is whether it has started.

* As long as all requests succeed, the sink has taken each part with the delimiter before it, and
  one delimiter more (`OnWire`). A request that fails has had some first bytes of its message
  taken, each once and in order (`run_wire`).
* A request that failed, and of which nothing was taken, leaves no trace unless it was the first.
  The first one leaves a writer that takes its opening delimiter for written
  (`run_after_call_iff`), so that the body begins without it.
-/

namespace Mjpeg.Writer

open Bytes

/-! ### Requests -/

/-- What can be asked of a writer. -/
inductive Request where
  | send (contentType : String) (payload : Bytes)
  | writeFrame (frame : Frame)
  | finish

/-- The part that is to be written, if it is not the end of the body. -/
def Request.part? : Request → Option (String × Bytes)
  | .send contentType payload => some (contentType, payload)
  | .writeFrame frame => some (frame.contentType?.getD "image/jpeg", frame.payload)
  | .finish => none

/-- What is to be written behind the last delimiter. -/
def Request.text (b : Boundary) (request : Request) : Bytes :=
  match request.part? with
  | some (contentType, payload) => Part.encode contentType payload ++ b.delimiter
  | none => ending true

/-- Carries out one request. -/
def perform (w : Writer) : Request → Call
  | .send contentType payload => w.send contentType payload
  | .writeFrame frame => w.writeFrame frame
  | .finish => w.finish

/-- What a request comes to for the caller and the sink. -/
structure Reply where
  /-- The bytes that the sink has taken. -/
  written : Bytes
  outcome : Except FrameError Unit

/-- What some requests come to. -/
structure Run where
  writer : Writer
  replies : List Reply

/-- The bytes that the sink has taken during all requests. -/
def Run.written (r : Run) : Bytes := r.replies.flatMap Reply.written

/-- Carries out requests one after the other. An error ends nothing. -/
def run (w : Writer) : List Request → Run
  | [] => ⟨w, []⟩
  | request :: requests =>
    let call := w.perform request
    let later := call.writer.run requests
    ⟨later.writer, ⟨call.written, call.outcome⟩ :: later.replies⟩

/-- The message that a writer hands over for a request. -/
def message (w : Writer) (request : Request) : Bytes := w.opening ++ request.text w.boundary

variable {w : Writer} {b : Boundary} {requests later : List Request} {request : Request}

theorem perform_eq (w : Writer) (request : Request) :
    w.perform request = w.deliver (request.text w.boundary) := by
  cases request <;> rfl

/-- A request changes nothing of a writer but that it has started. -/
theorem writer_perform (w : Writer) (request : Request) :
    (w.perform request).writer =
      { w with sink := (w.perform request).writer.sink, started := true } := by
  rw [perform_eq]
  rfl

@[simp] theorem boundary_perform (w : Writer) (request : Request) :
    (w.perform request).writer.boundary = w.boundary := by
  rw [writer_perform]

/-- Behind a request no opening delimiter is to come, whatever came of it. -/
@[simp] theorem started_perform (w : Writer) (request : Request) :
    (w.perform request).writer.started = true := by
  rw [writer_perform]

@[simp] theorem opening_perform (w : Writer) (request : Request) :
    (w.perform request).writer.opening = [] :=
  if_pos (started_perform w request)

theorem written_run_cons (w : Writer) (request : Request) (requests : List Request) :
    (w.run (request :: requests)).written =
      (w.perform request).written ++ ((w.perform request).writer.run requests).written := rfl

theorem boundary_run (w : Writer) (requests : List Request) :
    (w.run requests).writer.boundary = w.boundary := by
  induction requests generalizing w with
  | nil => rfl
  | cons request requests ih =>
    exact (ih (w.perform request).writer).trans (boundary_perform w request)

theorem started_run (w : Writer) (requests : List Request) :
    (w.run requests).writer.started = (w.started || !requests.isEmpty) := by
  induction requests generalizing w with
  | nil => simp [run]
  | cons request requests ih =>
    have hlater := ih (w.perform request).writer
    rw [started_perform] at hlater
    simpa [run] using hlater

/-! ### What is on the wire -/

/-- Parts, each with the delimiter before it, and one delimiter more, with what ends a body. -/
def wire (b : Boundary) (parts : List (String × Bytes)) (finished : Bool) : Bytes :=
  (parts.flatMap fun (contentType, payload) => b.encodePart contentType payload) ++
    (b.delimiter ++ ending finished)

/-- The sink has taken these parts, but for the opening delimiter if that is still to come. -/
structure OnWire (b : Boundary) (parts : List (String × Bytes)) (written : Bytes) (w : Writer) :
    Prop where
  boundary : w.boundary = b
  written : written ++ w.opening = wire b parts false

variable {parts : List (String × Bytes)} {written : Bytes}

theorem onWire_start (b : Boundary) (sink : Sink) : OnWire b [] [] (start b sink) :=
  ⟨rfl, (List.append_nil _).symm⟩

/-- The message of a request makes up the wire with that request. -/
theorem OnWire.append_message (h : OnWire b parts written w) (request : Request) :
    written ++ w.message request =
      wire b (parts ++ request.part?.toList) request.part?.isNone := by
  rw [message, ← List.append_assoc, h.written, h.boundary, Request.text, wire, wire]
  cases request.part? <;> simp [ending, Boundary.encodePart]

theorem OnWire.perform (h : OnWire b parts written w) {part : String × Bytes}
    (hpart : request.part? = some part)
    (hwritten : (w.perform request).written = w.message request) :
    OnWire b (parts ++ [part]) (written ++ (w.perform request).written)
      (w.perform request).writer where
  boundary := (boundary_perform w request).trans h.boundary
  written := by
    rw [opening_perform, List.append_nil, hwritten, h.append_message, hpart]
    rfl

/-! ### One request -/

/-- **A request hands its message over.** -/
theorem exists_follows_perform (w : Writer) (request : Request) :
    ∃ events, Sink.Steps w.sink events (w.perform request).writer.sink ∧
      Sink.HandsOver (w.message request) events (w.perform request).outcome ∧
      (w.perform request).written = Sink.taken events := by
  obtain ⟨events, hfollows⟩ := Sink.exists_follows w.sink (w.message request)
  rw [perform_eq]
  exact ⟨events, hfollows.steps, hfollows.protocol, hfollows.written⟩

theorem written_perform_of_ok (hok : (w.perform request).outcome = .ok ()) :
    (w.perform request).written = w.message request := by
  obtain ⟨events, -, hprotocol, hwritten⟩ := exists_follows_perform w request
  rw [hok] at hprotocol
  exact hwritten.trans hprotocol.taken_eq

/-- As long as requests to write parts succeed, the sink has taken these parts. -/
theorem OnWire.run (h : OnWire b parts written w) (hparts : .finish ∉ requests)
    (hok : ∀ reply ∈ (w.run requests).replies, reply.outcome = .ok ()) :
    OnWire b (parts ++ requests.filterMap Request.part?) (written ++ (w.run requests).written)
      (w.run requests).writer := by
  induction requests generalizing w parts written with
  | nil => simpa [Writer.run, Run.written] using h
  | cons request requests ih =>
    obtain ⟨hfirst, hlater⟩ := List.forall_mem_cons.mp hok
    obtain ⟨hne, hrest⟩ := List.ne_and_not_mem_of_not_mem_cons hparts
    obtain ⟨part, hpart⟩ : ∃ part, request.part? = some part := by
      cases request with
      | send contentType payload => exact ⟨_, rfl⟩
      | writeFrame frame => exact ⟨_, rfl⟩
      | finish => exact absurd rfl hne
    have hall := ih (h.perform hpart (written_perform_of_ok hfirst)) hrest hlater
    rw [List.append_assoc, List.append_assoc] at hall
    rw [List.filterMap_cons_some hpart]
    exact hall

/-- **Short writes and interruptions do not show on the wire.** After some requests to write
parts, another request hands its message over: an orderly conversation with the sink, in which
each write is offered just what is left of the message. The sink takes some first bytes of the
message. The request succeeds, finds the connection closed or fails with an error of the sink:
it succeeds exactly when the sink has taken all of the message and a later flush has succeeded,
the connection is closed exactly when a write took nothing, and an error is answered exactly
when a write or a flush failed with it and was not merely interrupted. As long as all requests
succeed, the sink has taken each part with the delimiter before it, one delimiter more, and what
ends the body if that was requested. -/
theorem run_wire (b : Boundary) (sink : Sink) (sent : List Request) (request : Request) :
    let before := (start b sink).run sent
    let w := before.writer
    let call := w.perform request
    (.finish ∉ sent → (∀ reply ∈ before.replies, reply.outcome = .ok ()) →
      let whole := wire b ((sent ++ [request]).filterMap Request.part?) request.part?.isNone
      before.written ++ w.message request = whole ∧
      (call.outcome = .ok () → before.written ++ call.written = whole)) ∧
    call.written <+: w.message request ∧
    (call.outcome = .ok () ∨ call.outcome = .error .connectionClosed ∨
      ∃ e, call.outcome = .error (.io e)) ∧
    ∃ events, Sink.Steps w.sink events call.writer.sink ∧
      call.written = Sink.taken events ∧
      (∀ early offered result late, events = early ++ .write offered result :: late →
        Sink.taken early ++ offered = w.message request) ∧
      (call.outcome = .ok () ↔
        ∃ early late, events = early ++ .flush none :: late ∧
          Sink.taken early = w.message request) ∧
      (call.outcome = .error .connectionClosed ↔
        ∃ offered, .write offered (.ok 0) ∈ events) ∧
      ∀ e, call.outcome = .error (.io e) ↔ e.kind ≠ .interrupted ∧
        ((∃ offered, .write offered (.error e) ∈ events) ∨ .flush (some e) ∈ events) := by
  intro before w call
  obtain ⟨events, hsteps, hprotocol, hwritten⟩ := exists_follows_perform w request
  refine ⟨?_, ?_, hprotocol.outcome_cases, events, hsteps, hwritten, ?_, hprotocol.ok_iff,
    hprotocol.connectionClosed_iff, hprotocol.io_iff⟩
  · intro hparts hok whole
    have honWire := (onWire_start b sink).run hparts hok
    have hwhole : before.written ++ w.message request = whole := by
      have hpart : [request].filterMap Request.part? = request.part?.toList := by
        cases hrequest : request.part? <;> simp [hrequest]
      dsimp only [whole]
      rw [List.filterMap_append, hpart]
      exact honWire.append_message request
    refine ⟨hwhole, fun hsucceeds => ?_⟩
    rw [written_perform_of_ok hsucceeds]
    exact hwhole
  · rw [hwritten]
    exact hprotocol.taken_isPrefix
  · intro early offered result late heq
    exact (hprotocol.orderly early _ late heq).2

/-! ### Behind a request -/

/-- The bytes that a sink without limits takes. -/
theorem written_run_of_unlimited (hsink : w.sink.Unlimited) (hne : requests ≠ []) :
    (w.run requests).written = w.opening ++ requests.flatMap (Request.text w.boundary) := by
  induction requests generalizing w with
  | nil => exact absurd rfl hne
  | cons request requests ih =>
    have hdelivers := deliver_delivers hsink (request.text w.boundary)
    rw [← perform_eq] at hdelivers
    rw [written_run_cons, hdelivers.written, List.flatMap_cons, List.append_assoc]
    by_cases hlast : requests = []
    · subst hlast
      rfl
    · rw [ih hdelivers.sink hlast, opening_perform, boundary_perform]
      rfl

/-- **A request leaves no trace in the writer unless it was the first**, whatever came of it. A
writer behind a later request, also one that failed and of which nothing was taken, replies to all
that follows, whatever the sink then answers, as if the request had not been made. Behind the first
request it does not: then the opening delimiter counts as written, and a body that a sink without
limits takes from there lacks it. -/
theorem run_after_call_iff (b : Boundary) (sink : Sink) (earlier : List Request)
    (request : Request) :
    let w := ((start b sink).run earlier).writer
    let behind := (w.perform request).writer
    behind = { w with sink := behind.sink, started := true } ∧
    ((∀ (answers : Sink) (later : List Request),
      ({ behind with sink := answers }.run later).replies =
        ({ w with sink := answers }.run later).replies) ↔ earlier ≠ []) ∧
    (earlier = [] → ∀ later : List Request, later ≠ [] →
      ({ w with sink := .unlimited }.run later).written =
        b.delimiter ++ ({ behind with sink := .unlimited }.run later).written) := by
  intro w behind
  have hbehind : behind = { w with sink := behind.sink, started := true } :=
    writer_perform w request
  have hstarted : w.started = !earlier.isEmpty := started_run (start b sink) earlier
  have hboundary : w.boundary = b := boundary_run (start b sink) earlier
  have hfirst : earlier = [] → ∀ later : List Request, later ≠ [] →
      ({ w with sink := .unlimited }.run later).written =
        b.delimiter ++ ({ behind with sink := .unlimited }.run later).written := by
    rintro rfl later hne
    rw [written_run_of_unlimited Sink.unlimited_unlimited hne,
      written_run_of_unlimited Sink.unlimited_unlimited hne, hbehind, opening, opening,
      if_neg (by simp [hstarted]), if_pos rfl, hboundary]
    rfl
  refine ⟨hbehind, ⟨?_, ?_⟩, hfirst⟩
  · rintro hsame rfl
    -- the end of the body would be written with and without the opening delimiter
    have hwritten := hfirst rfl [.finish] (by simp)
    rw [Run.written, Run.written, hsame] at hwritten
    have hlength := congrArg List.length hwritten
    rw [List.length_append] at hlength
    have hpos := b.two_lt_length_delimiter
    omega
  · intro hne answers later
    have hw : w.started = true := by simpa [hstarted] using hne
    rw [hbehind, ← hw]

/-- The first request fails, the sink has taken nothing, and the end of the body that is requested
then does not begin with the delimiter. Had the first request not been made, it would. -/
theorem run_after_call_unopened :
    let w := start ⟨[66], by decide⟩ (.start [.failed ⟨.other, none⟩] [])
    let call := w.perform .finish
    call.outcome = .error (.io ⟨.other, none⟩) ∧ call.written = [] ∧
      ({ call.writer with sink := .unlimited }.run [.finish]).replies =
        [⟨ofText "--\r\n", .ok ()⟩] ∧
      ({ w with sink := .unlimited }.run [.finish]).replies = [⟨ofText "--B--\r\n", .ok ()⟩] ∧
      ¬ ∀ (answers : Sink) (later : List Request),
        ({ call.writer with sink := answers }.run later).replies =
          ({ w with sink := answers }.run later).replies := by
  intro w call
  have hwith : ({ call.writer with sink := .unlimited }.run [.finish]).replies =
      [⟨ofText "--\r\n", .ok ()⟩] := rfl
  have hwithout : ({ w with sink := .unlimited }.run [.finish]).replies =
      [⟨ofText "--B--\r\n", .ok ()⟩] := rfl
  refine ⟨rfl, rfl, hwith, hwithout, fun hsame => ?_⟩
  have hreplies := hsame .unlimited [.finish]
  rw [hwith, hwithout] at hreplies
  injection hreplies with hreply
  injection hreply with hwritten
  exact absurd hwritten (by decide)

end Mjpeg.Writer
