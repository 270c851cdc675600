import Mjpeg.Proofs.Headers
import Mjpeg.Proofs.Pipeline

/-!
# A body that is printed as a body

With the format `mjpeg` the frames that are printed make up a body again, under a boundary of its
own (`Output.render_mjpeg`). As long as the delimiter of that boundary does not occur in what is
printed of a frame, a reader of the printed body answers the same payloads in the same order,
under the content types that were printed; and extracting the printed body prints it once more,
byte for byte (`extract_reprints`). Nothing is supposed of the headers in the captured body: what
matters about them holds of every frame that was read (`Frame.Received`).
-/

namespace Mjpeg

open Bytes

namespace Output

/-- Printing records as a body is sending the parts of their frames. -/
theorem body_eq_sendAll (w : Writer) (closed : Bool) (records : List FrameRecord) :
    body w closed records =
      let sent := w.sendAll (records.map (·.frame.part))
      if closed then sent.written ++ sent.writer.finish.written else sent.written := by
  induction records generalizing w with
  | nil =>
    cases closed with
    | false => rfl
    | true => exact (List.nil_append _).symm
  | cons r records ih =>
    rw [body]
    dsimp only
    rw [ih, List.map_cons, Frame.part, Writer.sendAll]
    cases closed with
    | false => rfl
    | true => exact (List.append_assoc _ _ _).symm

/-- **Records that are printed as a body are the body of their parts.** -/
theorem render_mjpeg (clock : String) (records : List FrameRecord) (closed : Bool) :
    render .mjpeg clock records closed =
      Writer.body boundary (records.map (·.frame.part)) closed :=
  body_eq_sendAll _ closed records

end Output

/-! ### Frames that are printed as a body -/

/-- The delimiter of the printed body does not occur in what is printed of the frames. -/
def PrintApart (frames : List Frame) : Prop :=
  ∀ f ∈ frames, ¬ Output.boundary.delimiter <:+: Part.encode f.part.1 f.part.2

/-- **The frames of a printed body** are those that were printed, with the headers that the writer
puts. -/
theorem frames_body_part {frames : List Frame} (hreceived : ∀ f ∈ frames, f.Received)
    (hapart : PrintApart frames) (finished : Bool) :
    Body.frames Output.boundary (Writer.body Output.boundary (frames.map Frame.part) finished) =
      frames.map Frame.resent := by
  have hparts : ∀ part ∈ frames.map Frame.part, Writer.Readable Output.boundary part := by
    intro part hpart
    obtain ⟨f, hf, rfl⟩ := List.mem_map.mp hpart
    exact ⟨(hreceived f hf).isValue_part.oneLine, hapart f hf⟩
  have hline : Writer.OneLine Output.boundary := ⟨by decide, by decide⟩
  rw [(Writer.body_reads hline hparts finished).1, List.filterMap_map, ← List.filterMap_eq_map]
  exact List.filterMap_congr fun f hf => (hreceived f hf).frameOf?_part

/-- Frames that are printed, read and printed again make up the same parts. -/
theorem map_part_resent {frames : List Frame} (hreceived : ∀ f ∈ frames, f.Received) :
    (frames.map Frame.resent).map Frame.part = frames.map Frame.part := by
  rw [List.map_map]
  exact List.map_congr_left fun f hf => (hreceived f hf).part_resent

namespace Command

variable {env : Environment} {invocation : Invocation} {input : String} {body : Bytes}

/-- Frames that are printed as a body make up the body of their parts. -/
theorem printedFrames_mjpeg (hformat : invocation.format = some .mjpeg) (frames : List Frame)
    (closed : Bool) :
    printedFrames invocation env input frames closed =
      Writer.body Output.boundary (frames.map Frame.part) closed := by
  rw [printedFrames, hformat]
  change Output.render .mjpeg _ _ _ = _
  rw [Output.render_mjpeg]
  conv_rhs => rw [← map_frame_mapIdx (plainArguments input "") frames, List.map_map]
  rfl

/-- What is printed of a captured body that was read to its end. -/
theorem stdout_mjpeg {b : Boundary} {boundary : String} (hformat : invocation.format = some .mjpeg)
    (htoken : b.token = ofText (String.ofList (Extract.tokenOfArgument boundary.toList)))
    (hbody : Captures env input body)
    (hexit : (outcomeOf invocation env
      (Extract.report (plainArguments input boundary) env)).exit = .success) :
    (outcomeOf invocation env (Extract.report (plainArguments input boundary) env)).stdout =
      Writer.body Output.boundary ((Body.frames b body).map Frame.part) true := by
  rw [stdout_plainArguments htoken hbody invocation, printedFrames_mjpeg hformat,
    frames_of_success htoken hbody hexit, hexit, decide_eq_true rfl]

/-- **A body that is printed as a body loses nothing, and is printed again as it is.** All frames
of a captured body have been printed if the command ends well. A decoder of what was printed,
within its limit, answers as many frames in the same order, with the same payloads, and with the
content types of those frames, or that of a JPEG image for a frame without; and extracting what
was printed prints it again. The delimiter of the printed body must not occur in the parts that
were printed. -/
theorem extract_reprints (build : Version.Build) (words : List String) (env : Environment)
    (invocation : Invocation) (input boundary : String) (body : Bytes) (o : Outcome)
    (hparse : parse words = .ok invocation) (hformat : invocation.format = some .mjpeg)
    (hrequest : invocation.request = .extract (plainArguments input boundary))
    (hbody : Captures env input body) (hrun : run build words env = some o)
    (hexit : o.exit = .success) :
    ∃ b : Boundary,
      b.token = ofText (String.ofList (Extract.tokenOfArgument boundary.toList)) ∧
      (readingOf b body).frames = Body.frames b body ∧
      (PrintApart (Body.frames b body) →
        (∀ maxBuffer chunks, chunks.flatten = o.stdout →
          let fed := (Decoder.start Output.boundary maxBuffer).decodeAll chunks
          fed.WithinLimit →
          fed.frames.map (fun f => (f.contentType?, f.payload)) =
            (Body.frames b body).map fun f =>
              (some (f.contentType?.getD "image/jpeg"), f.payload)) ∧
        ∀ words' env' invocation' input' o', parse words' = .ok invocation' →
          invocation'.format = some .mjpeg →
          invocation'.request = .extract (plainArguments input' "snapshooter") →
          Captures env' input' o.stdout → run build words' env' = some o' → o'.exit = .success →
          o'.stdout = o.stdout) := by
  obtain rfl := Option.some.inj ((run_extract build hparse hrequest).symm.trans hrun)
  obtain ⟨b, htoken⟩ := exists_boundary_of_success hexit
  have hreceived : ∀ f ∈ Body.frames b body, f.Received := fun f => Frame.received_of_mem_frames
  have hstdout := stdout_mjpeg hformat htoken hbody hexit
  refine ⟨b, htoken, frames_of_success htoken hbody hexit, fun hapart => ⟨?_, ?_⟩⟩
  · intro maxBuffer chunks hchunks fed hlimit
    obtain ⟨hframes, -⟩ :=
      Decoder.decodeAll_start_reads Output.boundary maxBuffer chunks hlimit
    rw [hframes, hchunks, hstdout, frames_body_part hreceived hapart, List.map_map]
    exact List.map_congr_left fun f hf =>
      congrArg (·, f.payload) (hreceived f hf).contentType?_resent
  · intro words' env' invocation' input' o' hparse' hformat' hrequest' hbody' hrun' hexit'
    obtain rfl := Option.some.inj ((run_extract build hparse' hrequest').symm.trans hrun')
    have htoken' : Output.boundary.token =
        ofText (String.ofList (Extract.tokenOfArgument "snapshooter".toList)) := by
      decide
    rw [stdout_mjpeg hformat' htoken' hbody' hexit', hstdout, frames_body_part hreceived hapart,
      map_part_resent hreceived]

/-- A content type in capitals, and a frame without one. -/
theorem extract_reprints_two :
    let body := ofText "--B\r\nCONTENT-TYPE: image/png\r\n\r\nX\r\n--B\r\n\r\nY\r\n--B"
    let build : Version.Build := ⟨"", "", "", "", ""⟩
    let env (stdin : Bytes) : Environment :=
      ⟨stdin, ⟨[]⟩, ⟨[], .status 404 "Not Found"⟩, none, "now", 0⟩
    let words (boundary : String) := ["--format", "mjpeg", "extract", "-", "--boundary", boundary]
    ∃ o, run build (words "B") (env body) = some o ∧
      ((Decoder.start Output.boundary 500).decodeAll [o.stdout]).frames.map
          (fun f => (f.contentType?, f.payload)) =
        [(some "image/png", ofText "X"), (some "image/jpeg", ofText "Y")] ∧
      ∃ o', run build (words "snapshooter") (env o.stdout) = some o' ∧ o'.stdout = o.stdout := by
  intro body build env words
  let b : Boundary := ⟨[66], by decide⟩
  let frames : List Frame := [⟨[("CONTENT-TYPE", "image/png")], ofText "X"⟩, ⟨[], ofText "Y"⟩]
  have hframes : Body.frames b body = frames := by decide +kernel
  have hapart : PrintApart frames := by
    unfold PrintApart
    decide +kernel
  let invocation (boundary : String) : Invocation :=
    ⟨some .mjpeg, .text, .info, .extract (plainArguments "-" boundary)⟩
  have hparse : parse (words "B") = .ok (invocation "B") := by decide +kernel
  have hparse' : parse (words "snapshooter") = .ok (invocation "snapshooter") := by decide +kernel
  let o := outcomeOf (invocation "B") (env body)
    (Extract.report (plainArguments "-" "B") (env body))
  let o' := outcomeOf (invocation "snapshooter") (env o.stdout)
    (Extract.report (plainArguments "-" "snapshooter") (env o.stdout))
  have hexit : o.exit = .success :=
    success_of_length_le (b := b) (by decide) (captures_stdin (env body)) (by decide)
  have hlength : o.stdout.length ≤ 500 := by decide +kernel
  have hexit' : o'.exit = .success :=
    success_of_length_le (b := Output.boundary) (by decide) (captures_stdin (env o.stdout))
      (hlength.trans (by decide))
  have hrun : run build (words "B") (env body) = some o := run_extract build hparse rfl
  have hrun' : run build (words "snapshooter") (env o.stdout) = some o' :=
    run_extract build hparse' rfl
  obtain ⟨b', htoken, -, hall⟩ := extract_reprints build (words "B") (env body) (invocation "B") "-"
    "B" body o hparse rfl rfl (captures_stdin (env body)) hrun hexit
  obtain rfl : b' = b := by
    cases b'
    congr
  rw [hframes] at hall
  obtain ⟨hdecoded, hreprinted⟩ := hall hapart
  have hlimit : ((Decoder.start Output.boundary 500).decodeAll [o.stdout]).WithinLimit := by
    refine Decoder.withinLimit_of_length_le (Decoder.marked_of_scanned_eq_zero rfl) _ ?_
    rw [List.flatten_singleton]
    exact (Nat.zero_add _).le.trans hlength
  refine ⟨o, hrun, hdecoded 500 [o.stdout] (by simp) hlimit, o', hrun', ?_⟩
  exact hreprinted (words "snapshooter") (env o.stdout) (invocation "snapshooter") "-" o' hparse'
    rfl rfl (captures_stdin (env o.stdout)) hrun' hexit'

end Command

end Mjpeg
