import Mjpeg.Command
import Mjpeg.Proofs.Extraction
import Mjpeg.Proofs.Parts

/-!
# The command that extracts frames

`extract` prints the frames that a reader of the captured body answers, up to the number that was
asked for, and ends as that reader ends (`extract_prints_reading`). With a directory each of them
stands in a file of its own and no other file is written. What the input holds behind the last frame
that was asked for makes no difference.

This supposes that no frame is written over the input. A frame that is ends the input there, so the
frames behind it are not found (`extract_over_input`). What an extraction prints is numbered on from
one whatever becomes of it (`prints_report`).
-/

namespace Mjpeg.Command

open Extract FileTree

/-! ### The captured body -/

/-- The input is a body that was captured: the standard input, or a file. -/
def Captures (env : Environment) (input : String) (body : Bytes) : Prop :=
  if input = "-" then env.stdin = body else env.files.open? input = .ok (.file body)

theorem captures_stdin (env : Environment) : Captures env "-" env.stdin := by
  rw [Captures, if_pos rfl]

theorem captures_file {env : Environment} {input : String} {body : Bytes} (hdash : input ≠ "-")
    (h : env.files.open? input = .ok (.file body)) : Captures env input body := by
  rw [Captures, if_neg hdash]
  exact h

/-- The place of the input, if it is a file. -/
def inputPlace (env : Environment) (input : String) : Option (List String) :=
  if input = "-" then none else env.files.place? input

/-- What reading a captured body to its end comes to. -/
def readingOf (b : Boundary) (body : Bytes) : Reader.Reading :=
  (Reader.start b defaultMaxBuffer [.data body]).readAll

/-- The number of frames that are to be printed of a captured body: all of them, or as many as were
asked for. -/
def extractedCount (arguments : ExtractArguments) (b : Boundary) (body : Bytes) : Nat :=
  let all := (readingOf b body).frames.length
  match arguments.count with
  | none => all
  | some n => min n all

/-- The files once the directory for the frames has been made. -/
def prepared (env : Environment) (arguments : ExtractArguments) : FileTree :=
  (prepareDirectory env.files arguments.outDir).1

/-- The directory for the frames can be made, and so many frames can be written to it. -/
structure Writable (env : Environment) (arguments : ExtractArguments) (k : Nat) : Prop where
  made : (prepareDirectory env.files arguments.outDir).2 = none
  written : ∀ dir ∈ arguments.outDir, ∀ i < k,
    ∃ files, (prepared env arguments).write (framePath dir (i + 1)) [] = .ok files

/-- None of the files for so many frames is the input. -/
def Apart (env : Environment) (arguments : ExtractArguments) (k : Nat) : Prop :=
  ∀ dir ∈ arguments.outDir, ∀ i < k, ∀ place ∈ inputPlace env arguments.input,
    (prepared env arguments).place? (framePath dir (i + 1)) ≠ some place

variable {env : Environment} {arguments : ExtractArguments} {b : Boundary} {body : Bytes}

theorem source_eq {input : String} (h : Captures env input body) :
    source env input = .ok ⟨[.data body], inputPlace env input⟩ := by
  unfold Captures at h
  unfold source inputPlace
  split at h
  · rename_i hdash
    rw [if_pos hdash, if_pos hdash, h]
  · rename_i hdash
    rw [if_neg hdash, if_neg hdash, h]

/-- The frames that are to be printed are the first that the reader answers. -/
theorem wanted_frames (arguments : ExtractArguments) (b : Boundary) (body : Bytes) :
    wanted arguments.count 0 (readingOf b body).frames =
      (readingOf b body).frames.take (extractedCount arguments b body) := by
  unfold wanted extractedCount
  cases arguments.count with
  | none => exact List.take_length.symm
  | some n =>
    dsimp only
    rw [Nat.sub_zero]
    exact List.take_eq_take_min

theorem length_wanted (arguments : ExtractArguments) (b : Boundary) (body : Bytes) :
    (wanted arguments.count 0 (readingOf b body).frames).length =
      extractedCount arguments b body := by
  rw [wanted_frames, List.length_take]
  unfold extractedCount
  cases arguments.count with
  | none => exact Nat.min_self _
  | some n => exact Nat.min_eq_left (Nat.min_le_right _ _)

theorem length_take_extractedCount (arguments : ExtractArguments) (b : Boundary) (body : Bytes) :
    ((readingOf b body).frames.take (extractedCount arguments b body)).length =
      extractedCount arguments b body := by
  rw [← wanted_frames, length_wanted]

theorem Writable.acceptsAll (h : Writable env arguments (extractedCount arguments b body)) :
    AcceptsAll arguments (prepared env arguments) 0 (readingOf b body).frames := by
  intro dir hdir i hfirst hlast
  rw [length_wanted, Nat.zero_add] at hlast
  obtain ⟨files, hwrite⟩ := h.written dir hdir (i - 1) (by omega)
  rw [Nat.sub_add_cancel hfirst] at hwrite
  obtain ⟨place, hleads, hfree, -⟩ := write_eq_ok_iff.mp hwrite
  exact ⟨place, hleads, hfree⟩

/-- The extraction of a captured body reads that body. -/
theorem report_eq_run
    (hb : b.token = Bytes.ofText (String.ofList (tokenOfArgument arguments.boundary.toList)))
    (hbody : Captures env arguments.input body)
    (hmade : (prepareDirectory env.files arguments.outDir).2 = none) :
    Extract.report arguments env = Extract.run arguments (inputPlace env arguments.input)
      (prepared env arguments) 0 0 (Reader.start b defaultMaxBuffer [.data body]) := by
  have hboundary : Boundary.ofToken? (Bytes.ofText
      (String.ofList (tokenOfArgument arguments.boundary.toList))) = .ok b := by
    rw [← hb, Boundary.ofToken?, dif_neg b.token_ne_nil]
  have hprepare : prepareDirectory env.files arguments.outDir = (prepared env arguments, none) := by
    rw [← hmade]
    rfl
  unfold Extract.report
  dsimp only
  rw [hboundary]
  dsimp only
  rw [source_eq hbody]
  dsimp only
  rw [hprepare]
  dsimp only
  rw [printFrames_eq_run _ 0 0 _ (Store.sound_nil _ _ _), Store.tree_nil]

/-- **What any extraction prints.** Without a boundary or an input nothing is done; and else the
directory for the frames is made first. -/
theorem prints_report (arguments : ExtractArguments) (env : Environment) :
    (Extract.report arguments env).records = [] ∧
        (Extract.report arguments env).files = env.files ∨
      Prints arguments (prepared env arguments) 0 (Extract.report arguments env).records
        (Extract.report arguments env).files := by
  unfold Extract.report
  dsimp only
  split
  · exact Or.inl ⟨rfl, rfl⟩
  split
  · exact Or.inl ⟨rfl, rfl⟩
  split
  · rename_i files e hprepare
    have hfiles : prepared env arguments = files := congrArg Prod.fst hprepare
    exact Or.inr (hfiles ▸ .nil _ 0)
  · rename_i files hprepare
    have hfiles : prepared env arguments = files := congrArg Prod.fst hprepare
    rw [printFrames_eq_run _ 0 0 _ (Store.sound_nil _ _ _), Store.tree_nil, hfiles]
    exact Or.inr (prints_run arguments _ files 0 0 _)

/-- Making the directory for the frames leaves the files as they are. -/
theorem sameFiles_prepared (env : Environment) (arguments : ExtractArguments) :
    SameFiles env.files (prepared env arguments) := by
  unfold prepared
  cases arguments.outDir with
  | none => exact SameFiles.refl _
  | some dir => exact sameFiles_makeDirectories env.files dir

/-- Frames that are written apart from the input are not written over it. -/
theorem notOver_of_apart {found : List Decoder.Find} {e : FrameError}
    (haccepts : AcceptsAll arguments (prepared env arguments) 0 (framesIn found))
    (h : Apart env arguments (wanted arguments.count 0 (framesIn found)).length) :
    NotOver (prepared env arguments) (inputPlace env arguments.input)
      (consume arguments e (prepared env arguments) 0 0 found).records := by
  intro place hplace record hrecord path hpath
  rw [(consume_comes e _ 0 0 found haccepts).records, List.mem_mapIdx] at hrecord
  obtain ⟨i, hi, rfl⟩ := hrecord
  obtain ⟨dir, hdir, rfl⟩ := Option.map_eq_some_iff.mp hpath
  rw [Nat.zero_add]
  exact h dir hdir i hi place hplace

/-! ### What is printed -/

theorem run_extract (build : Version.Build) {words : List String} {invocation : Invocation}
    (hparse : parse words = .ok invocation) (hrequest : invocation.request = .extract arguments) :
    run build words env = some (outcomeOf invocation env (Extract.report arguments env)) := by
  rw [run, hparse]
  dsimp only
  rw [hrequest]

theorem files_outcomeOf (invocation : Invocation) (env : Environment) (report : Report) :
    (outcomeOf invocation env report).files = report.files := rfl

/-- An extraction of a captured body for which the files leave room: its frames can be written, and
none of them over the body. -/
structure Feasible (env : Environment) (arguments : ExtractArguments) (b : Boundary)
    (body : Bytes) : Prop where
  /-- Some frames are wanted. -/
  count : arguments.count ≠ some 0
  /-- The boundary is that of the argument without the pairs of dashes before it. -/
  token : b.token = Bytes.ofText (String.ofList (tokenOfArgument arguments.boundary.toList))
  input : Captures env arguments.input body
  writable : Writable env arguments (extractedCount arguments b body)
  apart : Apart env arguments (extractedCount arguments b body)

theorem Feasible.report_eq (h : Feasible env arguments b body) :
    Extract.report arguments env = consume arguments (readingOf b body).error
      (prepared env arguments) 0 0 (readingOf b body).found := by
  have henough : isEnough arguments.count 0 = false :=
    isEnough_eq_false_iff.mpr fun n hn => Nat.pos_of_ne_zero fun hzero => h.count (hzero ▸ hn)
  have hapart : Apart env arguments
      (wanted arguments.count 0 (framesIn (readingOf b body).found)).length :=
    (length_wanted arguments b body).symm ▸ h.apart
  rw [report_eq_run h.token h.input h.writable.made]
  exact run_eq_consume arguments _ _ 0 0 _ henough
    (notOver_of_apart h.writable.acceptsAll hapart)

/-- **What the extraction of a captured body reports.** -/
theorem Feasible.report_comes (h : Feasible env arguments b body) :
    Comes arguments (readingOf b body).error 0 (readingOf b body).frames
      (Extract.report arguments env) := by
  rw [h.report_eq]
  exact consume_comes _ _ 0 0 _ h.writable.acceptsAll

/-- The reader of a captured body ends it or passes the limit. -/
theorem error_readingOf (b : Boundary) (body : Bytes) :
    (readingOf b body).error = .connectionClosed ∨
      ∃ size max, (readingOf b body).error = .bufferOverflow size max := by
  obtain ⟨n, hread⟩ := Reader.readAll_start_isRead b defaultMaxBuffer body
  exact hread.error_eq.imp_right fun ⟨size, hsize⟩ => ⟨size, _, hsize⟩

/-- The reader passes the limit before as many frames were answered as are wanted. -/
def Limited (arguments : ExtractArguments) (b : Boundary) (body : Bytes) : Prop :=
  (∃ size max, (readingOf b body).error = .bufferOverflow size max) ∧
    ∀ n ∈ arguments.count, (readingOf b body).frames.length < n

/-- **How the extraction of a captured body ends.** -/
theorem Feasible.error_eq (h : Feasible env arguments b body) :
    (Limited arguments b body → ∃ size max, (Extract.report arguments env).error =
      some (.ofFrame "extract failed" (.bufferOverflow size max))) ∧
    (¬ Limited arguments b body → (Extract.report arguments env).error = none) := by
  have herror := h.report_comes.error
  rw [Nat.zero_add] at herror
  constructor
  · rintro ⟨⟨size, max, hlimit⟩, hfew⟩
    rw [isEnough_eq_false_iff.mpr hfew, hlimit] at herror
    exact ⟨size, max, herror⟩
  · intro hnot
    cases henough : isEnough arguments.count (readingOf b body).frames.length with
    | true => rw [herror, henough, if_pos rfl]
    | false =>
      rw [herror, henough, if_neg Bool.false_ne_true]
      rcases error_readingOf b body with hclosed | hlimit
      · rw [hclosed]
        rfl
      · exact absurd ⟨hlimit, isEnough_eq_false_iff.mp henough⟩ hnot

/-- The exit code and whether the printing was closed. -/
theorem Feasible.exit_eq (h : Feasible env arguments b body) (invocation : Invocation) :
    let o := outcomeOf invocation env (Extract.report arguments env)
    (Limited arguments b body → o.exit = .dataInvalid) ∧
      (¬ Limited arguments b body → o.exit = .success) ∧
      (Extract.report arguments env).closed = decide (o.exit = .success) := by
  intro o
  obtain ⟨hlimited, hnot⟩ := h.error_eq
  have hclosed := h.report_comes.closed
  by_cases hcase : Limited arguments b body
  · obtain ⟨size, max, herror⟩ := hlimited hcase
    have hexit : o.exit = .dataInvalid := by
      simp only [o, outcomeOf, herror]
      rfl
    refine ⟨fun _ => hexit, fun h => absurd hcase h, ?_⟩
    rw [hclosed, herror, hexit]
    rfl
  · have hexit : o.exit = .success := by simp only [o, outcomeOf, hnot hcase]
    refine ⟨fun h => absurd h hcase, fun _ => hexit, ?_⟩
    rw [hclosed, hnot hcase, hexit]
    rfl

/-- The records that are printed of a captured body. -/
theorem Feasible.records_eq (h : Feasible env arguments b body) :
    (Extract.report arguments env).records =
      ((readingOf b body).frames.take (extractedCount arguments b body)).mapIdx fun i frame =>
        recordOf arguments (i + 1) frame := by
  rw [h.report_comes.records, wanted_frames]
  simp only [Nat.zero_add]

/-- What is printed of a captured body. -/
theorem Feasible.stdout_eq (h : Feasible env arguments b body) (invocation : Invocation) :
    let o := outcomeOf invocation env (Extract.report arguments env)
    o.stdout = Output.render (invocation.format.getD .json) env.clock
      (((readingOf b body).frames.take (extractedCount arguments b body)).mapIdx fun i frame =>
        recordOf arguments (i + 1) frame) (decide (o.exit = .success)) := by
  intro o
  rw [← (h.exit_eq invocation).2.2, ← h.records_eq]
  rfl

/-- The records of some frames hold those frames. -/
theorem map_frame_mapIdx (arguments : ExtractArguments) (frames : List Frame) :
    (frames.mapIdx fun i frame => recordOf arguments (i + 1) frame).map (·.frame) = frames :=
  List.ext_getElem (by simp) fun i hi hi' => by simp [recordOf]

theorem extractedCount_eq_of_limited (h : Limited arguments b body) :
    extractedCount arguments b body = (readingOf b body).frames.length := by
  have hfew := h.2
  unfold extractedCount
  cases hn : arguments.count with
  | none => rfl
  | some n => exact Nat.min_eq_right (hfew n hn).le

/-- Where the frames of a captured body stand then. -/
theorem Feasible.stored (h : Feasible env arguments b body) {dir : String}
    (hdir : arguments.outDir = some dir) :
    Stored (prepared env arguments) dir 0
      ((readingOf b body).frames.take (extractedCount arguments b body))
      (Extract.report arguments env).files := by
  rw [h.report_eq, ← wanted_frames]
  exact consume_stored hdir _ _ 0 0 _ h.writable.acceptsAll

/-- Where the path of each frame leads. -/
theorem Feasible.leadsTo (h : Feasible env arguments b body) {dir : String}
    (hdir : arguments.outDir = some dir) {i : Nat} (hi : i < extractedCount arguments b body) :
    ∃ place, LeadsTo (prepared env arguments) (framePath dir (i + 1)) place := by
  obtain ⟨files, hwrite⟩ := h.writable.written dir hdir i hi
  obtain ⟨place, hleads, -⟩ := write_eq_ok_iff.mp hwrite
  exact ⟨place, hleads⟩

/-- **The files of the frames.** -/
theorem Feasible.files_eq (h : Feasible env arguments b body) {dir : String}
    (hdir : arguments.outDir = some dir) :
    let k := extractedCount arguments b body
    let frames := (readingOf b body).frames.take k
    let files := (Extract.report arguments env).files
    (∀ i (hi : i < frames.length),
      files.open? (framePath dir (i + 1)) = .ok (.file frames[i].payload)) ∧
    (∀ i < k, ∀ j < k,
      files.place? (framePath dir (i + 1)) = files.place? (framePath dir (j + 1)) → i = j) ∧
    ∀ place, (∀ i < k, files.place? (framePath dir (i + 1)) ≠ some place) → ∀ contents,
      files.get? place = some (.file contents) ↔ env.files.get? place = some (.file contents) := by
  intro k frames files
  have hstored := h.stored hdir
  have hlength : frames.length ≤ k := List.length_take_le _ _
  refine ⟨fun i hi => ?_, fun i hi j hj heq => ?_, fun place hnot contents => ?_⟩
  · obtain ⟨place, hleads⟩ := h.leadsTo hdir (Nat.lt_of_lt_of_le hi hlength)
    have hstands := hstored.stands i place hi (by rwa [Nat.zero_add])
    exact open?_eq_file_iff.mpr ⟨place, (LeadsTo.congr hstored.same).mp hleads, hstands⟩
  · obtain ⟨place, hleads⟩ := h.leadsTo hdir hi
    obtain ⟨place', hleads'⟩ := h.leadsTo hdir hj
    rw [← hstored.same.place?_eq, ← hstored.same.place?_eq, hleads.place?_eq, hleads'.place?_eq,
      Option.some.injEq] at heq
    by_contra hne
    exact place_ne hleads hleads' (by omega) heq
  · rw [hstored.other place fun i hi hleads => ?_]
    · exact sameFiles_prepared env arguments place contents
    · rw [Nat.zero_add] at hleads
      refine hnot i (Nat.lt_of_lt_of_le hi hlength) ?_
      rw [← hstored.same.place?_eq]
      exact hleads.place?_eq

theorem Feasible.files_eq_of_none (h : Feasible env arguments b body)
    (hdir : arguments.outDir = none) : (Extract.report arguments env).files = env.files := by
  rw [h.report_eq, files_consume_of_none hdir, prepared, hdir]
  rfl

/-! ### What the input holds behind the frames -/

/-- The frames of a body that goes on begin with those it had. -/
theorem frames_readingOf_append (b : Boundary) (body more : Bytes) :
    (readingOf b body).frames <+: (readingOf b (body ++ more)).frames := by
  obtain ⟨later, hlater⟩ := Reader.found_readAll_append b defaultMaxBuffer body more
  refine ⟨framesIn later, ?_⟩
  rw [Reader.Reading.frames, Reader.Reading.frames, readingOf, readingOf, ← hlater,
    List.filterMap_append]
  rfl

/-- The frames that are wanted of a body that goes on behind them are the same. -/
theorem take_frames_append {more : Bytes} {n : Nat} (hn : arguments.count = some n)
    (hle : n ≤ (readingOf b body).frames.length) :
    (readingOf b (body ++ more)).frames.take (extractedCount arguments b (body ++ more)) =
      (readingOf b body).frames.take (extractedCount arguments b body) := by
  obtain ⟨rest, hrest⟩ := frames_readingOf_append b body more
  rw [← wanted_frames, ← wanted_frames, hn, ← hrest]
  exact List.take_append_of_le_length hle

/-- **Behind the last frame that was asked for the input does not count.** -/
theorem Feasible.sameButFiles {env' : Environment} {more : Bytes} {n : Nat}
    (h : Feasible env arguments b body) (h' : Feasible env' arguments b (body ++ more))
    (hn : arguments.count = some n) (hle : n ≤ (readingOf b body).frames.length) :
    SameButFiles (Extract.report arguments env) (Extract.report arguments env') := by
  obtain ⟨later, hlater⟩ := Reader.found_readAll_append b defaultMaxBuffer body more
  have hfound : (readingOf b (body ++ more)).found = (readingOf b body).found ++ later :=
    hlater.symm
  have henough :
      isEnough arguments.count (0 + (framesIn (readingOf b body).found).length) = true := by
    rw [hn, Nat.zero_add]
    exact decide_eq_true hle
  -- the same frames are wanted of both bodies
  have haccepts : AcceptsAll arguments (prepared env' arguments) 0 (readingOf b body).frames := by
    have hall := h'.writable.acceptsAll
    rwa [AcceptsAll, wanted_frames, take_frames_append hn hle, ← wanted_frames] at hall
  rw [h.report_eq, h'.report_eq, hfound,
    consume_append (readingOf b body).error _ _ 0 0 _ later henough]
  exact consume_sameButFiles _ _ _ 0 0 _ h.writable.acceptsAll haccepts

theorem outcomeOf_of_sameButFiles {env' : Environment} {report report' : Report}
    (h : SameButFiles report report') (hclock : env'.clock = env.clock)
    (hfilter : env'.logFilter = env.logFilter) (invocation : Invocation) :
    (outcomeOf invocation env' report').exit = (outcomeOf invocation env report).exit ∧
      (outcomeOf invocation env' report').stdout = (outcomeOf invocation env report).stdout ∧
      (outcomeOf invocation env' report').stderr = (outcomeOf invocation env report).stderr := by
  rw [← h]
  simp only [outcomeOf, hclock, hfilter, and_self]

/-- **What the command `extract` does with a captured body**, when its frames can be written and
none of them is written over the body. Of the `m` frames that a reader answers before the end or
the limit the first `k` are printed, numbered from one on: all of them, or as many as were asked
for.

With a directory each of them stands in a file of its own, and every other file is as it was. The
exit code is 60 when the limit was passed before as many frames were answered as were wanted, and
0 otherwise. A body that goes on behind the last frame that was asked for is printed alike. -/
theorem extract_prints_reading (build : Version.Build) (words : List String) (env : Environment)
    (invocation : Invocation) (arguments : ExtractArguments) (b : Boundary) (body : Bytes)
    (hparse : parse words = .ok invocation) (hrequest : invocation.request = .extract arguments)
    (h : Feasible env arguments b body) :
    let m := (readingOf b body).frames.length
    let k := extractedCount arguments b body
    let frames := (readingOf b body).frames.take k
    ∃ o, run build words env = some o ∧
      o.stdout = Output.render (invocation.format.getD .json) env.clock
        (frames.mapIdx fun i frame => ⟨i + 1, arguments.input, frame,
          arguments.outDir.map fun dir => join dir (frameFileName (i + 1))⟩)
        (decide (o.exit = .success)) ∧
      (invocation.format = some .raw → o.stdout = frames.flatMap (·.payload)) ∧
      (arguments.outDir = none → o.files = env.files) ∧
      (∀ dir ∈ arguments.outDir,
        (∀ i (hi : i < frames.length),
          o.files.open? (join dir (frameFileName (i + 1))) = .ok (.file frames[i].payload)) ∧
        (∀ i < k, ∀ j < k, o.files.place? (join dir (frameFileName (i + 1))) =
          o.files.place? (join dir (frameFileName (j + 1))) → i = j) ∧
        ∀ place, (∀ i < k, o.files.place? (join dir (frameFileName (i + 1))) ≠ some place) →
          ∀ contents, o.files.get? place = some (.file contents) ↔
            env.files.get? place = some (.file contents)) ∧
      (Limited arguments b body → o.exit.code = 60 ∧ k = m) ∧
      (¬ Limited arguments b body → o.exit.code = 0) ∧
      ∀ n ∈ arguments.count, n ≤ m → ∀ env' more, env'.clock = env.clock →
        env'.logFilter = env.logFilter → Feasible env' arguments b (body ++ more) →
        ∃ o', run build words env' = some o' ∧ o'.exit = o.exit ∧ o'.stdout = o.stdout ∧
          o'.stderr = o.stderr ∧ ∀ dir ∈ arguments.outDir, ∀ i < k,
            o'.files.open? (join dir (frameFileName (i + 1))) =
              o.files.open? (join dir (frameFileName (i + 1))) := by
  intro m k frames
  obtain ⟨hlimited, hnot, -⟩ := h.exit_eq invocation
  have hstdout := h.stdout_eq invocation
  refine ⟨_, run_extract build hparse hrequest, hstdout, fun hraw => ?_, fun hnone => ?_,
    fun dir hdir => ?_, fun hlim => ⟨?_, extractedCount_eq_of_limited hlim⟩, fun hlim => ?_,
    fun n hn hle env' more hclock hfilter h' => ?_⟩
  · rw [hstdout, hraw]
    conv_rhs => rw [← map_frame_mapIdx arguments frames, List.flatMap_map]
    rfl
  · rw [files_outcomeOf]
    exact h.files_eq_of_none hnone
  · rw [files_outcomeOf]
    exact h.files_eq hdir
  · rw [hlimited hlim]
    rfl
  · rw [hnot hlim]
    rfl
  · obtain ⟨hexit, hprinted, hlogged⟩ :=
      outcomeOf_of_sameButFiles (h.sameButFiles h' hn hle) hclock hfilter invocation
    refine ⟨_, run_extract build hparse hrequest, hexit, hprinted, hlogged, fun dir hdir i hi => ?_⟩
    obtain ⟨hopen, -⟩ := h.files_eq hdir
    obtain ⟨hopen', -⟩ := h'.files_eq hdir
    rw [take_frames_append hn hle] at hopen'
    have hi' : i < frames.length := by rwa [length_take_extractedCount]
    rw [files_outcomeOf, files_outcomeOf]
    exact (hopen' i hi').trans (hopen i hi').symm

/-- One of two frames is asked for, and written to a new directory. -/
theorem extract_prints_reading_one :
    let body := Bytes.ofText "--B\r\n\r\nX\r\n--B\r\n\r\nY\r\n--B"
    let words := ["--format", "raw", "extract", "-", "--boundary", "B", "--out-dir", "out",
      "--count", "1"]
    let env : Environment := ⟨body, ⟨[]⟩, ⟨[], .status 404 "Not Found"⟩, none, "now", 0⟩
    ∃ o, run ⟨"", "", "", "", ""⟩ words env = some o ∧ o.stdout = [88] ∧ o.exit.code = 0 ∧
      o.files.open? (join "out" (frameFileName 1)) = .ok (.file [88]) := by
  intro body words env
  let b : Boundary := ⟨[66], by decide⟩
  let arguments : ExtractArguments := ⟨"-", "B", some "out", some 1⟩
  have hcount : extractedCount arguments b body = 1 := by decide +kernel
  have hframes : (readingOf b body).frames.take 1 = [⟨[], [88]⟩] := by decide +kernel
  have hwrite : (prepared env arguments).write (framePath "out" 1) [] =
      .ok ⟨[(["out"], .directory), (["out", "frame-00001.jpg"], .file [])]⟩ := by decide +kernel
  have hfeasible : Feasible env arguments b body := by
    refine ⟨by decide, by decide, captures_stdin env, ⟨by decide +kernel, ?_⟩, ?_⟩
    · rw [hcount]
      rintro dir ⟨⟩ i hi
      obtain rfl : i = 0 := by omega
      exact ⟨_, hwrite⟩
    · rintro dir - i - place hplace
      exact absurd hplace (by simp [inputPlace, arguments])
  obtain ⟨o, hrun, -, hraw, -, hfiles, -, hexit, -⟩ :=
    extract_prints_reading ⟨"", "", "", "", ""⟩ words env
      ⟨some .raw, .text, .info, .extract arguments⟩ arguments b body (by decide +kernel) rfl
      hfeasible
  rw [hcount, hframes] at hraw hfiles
  refine ⟨o, hrun, hraw rfl, hexit fun hlimited => ?_, (hfiles "out" rfl).1 0 Nat.one_pos⟩
  exact absurd (hlimited.2 1 rfl) (by decide +kernel)

/-! ### All frames to no directory -/

/-- All frames of a captured body, to no directory. -/
def plainArguments (input boundary : String) : ExtractArguments := ⟨input, boundary, none, none⟩

/-- Printing all frames needs nothing of the files. -/
theorem feasible_plainArguments {input boundary : String}
    (htoken : b.token = Bytes.ofText (String.ofList (tokenOfArgument boundary.toList)))
    (hbody : Captures env input body) : Feasible env (plainArguments input boundary) b body where
  count := nofun
  token := htoken
  input := hbody
  writable := ⟨rfl, nofun⟩
  apart := nofun

/-- The frames of a body as the command prints them without a directory. -/
def printedFrames (invocation : Invocation) (env : Environment) (input : String)
    (frames : List Frame) (closed : Bool) : Bytes :=
  Output.render (invocation.format.getD .json) env.clock
    (frames.mapIdx fun i frame => ⟨i + 1, input, frame, none⟩) closed

/-- Printing all frames prints those that a reader of the body answers. -/
theorem stdout_plainArguments {input boundary : String}
    (htoken : b.token = Bytes.ofText (String.ofList (tokenOfArgument boundary.toList)))
    (hbody : Captures env input body) (invocation : Invocation) :
    let o := outcomeOf invocation env (Extract.report (plainArguments input boundary) env)
    o.stdout = printedFrames invocation env input (readingOf b body).frames
      (decide (o.exit = .success)) := by
  have hstdout := (feasible_plainArguments htoken hbody).stdout_eq invocation
  have hall : extractedCount (plainArguments input boundary) b body =
      (readingOf b body).frames.length := rfl
  rwa [hall, List.take_length] at hstdout

/-- Nothing is printed of no records. -/
theorem render_nil_false (format : OutputFormat) (clock : String) :
    Output.render format clock [] false = [] := by
  cases format <;> rfl

/-- An argument of nothing but pairs of dashes is refused. -/
theorem report_of_token_nil {input boundary : String} (h : tokenOfArgument boundary.toList = []) :
    Extract.report (plainArguments input boundary) env =
      { files := env.files, error := some ⟨.usage, "invalid boundary: " ++
          (FrameError.missingBoundary "").message⟩ } := by
  have hboundary : Boundary.ofToken? (Bytes.ofText (String.ofList
      (tokenOfArgument boundary.toList))) = .error (.missingBoundary "") := by
    rw [h]
    rfl
  unfold Extract.report
  dsimp only [plainArguments]
  rw [hboundary]

/-- Printing all frames ends well only if the argument is not just pairs of dashes. -/
theorem exists_boundary_of_success {input boundary : String} {invocation : Invocation}
    (hexit : (outcomeOf invocation env
      (Extract.report (plainArguments input boundary) env)).exit = .success) :
    ∃ b : Boundary,
      b.token = Bytes.ofText (String.ofList (tokenOfArgument boundary.toList)) := by
  have hne : Bytes.ofText (String.ofList (tokenOfArgument boundary.toList)) ≠ [] := by
    intro hnil
    rw [Bytes.ofText, String.toList_ofList] at hnil
    have htoken : tokenOfArgument boundary.toList = [] := Text.flatMap_utf8EncodeChar_inj hnil
    rw [report_of_token_nil htoken] at hexit
    exact absurd hexit (by simp [outcomeOf])
  exact ⟨Boundary.mk _ hne, rfl⟩

/-- Printing all frames ends well only if the input was read to its end. Then the frames are those
of the body. -/
theorem frames_of_success {input boundary : String} {invocation : Invocation}
    (htoken : b.token = Bytes.ofText (String.ofList (tokenOfArgument boundary.toList)))
    (hbody : Captures env input body)
    (hexit : (outcomeOf invocation env
      (Extract.report (plainArguments input boundary) env)).exit = .success) :
    (readingOf b body).frames = Body.frames b body := by
  obtain ⟨n, hread⟩ := Reader.readAll_start_isRead b defaultMaxBuffer body
  rcases error_readingOf b body with hclosed | hlimit
  · exact hread.frames_eq_of_closed hclosed
  · have hexits := (feasible_plainArguments htoken hbody).exit_eq invocation
    rw [hexits.1 ⟨hlimit, nofun⟩] at hexit
    exact absurd hexit (by decide)

/-- Printing all frames of a body that is no longer than the limit ends well. -/
theorem success_of_length_le {input boundary : String} {invocation : Invocation}
    (htoken : b.token = Bytes.ofText (String.ofList (tokenOfArgument boundary.toList)))
    (hbody : Captures env input body) (hle : body.length ≤ defaultMaxBuffer) :
    (outcomeOf invocation env (Extract.report (plainArguments input boundary) env)).exit =
      .success := by
  obtain ⟨n, hread⟩ := Reader.readAll_start_isRead b defaultMaxBuffer body
  have hexits := (feasible_plainArguments htoken hbody).exit_eq invocation
  refine hexits.2.1 fun hlimited => ?_
  obtain ⟨⟨size, max, hlimit⟩, -⟩ := hlimited
  have hclosed : (readingOf b body).error = .connectionClosed := hread.closed_of_length_le hle
  exact absurd (hclosed.symm.trans hlimit) (by simp)

/-! ### A frame over the input -/

open Bytes

/-- A boundary of one letter. -/
def shortBoundary : Boundary := ⟨[66], by decide⟩

/-- A part between delimiters of that boundary, as the only one so far. -/
def onePart (letter : UInt8) : Bytes :=
  ofText "--B" ++ (ofText "\r\n\r\n" ++ letter :: ofText "\r\n") ++ ofText "--B"

/-- A frame, blanks for a whole read, and another frame. -/
def longBody : Bytes := onePart 65 ++ (List.replicate readSize 32 ++ onePart 67)

theorem not_infix_replicate {d : Bytes} {n : Nat} {byte blank : UInt8} (hmem : byte ∈ d)
    (hne : byte ≠ blank) : ¬ d <:+: List.replicate n blank :=
  fun h => hne (List.eq_of_mem_replicate (h.subset hmem))

/-- A frame with blanks behind it. -/
theorem segments_onePart_append (n : Nat) :
    Body.segments shortBoundary (onePart 65 ++ List.replicate n 32) =
        [[], ofText "\r\n\r\nA\r\n"] ∧
      Body.remainder shortBoundary (onePart 65 ++ List.replicate n 32) = List.replicate n 32 := by
  refine Body.eq_of_isCut ⟨?_, ?_, fun i hocc => ?_⟩
  · rfl
  · refine firstClosed_cons_iff.mpr ⟨firstAt_of_not_isInfix (by decide), ?_⟩
    exact firstClosed_cons_iff.mpr ⟨firstAt_of_not_isInfix (by decide), firstClosed_nil _⟩
  · have hmem : (45 : UInt8) ∈ shortBoundary.delimiter := by decide
    exact not_infix_replicate hmem (by decide) (infix_iff_exists_occurs.mpr ⟨i, hocc⟩)

/-- Blanks with a frame behind them. -/
theorem segments_append_onePart {n : Nat} (h : n ≠ 0) :
    Body.segments shortBoundary (List.replicate n 32 ++ onePart 67) =
      [List.replicate n 32, ofText "\r\n\r\nC\r\n"] := by
  have hmem : (45 : UInt8) ∈ shortBoundary.delimiter := by decide
  have hblanks : FirstAt shortBoundary.delimiter
      (List.replicate n 32 ++ shortBoundary.delimiter) (List.replicate n (32 : UInt8)).length := by
    refine firstAt_of_getLast? (b := 32) (not_infix_replicate hmem (by decide)) ?_ (by decide)
    rw [List.getLast?_replicate, if_neg h]
  have hcut : IsCut shortBoundary.delimiter (List.replicate n 32 ++ onePart 67)
      [List.replicate n 32, ofText "\r\n\r\nC\r\n"] [] := by
    refine ⟨?_, ?_, Decoder.not_occurs_nil shortBoundary⟩
    · rw [closed_cons, List.append_nil]
      rfl
    · refine firstClosed_cons_iff.mpr ⟨hblanks, ?_⟩
      exact firstClosed_cons_iff.mpr ⟨firstAt_of_not_isInfix (by decide), firstClosed_nil _⟩
  exact (Body.eq_of_isCut hcut).1

theorem frames_onePart_append (n : Nat) :
    Body.frames shortBoundary (onePart 65 ++ List.replicate n 32) = [⟨[], [65]⟩] := by
  rw [Body.frames, (segments_onePart_append n).1]
  decide

theorem frames_longBody : Body.frames shortBoundary longBody = [⟨[], [65]⟩, ⟨[], [67]⟩] := by
  have hblank : Part.ofSegment? (List.replicate readSize 32) = none := by
    have hmem : (13 : UInt8) ∈ headEnd := by decide
    exact Part.ofSegment?_eq_none (not_infix_replicate hmem (by decide))
  have hlater : Body.frames shortBoundary (List.replicate readSize 32 ++ onePart 67) =
      [⟨[], [67]⟩] := by
    rw [Body.frames, segments_append_onePart (by decide), List.filterMap_cons, hblank]
    decide
  rw [longBody, ← List.append_assoc, Body.frames_append, frames_onePart_append,
    (segments_onePart_append readSize).2, hlater]
  rfl

/-- The first read takes the first frame and nothing but blanks behind it. -/
theorem taken_longBody :
    Reader.taken longBody 1 = onePart 65 ++ List.replicate (readSize - 13) 32 := by
  have hlength : (onePart 65).length = 13 := by decide
  have hblanks : (List.replicate readSize (32 : UInt8) ++ onePart 67).take (readSize - 13) =
      List.replicate (readSize - 13) 32 := by
    rw [List.take_append_of_le_length (by rw [List.length_replicate]; exact Nat.sub_le _ _),
      List.take_replicate, Nat.min_eq_left (Nat.sub_le _ _)]
  rw [Reader.taken, Nat.one_mul, longBody, List.take_append, hlength, hblanks,
    List.take_of_length_le (by rw [hlength]; decide)]

theorem length_longBody : longBody.length ≤ defaultMaxBuffer := by
  have hfirst : (onePart 65).length = 13 := by decide
  have hsecond : (onePart 67).length = 13 := by decide
  rw [longBody, List.length_append, List.length_append, List.length_replicate, hfirst, hsecond]
  decide

/-- A reader of that body answers both frames. -/
theorem frames_readingOf_longBody :
    (readingOf shortBoundary longBody).frames = [⟨[], [65]⟩, ⟨[], [67]⟩] := by
  obtain ⟨n, hread⟩ := Reader.readAll_start_isRead shortBoundary defaultMaxBuffer longBody
  rw [readingOf, hread.frames_eq_of_closed (hread.closed_of_length_le length_longBody),
    frames_longBody]

/-- That body is the file for the first frame. -/
def overInput : Environment :=
  ⟨[], ⟨[(["frame-00001.jpg"], .file longBody)]⟩, ⟨[], .status 404 "Not Found"⟩, none, "now", 0⟩

/-- The frames of that file are to be written next to it. -/
def overInputArguments : ExtractArguments := ⟨"frame-00001.jpg", "B", some ".", none⟩

theorem prepared_overInput :
    prepareDirectory overInput.files overInputArguments.outDir = (overInput.files, none) := by
  have hmade : ∀ t : FileTree, t.makeDirectories "." = (t, none) := fun t => by
    rw [makeDirectories, route_eq]
    rfl
  change prepareDirectory _ (some ".") = _
  rw [prepareDirectory, hmade]
  rfl

theorem leadsTo_overInput (t : FileTree) : LeadsTo t "frame-00001.jpg" ["frame-00001.jpg"] := by
  rw [← join_empty "frame-00001.jpg"]
  exact leadsTo_here t (.inl rfl) (by decide) (by decide) (by decide) (by decide)

theorem captures_overInput : Captures overInput overInputArguments.input longBody :=
  captures_file (by decide) (open?_eq_file_iff.mpr ⟨_, leadsTo_overInput _, rfl⟩)

/-- The first two frames have places next to the input, the first that of the input. -/
theorem leadsTo_frame_overInput (t : FileTree) :
    LeadsTo t (framePath "." 1) ["frame-00001.jpg"] ∧
      LeadsTo t (framePath "." 2) ["frame-00002.jpg"] := by
  have hnames : frameFileName 1 = "frame-00001.jpg" ∧ frameFileName 2 = "frame-00002.jpg" := by
    decide
  rw [framePath, framePath, hnames.1, hnames.2]
  constructor <;> exact leadsTo_here t (.inr rfl) (by decide) (by decide) (by decide) (by decide)

theorem write_overInput (contents : Bytes) : overInput.files.write (framePath "." 1) contents =
    .ok ⟨[(["frame-00001.jpg"], .file contents)]⟩ :=
  write_eq_ok_iff.mpr ⟨_, (leadsTo_frame_overInput _).1, nofun, rfl⟩

theorem writable_overInput : Writable overInput overInputArguments 2 := by
  refine ⟨congrArg Prod.snd prepared_overInput, ?_⟩
  rintro dir ⟨⟩ i hi
  rw [prepared, prepared_overInput]
  obtain rfl | rfl : i = 0 ∨ i = 1 := by omega
  · exact ⟨_, write_overInput []⟩
  · exact ⟨_, write_eq_ok_iff.mpr ⟨_, (leadsTo_frame_overInput _).2, nofun, rfl⟩⟩

theorem token_shortBoundary : shortBoundary.token =
    Bytes.ofText (String.ofList (tokenOfArgument overInputArguments.boundary.toList)) := by
  decide

/-- The second frame is not found. -/
theorem report_overInput : ∃ events, Extract.report overInputArguments overInput =
    { records := [⟨1, "frame-00001.jpg", ⟨[], [65]⟩, some "./frame-00001.jpg"⟩]
      closed := true
      events
      files := ⟨[(["frame-00001.jpg"], .file [65])]⟩
      error := none } := by
  have hfirst : Body.frames shortBoundary (Reader.taken longBody 1) = [⟨[], [65]⟩] := by
    rw [taken_longBody, frames_onePart_append]
  have hrest : (Body.remainder shortBoundary (Reader.taken longBody 1)).length ≤
      defaultMaxBuffer := by
    rw [taken_longBody, (segments_onePart_append _).2, List.length_replicate]
    decide
  -- the first call answers the first frame and has read nothing behind the first read
  obtain ⟨houtcome, hanswered⟩ := Reader.readFrame_start hfirst
  rcases hcall : (Reader.start shortBoundary defaultMaxBuffer [.data longBody]).readFrame with
    ⟨rest, skipped, outcome⟩
  rw [hcall] at houtcome hanswered
  dsimp only at houtcome hanswered
  subst houtcome
  -- the frame is written over the input, so the second call has nothing to read
  have hpath : framePath "." 1 = "./frame-00001.jpg" := by
    rw [framePath, join_of_ne (by decide) (by decide)]
    rfl
  have hwrite : Extract.writeFrame (prepared overInput overInputArguments) 1 ⟨[], [65]⟩ (some ".") =
      .ok (some "./frame-00001.jpg", ⟨[(["frame-00001.jpg"], .file [65])]⟩) := by
    rw [prepared, prepared_overInput, Extract.writeFrame, ← framePath, write_overInput, hpath]
  have hover : readOn ⟨[(["frame-00001.jpg"], .file [65])]⟩ (some ["frame-00001.jpg"])
      (some "./frame-00001.jpg") rest = ⟨rest.decoder, [], rest.reads⟩ := by
    refine if_pos ?_
    rw [← hpath, Option.bind_some, (leadsTo_frame_overInput _).1.place?_eq]
    rfl
  have hclosed := Reader.readFrame_of_nil hanswered hfirst hrest rest.reads
  rcases hcall' : (Reader.mk rest.decoder [] rest.reads).readFrame with ⟨last, skipped', outcome⟩
  rw [hcall'] at hclosed
  dsimp only at hclosed
  subst hclosed
  have hplace : inputPlace overInput overInputArguments.input = some ["frame-00001.jpg"] :=
    (leadsTo_overInput overInput.files).place?_eq
  rw [report_eq_run token_shortBoundary captures_overInput writable_overInput.made, hplace,
    run_of_ok hcall hwrite rfl, hover, run_of_error hcall']
  exact ⟨_, rfl⟩

/-- **A frame that is written over the input ends it.** A reader of the body answers two frames, and
both can be written; but the first is written over the body, so the second is not found. -/
theorem extract_over_input :
    let words := ["--format", "pretty", "extract", "frame-00001.jpg", "--boundary", "B",
      "--out-dir", "."]
    let k := extractedCount overInputArguments shortBoundary longBody
    parse words = .ok ⟨some .pretty, .text, .info, .extract overInputArguments⟩ ∧
      shortBoundary.token =
        Bytes.ofText (String.ofList (tokenOfArgument overInputArguments.boundary.toList)) ∧
      Captures overInput overInputArguments.input longBody ∧
      Writable overInput overInputArguments k ∧
      (readingOf shortBoundary longBody).frames = [⟨[], [65]⟩, ⟨[], [67]⟩] ∧ k = 2 ∧
      ∃ o, run ⟨"", "", "", "", ""⟩ words overInput = some o ∧ o.exit.code = 0 ∧
        o.stdout = Output.render .pretty "now"
          [⟨1, "frame-00001.jpg", ⟨[], [65]⟩, some "./frame-00001.jpg"⟩] true ∧
        o.files.open? (join "." (frameFileName 2)) ≠ .ok (.file [67]) := by
  intro words k
  have hk : k = 2 := by
    change (readingOf shortBoundary longBody).frames.length = 2
    rw [frames_readingOf_longBody]
    rfl
  have hparse : parse words = .ok ⟨some .pretty, .text, .info, .extract overInputArguments⟩ := by
    decide +kernel
  obtain ⟨events, hreport⟩ := report_overInput
  refine ⟨hparse, token_shortBoundary, captures_overInput, hk ▸ writable_overInput,
    frames_readingOf_longBody, hk, _, run_extract _ hparse rfl, ?_, ?_, ?_⟩
  · rw [hreport]
    rfl
  · rw [hreport]
    rfl
  · have hopen : (⟨[(["frame-00001.jpg"], .file [65])]⟩ : FileTree).open?
        (join "." (frameFileName 2)) ≠ .ok (.file [67]) := by
      decide +kernel
    rw [files_outcomeOf, hreport]
    exact hopen

end Mjpeg.Command
