import Mjpeg.Proofs.Pipeline

/-!
# How many frames are printed

Both loops that print frames ask whether there are enough of them only when one has been printed. So
a number of frames that is asked for is never passed, unless it is zero: then one frame is printed
all the same, as if one had been asked for (`report_count_zero`, `Watch.report_count_zero`).

What `watch` has printed at a time is what its loop makes of the frames published until then
(`Watch.printedBy`), and so it is when it ends (`Watch.records_report`). The loop takes frames up to
the one that is enough (`Watch.printing_eq`).

The bounds of both are in `count_bounds`, and `count_zero_prints_one` is a run that prints a frame
although none was asked for.
-/

namespace Mjpeg.Command

open Extract FileTree

/-- At most so many records, or the one that is printed when none is asked for. -/
def WithinCount (n : Nat) (records : List FrameRecord) : Prop :=
  records.length ≤ n ∨ n = 0 ∧ records.length = 1

theorem withinCount_of_length_le {n : Nat} {records : List FrameRecord}
    (h : records.length ≤ max n 1) : WithinCount n records := by
  unfold WithinCount
  omega

/-! ### Extracting -/

/-- When one frame is enough it makes no difference how many are. -/
theorem run_eq_run_of_isEnough {arguments arguments' : ExtractArguments}
    (hinput : arguments.input = arguments'.input) (houtDir : arguments.outDir = arguments'.outDir)
    (henough : isEnough arguments.count 1 = true) (henough' : isEnough arguments'.count 1 = true)
    (input : Option (List String)) (files : FileTree) (malformed : Nat) (r : Reader) :
    Extract.run arguments input files 0 malformed r =
      Extract.run arguments' input files 0 malformed r := by
  rcases hcall : r.readFrame with ⟨rest, skipped, e | frame⟩
  · rw [run_of_error hcall, run_of_error hcall]
  · cases hwrite : writeFrame files (0 + 1) frame arguments.outDir with
    | error e => rw [run_of_write_error hcall hwrite, run_of_write_error hcall (houtDir ▸ hwrite)]
    | ok written =>
      rw [run_of_write hcall hwrite, run_of_write hcall (houtDir ▸ hwrite), if_pos henough,
        if_pos henough', hinput]

/-- **An extraction for which no frame is asked does what one does for which one is.** -/
theorem report_count_zero (arguments : ExtractArguments) (env : Environment) :
    Extract.report { arguments with count := some 0 } env =
      Extract.report { arguments with count := some 1 } env := by
  unfold Extract.report
  dsimp only
  split
  · rfl
  split
  · rfl
  split
  · rfl
  · rw [printFrames_eq_run _ 0 0 _ (Store.sound_nil _ _ _),
      printFrames_eq_run _ 0 0 _ (Store.sound_nil _ _ _)]
    refine run_eq_run_of_isEnough ?_ ?_ ?_ ?_ _ _ 0 _ <;> rfl

theorem withinCount_records_report {arguments : ExtractArguments} {n : Nat}
    (hn : arguments.count = some n) (env : Environment) :
    WithinCount n (Extract.report arguments env).records := by
  rcases prints_report arguments env with ⟨hnil, -⟩ | hprints
  · exact Or.inl (hnil ▸ Nat.zero_le n)
  · exact withinCount_of_length_le (hprints.length_le hn)

/-- No more files change than records are printed. -/
theorem exists_places_report (arguments : ExtractArguments) (env : Environment) :
    ∃ places : List (List String),
      places.length ≤ (Extract.report arguments env).records.length ∧
      ∀ place ∉ places, ∀ contents,
        (Extract.report arguments env).files.get? place = some (.file contents) ↔
          env.files.get? place = some (.file contents) := by
  rcases prints_report arguments env with ⟨-, hfiles⟩ | hprints
  · exact ⟨[], Nat.zero_le _, fun place _ contents => by rw [hfiles]⟩
  · obtain ⟨places, hlength, hsame⟩ := hprints.exists_places
    refine ⟨places, hlength, fun place hnot contents => ?_⟩
    rw [hsame place hnot]
    exact sameFiles_prepared env arguments place contents

/-! ### Watching -/

namespace Watch

/-- The records that have been printed at a time. -/
def printedBy (arguments : WatchArguments) (env : Environment) (time : Nat) : List FrameRecord :=
  match streamConfig arguments.stream, connector arguments.url with
  | .ok config, .ok c =>
    let s := Stream.create config env.camera.script env.camera.fallback
    let actions := (performAll s [.start, .advance time]).flatMap (·.actions)
    (printing arguments.count c.target 0 (publications actions)).records
  | .ok _, .error _ | .error _, _ => []

/-- The frames up to the one that is enough are printed, and the loop ends when that one comes. -/
theorem printing_eq (n : Nat) (source : String) (printed : Nat)
    (published : List (Nat × Frame)) :
    let needed := max (n - printed) 1
    printing (some n) source printed published =
      ⟨(published.take needed).mapIdx fun i publication =>
          ⟨printed + i + 1, source, publication.2, none⟩,
        published[needed - 1]?.map (·.1)⟩ := by
  intro needed
  induction published generalizing printed with
  | nil =>
    rw [List.take_nil]
    rfl
  | cons publication published ih =>
    obtain ⟨time, frame⟩ := publication
    have hindex : ∀ i, printed + 1 + i + 1 = printed + (i + 1) + 1 := fun i => by omega
    rw [printing]
    split
    · rename_i henough
      have hone : needed = 1 := by
        have : n ≤ printed + 1 := of_decide_eq_true henough
        omega
      rw [hone]
      rfl
    · rename_i henough
      have hmore : needed = max (n - (printed + 1)) 1 + 1 := by
        have : ¬ n ≤ printed + 1 := fun hle => henough (decide_eq_true hle)
        omega
      have hprevious : max (n - (printed + 1)) 1 = max (n - (printed + 1)) 1 - 1 + 1 := by omega
      rw [ih, hmore, List.take_succ_cons, List.mapIdx_cons, Nat.add_sub_cancel, hprevious,
        List.getElem?_cons_succ]
      simp only [hindex, Nat.add_zero]
      rfl

theorem withinCount_printedBy {arguments : WatchArguments} {n : Nat}
    (hn : arguments.count = some n) (env : Environment) (time : Nat) :
    WithinCount n (printedBy arguments env time) := by
  unfold printedBy
  split
  · dsimp only
    rw [hn, printing_eq]
    refine withinCount_of_length_le ?_
    rw [List.length_mapIdx]
    exact List.length_take_le _ _
  all_goals exact Or.inl (Nat.zero_le n)

/-- **When watching ends it has printed the frames that were published by then.** -/
theorem records_report {arguments : WatchArguments} {env : Environment} {report : Report}
    (h : Watch.report arguments env = some report) :
    report.records = printedBy arguments env env.patience := by
  unfold Watch.report at h
  unfold printedBy
  cases hconfig : streamConfig arguments.stream with
  | error e =>
    rw [hconfig] at h
    obtain rfl := Option.some.inj h
    rfl
  | ok config =>
    rw [hconfig] at h
    dsimp only at h
    cases hconnector : connector arguments.url with
    | error e =>
      rw [hconnector] at h
      obtain rfl := Option.some.inj h
      rfl
    | ok c =>
      rw [hconnector] at h
      obtain ⟨time, -, rfl⟩ := Option.map_eq_some_iff.mp h
      rfl

theorem report_count_zero (arguments : WatchArguments) (env : Environment) :
    Watch.report { arguments with count := some 0 } env =
      Watch.report { arguments with count := some 1 } env := by
  have hprinting : ∀ source published,
      printing (some 0) source 0 published = printing (some 1) source 0 published := by
    intro source published
    cases published <;> rfl
  unfold Watch.report
  simp only [hprinting]

end Watch

/-! ### Both -/

/-- What an extraction does when a number of frames is asked for. -/
structure ExtractsWithin (n : Nat) (arguments : ExtractArguments) (env : Environment) : Prop where
  records : WithinCount n (Extract.report { arguments with count := some n } env).records
  /-- No more files change than records are printed. -/
  files : ∃ places : List (List String),
    places.length ≤ (Extract.report { arguments with count := some n } env).records.length ∧
    ∀ place ∉ places, ∀ contents,
      (Extract.report { arguments with count := some n } env).files.get? place =
        some (.file contents) ↔ env.files.get? place = some (.file contents)
  zero : n = 0 → Extract.report { arguments with count := some n } env =
    Extract.report { arguments with count := some 1 } env

/-- What watching prints when a number of frames is asked for. -/
structure WatchesWithin (n : Nat) (arguments : WatchArguments) (env : Environment) : Prop where
  printed : ∀ time, WithinCount n (Watch.printedBy { arguments with count := some n } env time)
  /-- When it ends, that is what it has printed. -/
  ended : ∀ report, Watch.report { arguments with count := some n } env = some report →
    report.records = Watch.printedBy { arguments with count := some n } env env.patience
  zero : n = 0 → Watch.report { arguments with count := some n } env =
    Watch.report { arguments with count := some 1 } env

/-- **How many frames are printed when a number of them is asked for**: at most so many, or one when
the number is zero. -/
theorem count_bounds (n : Nat) :
    (∀ arguments env, ExtractsWithin n arguments env) ∧
      ∀ arguments env, WatchesWithin n arguments env := by
  constructor
  · intro arguments env
    refine ⟨withinCount_records_report rfl env, exists_places_report _ env, ?_⟩
    rintro rfl
    exact report_count_zero arguments env
  · intro arguments env
    refine ⟨Watch.withinCount_printedBy rfl env, fun report => Watch.records_report, ?_⟩
    rintro rfl
    exact Watch.report_count_zero arguments env

/-- **A frame is printed although none is asked for.** -/
theorem count_zero_prints_one :
    let words := ["--format", "raw", "extract", "-", "--boundary", "B", "--count", "0"]
    let arguments : ExtractArguments := ⟨"-", "B", none, some 0⟩
    let env : Environment :=
      ⟨Bytes.ofText "--B\r\n\r\nX\r\n--B", ⟨[]⟩, ⟨[], .status 404 "Not Found"⟩, none, "now", 0⟩
    parse words = .ok ⟨some .raw, .text, .info, .extract arguments⟩ ∧
      (Extract.report arguments env).records.length = 1 ∧
      ∃ o, run ⟨"", "", "", "", ""⟩ words env = some o ∧ o.exit.code = 0 ∧
        o.stdout = Bytes.ofText "X" := by
  intro words arguments env
  have hparse : parse words = .ok ⟨some .raw, .text, .info, .extract arguments⟩ := by
    decide +kernel
  exact ⟨hparse, by decide +kernel, _, run_extract _ hparse rfl, by decide +kernel,
    by decide +kernel⟩

end Mjpeg.Command
