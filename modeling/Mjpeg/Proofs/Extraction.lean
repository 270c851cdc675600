import Mjpeg.Command.Extract
import Mjpeg.Proofs.Capture
import Mjpeg.Proofs.Files
import Mjpeg.Proofs.Texts

/-!
# What an extraction comes to

An extraction goes on as long as its reader answers frames. It keeps the frames that it has written
apart from the files that were there before, and prints and writes what a run does that puts each
frame into the files at once (`printFrames_eq_run`). What such a run prints, logs and writes is told
by what the reader comes across and by the error behind that (`run_eq_consume`), as long as no frame
is written over the input.

When every frame can be written there are four cases, which `consume_induction` goes through. The
records are those of the frames, numbered from one on, up to the number that was asked for
(`consume_comes`). It ends well when that number was reached or the input ended, and what was come
across behind the last frame that was asked for does not count (`consume_append`). Each frame stands
in its own file then, and every other file is as it was (`consume_stored`).

Whatever the files allow, a run prints one record after the other (`prints_run`). So its records are
numbered on (`Prints.getElem`), there are no more of them than are enough or one
(`Prints.length_le`), and no other files change than theirs (`Prints.exists_places`).
-/

namespace Mjpeg.Command.Extract

open Decoder Reader FileTree

variable {arguments : ExtractArguments} {files files' : FileTree} {extracted malformed : Nat}
  {e : FrameError} {found : List Find}

/-! ### The path of a frame -/

/-- The path of the file for the frame of the given number. -/
def framePath (dir : String) (index : Nat) : String := join dir (frameFileName index)

/-- A text in decimal with zeros before it has the value of the number. -/
theorem ofDigitChars_fiveDigits (n : Nat) : Nat.ofDigitChars 10 (fiveDigits n).toList 0 = n := by
  rw [fiveDigits, String.toList_append, String.toList_ofList, Nat.ofDigitChars_append,
    Nat.ofDigitChars_replicate_zero, Nat.mul_zero, Nat.toString_eq_repr, Nat.toList_repr,
    Nat.ofDigitChars_ten_toDigits]

theorem toList_frameFileName (index : Nat) :
    (frameFileName index).toList =
      "frame-".toList ++ ((fiveDigits index).toList ++ ".jpg".toList) := by
  rw [frameFileName, String.toList_append, String.toList_append, List.append_assoc]

/-- **Frames of different numbers have different file names.** -/
theorem frameFileName_inj {i j : Nat} (h : frameFileName i = frameFileName j) : i = j := by
  have hlist := congrArg String.toList h
  rw [toList_frameFileName, toList_frameFileName] at hlist
  have hdigits := List.append_cancel_right (List.append_cancel_left hlist)
  rw [← ofDigitChars_fiveDigits i, hdigits, ofDigitChars_fiveDigits]

theorem slash_not_mem_frameFileName (index : Nat) : '/' ∉ (frameFileName index).toList := by
  intro hmem
  rw [toList_frameFileName, List.mem_append, List.mem_append] at hmem
  rcases hmem with hmem | hmem | hmem
  · exact absurd hmem (by decide)
  · rw [fiveDigits, String.toList_append, String.toList_ofList, List.mem_append] at hmem
    rcases hmem with hzero | hdigit
    · exact absurd (List.eq_of_mem_replicate hzero) (by decide)
    · have := Bytes.isDigit_of_mem_toString hdigit
      exact absurd this.1 (by decide)
  · exact absurd hmem (by decide)

theorem frameFileName_ne_empty (index : Nat) : frameFileName index ≠ "" := by
  intro h
  have hlist := congrArg String.toList h
  rw [toList_frameFileName] at hlist
  exact absurd (List.append_eq_nil_iff.mp hlist).1 (by decide)

/-- The files of different frames stand at different places. -/
theorem place_ne {dir : String} {i j : Nat} {place place' : List String}
    (h : LeadsTo files (framePath dir i) place) (h' : LeadsTo files (framePath dir j) place')
    (hne : i ≠ j) : place ≠ place' :=
  h.ne_of_names h' (slash_not_mem_frameFileName i) (slash_not_mem_frameFileName j)
    (frameFileName_ne_empty i) (frameFileName_ne_empty j) fun heq => hne (frameFileName_inj heq)

/-! ### One frame -/

/-- A frame is written where its path leads, if there is a directory for the frames. -/
theorem writeFrame_eq_ok {index : Nat} {frame : Frame} {outDir path : Option String}
    (h : writeFrame files index frame outDir = .ok (path, files')) :
    path = outDir.map (framePath · index) ∧ (outDir = none ∧ files' = files ∨
      ∃ dir place, outDir = some dir ∧ LeadsTo files (framePath dir index) place ∧
        files.get? place ≠ some .directory ∧ files' = files.put place (.file frame.payload)) := by
  cases outDir with
  | none =>
    obtain ⟨rfl, rfl⟩ := Prod.mk.inj (Except.ok.inj h)
    exact ⟨rfl, Or.inl ⟨rfl, rfl⟩⟩
  | some dir =>
    simp only [writeFrame] at h
    split at h
    · exact absurd h (by simp)
    · rename_i written hwrite
      obtain ⟨rfl, rfl⟩ := Prod.mk.inj (Except.ok.inj h)
      obtain ⟨place, hleads, hfree, heq⟩ := write_eq_ok_iff.mp hwrite
      exact ⟨rfl, Or.inr ⟨dir, place, rfl, hleads, hfree, heq⟩⟩

/-- Writing a frame changes no directory. -/
theorem sameDirectories_of_writeFrame {index : Nat} {frame : Frame} {outDir path : Option String}
    (h : writeFrame files index frame outDir = .ok (path, files')) :
    SameDirectories files files' := by
  obtain ⟨-, ⟨-, rfl⟩ | ⟨dir, place, -, -, hfree, rfl⟩⟩ := writeFrame_eq_ok h
  · exact SameDirectories.refl files'
  · exact sameDirectories_put hfree

/-- The reader goes on unless the frame was written over the input. -/
theorem readOn_eq_self {input : Option (List String)} {path : Option String} {r : Reader}
    (h : ∀ place ∈ input, ∀ p ∈ path, files.place? p ≠ some place) :
    readOn files input path r = r := by
  refine if_neg fun hcond => ?_
  obtain ⟨hinput, hpath⟩ := Bool.and_eq_true_iff.mp hcond
  obtain ⟨place, rfl⟩ := Option.isSome_iff_exists.mp hinput
  obtain ⟨p, hp, hplace⟩ := Option.bind_eq_some_iff.mp (eq_of_beq hpath)
  exact h place rfl p hp hplace

/-! ### The files and the frames written since -/

/-- Every frame written since the files were as they were `before` stands where the path of its
number leads. -/
structure Store.Sound (s : Store) (outDir : Option String) (extracted : Nat) : Prop where
  same : SameDirectories s.before s.tree
  written : ∀ file ∈ s.frames, ∃ dir ∈ outDir, ∃ i ≤ extracted,
    LeadsTo s.before (framePath dir i) file.1

variable {s s' : Store} {outDir path : Option String} {frame : Frame}

theorem Store.tree_nil (files : FileTree) : Store.tree ⟨files, []⟩ = files := putAll_nil files

theorem Store.sound_nil (files : FileTree) (outDir : Option String) (extracted : Nat) :
    Store.Sound ⟨files, []⟩ outDir extracted where
  same := (Store.tree_nil files).symm ▸ SameDirectories.refl files
  written := nofun

/-- The next frame is put into the files as they are when its path leads to a place that can be
written to. -/
theorem Store.Sound.put {dir : String} {place : List String} (h : s.Sound (some dir) extracted)
    (hplace : s.before.writablePlace (framePath dir (extracted + 1)) = .ok place)
    (contents : Bytes) :
    let s' : Store := { s with frames := (place, contents) :: s.frames }
    s'.tree = s.tree.put place (.file contents) ∧ s'.Sound (some dir) (extracted + 1) := by
  intro s'
  obtain ⟨hleads, hfree⟩ := writablePlace_eq_ok_iff.mp hplace
  have hnew : ∀ file ∈ s.frames.reverse, file.1 ≠ place := by
    intro file hfile
    obtain ⟨dir', hdir, i, hi, hfirst⟩ := h.written file (List.mem_reverse.mp hfile)
    obtain rfl := Option.some.inj hdir
    exact place_ne hfirst hleads (by omega)
  have htree : s'.tree = s.tree.put place (.file contents) := by
    rw [Store.tree, List.reverse_cons]
    exact putAll_concat hnew
  refine ⟨htree, ⟨?_, fun file hfile => ?_⟩⟩
  · rw [htree]
    exact h.same.trans (sameDirectories_put (mt (h.same place).mpr hfree))
  · rcases List.mem_cons.mp hfile with rfl | hfile
    · exact ⟨dir, rfl, extracted + 1, Nat.le_refl _, hleads⟩
    · obtain ⟨dir', hdir, i, hi, hfirst⟩ := h.written file hfile
      exact ⟨dir', hdir, i, Nat.le_succ_of_le hi, hfirst⟩

/-- **Writing the next frame writes it into the files as they are.** -/
theorem Store.Sound.map_write (h : s.Sound outDir extracted) (frame : Frame) :
    (s.write (extracted + 1) frame outDir).map (fun (path, s') => (path, s'.tree)) =
      writeFrame s.tree (extracted + 1) frame outDir := by
  cases outDir with
  | none => rfl
  | some dir =>
    rw [Store.write]
    dsimp only
    split
    · rename_i place hplace
      have hwrite : s.tree.write (join dir (frameFileName (extracted + 1))) frame.payload =
          .ok (s.tree.put place (.file frame.payload)) := by
        rw [FileTree.write, h.same.writablePlace_eq_ok_iff.mp hplace]
        rfl
      rw [writeFrame, hwrite, ← (h.put hplace frame.payload).1]
      rfl
    · rcases writeFrame s.tree (extracted + 1) frame (some dir) with e | ⟨path, files⟩
      · rfl
      · exact congrArg (fun files => Except.ok (path, files)) (Store.tree_nil files)

/-- The frames stand where the paths of their numbers lead also when the next one is written. -/
theorem Store.Sound.of_write (h : s.Sound outDir extracted)
    (hwrite : s.write (extracted + 1) frame outDir = .ok (path, s')) :
    s'.Sound outDir (extracted + 1) := by
  cases outDir with
  | none =>
    obtain ⟨-, rfl⟩ := Prod.mk.inj (Except.ok.inj hwrite)
    exact ⟨h.same, fun file hfile => nomatch h.written file hfile⟩
  | some dir =>
    rw [Store.write] at hwrite
    dsimp only at hwrite
    split at hwrite
    · rename_i place hplace
      obtain ⟨-, rfl⟩ := Prod.mk.inj (Except.ok.inj hwrite)
      exact (h.put hplace frame.payload).2
    · obtain ⟨files, rfl⟩ : ∃ files, s' = ⟨files, []⟩ := by
        rcases hframe : writeFrame s.tree (extracted + 1) frame (some dir) with e | ⟨_, files⟩
        · exact absurd (hframe ▸ hwrite) nofun
        · rw [hframe] at hwrite
          exact ⟨files, (Prod.mk.inj (Except.ok.inj hwrite)).2.symm⟩
      exact Store.sound_nil files _ _

/-! ### One call of the reader -/

variable {input : Option (List String)} {r rest : Reader} {skipped : List Nat}

/-- Prints and writes the frames that a reader answers, as `printFrames` does, with the files as
they are at each frame. -/
def run (arguments : ExtractArguments) (input : Option (List String)) (files : FileTree)
    (extracted malformed : Nat) (r : Reader) : Report :=
  match h : r.readFrame with
  | { skipped, outcome := .error e, .. } =>
    logged skipped (ended files extracted (malformed + skipped.length) e)
  | { reader := rest, skipped, outcome := .ok frame } =>
    let index := extracted + 1
    let malformed := malformed + skipped.length
    match writeFrame files index frame arguments.outDir with
    | .error e => logged skipped { files, error := some e }
    | .ok (path, files) =>
      have : (readOn files input path rest).weight < r.weight := by
        have lt := Reader.weight_readFrame_lt (r := r) (by rw [h])
        rw [h] at lt
        exact Nat.lt_of_le_of_lt (weight_readOn_le files input path rest) lt
      let report :=
        if isEnough arguments.count index then finish files index malformed
        else run arguments input files index malformed (readOn files input path rest)
      logged skipped
        { report with records := ⟨index, arguments.input, frame, path⟩ :: report.records }
termination_by r.weight

theorem run_of_error (hcall : r.readFrame = ⟨rest, skipped, .error e⟩) :
    run arguments input files extracted malformed r =
      logged skipped (ended files extracted (malformed + skipped.length) e) := by
  rw [run]
  split <;> rename_i heq <;> cases hcall.symm.trans heq
  rfl

theorem run_of_write_error {error : CommandError}
    (hcall : r.readFrame = ⟨rest, skipped, .ok frame⟩)
    (hwrite : writeFrame files (extracted + 1) frame arguments.outDir = .error error) :
    run arguments input files extracted malformed r =
      logged skipped { files, error := some error } := by
  rw [run]
  split <;> rename_i heq <;> cases hcall.symm.trans heq
  dsimp only
  rw [hwrite]

theorem run_of_write (hcall : r.readFrame = ⟨rest, skipped, .ok frame⟩)
    (hwrite : writeFrame files (extracted + 1) frame arguments.outDir = .ok (path, files')) :
    run arguments input files extracted malformed r =
      let later :=
        if isEnough arguments.count (extracted + 1) then
          finish files' (extracted + 1) (malformed + skipped.length)
        else run arguments input files' (extracted + 1) (malformed + skipped.length)
          (readOn files' input path rest)
      logged skipped
        { later with
          records := ⟨extracted + 1, arguments.input, frame, path⟩ :: later.records } := by
  rw [run]
  split <;> rename_i heq <;> cases hcall.symm.trans heq
  dsimp only
  rw [hwrite]

theorem run_of_ok (hcall : r.readFrame = ⟨rest, skipped, .ok frame⟩)
    (hwrite : writeFrame files (extracted + 1) frame arguments.outDir = .ok (path, files'))
    (henough : isEnough arguments.count (extracted + 1) = false) :
    run arguments input files extracted malformed r =
      let later := run arguments input files' (extracted + 1) (malformed + skipped.length)
        (readOn files' input path rest)
      logged skipped
        { later with
          records := ⟨extracted + 1, arguments.input, frame, path⟩ :: later.records } := by
  rw [run_of_write hcall hwrite, if_neg (by simp [henough])]

/-- **Printing and writing frames is printing them with the files as they are at each of them.** -/
theorem printFrames_eq_run (s : Store) (extracted malformed : Nat) (r : Reader) :
    s.Sound arguments.outDir extracted →
    printFrames arguments input s extracted malformed r =
      run arguments input s.tree extracted malformed r := by
  fun_induction printFrames arguments input s extracted malformed r with
  | case1 s extracted malformed r rest skipped e hcall => exact fun _ => (run_of_error hcall).symm
  | case2 s extracted malformed r rest skipped frame hcall index error hwrite =>
    intro h
    have hframe := h.map_write frame
    rw [hwrite] at hframe
    exact (run_of_write_error hcall hframe.symm).symm
  | case3 s extracted malformed r rest skipped frame hcall index malformed' path s' hwrite hlt
      report ih =>
    intro h
    have hframe := h.map_write frame
    rw [hwrite] at hframe
    have hs' : s'.Sound arguments.outDir index := h.of_write hwrite
    -- a path leads to the same place in the files as they were and as they are
    have hread : readOn s'.before input path rest = readOn s'.tree input path rest := by
      unfold readOn
      rw [funext hs'.same.place?_eq]
    rw [run_of_write hcall hframe.symm, ← hread, ← ih hs']
    rfl

/-! ### From what is come across to a report -/

/-- What becomes of the frames and malformed segments that are come across, and of the error behind
them, when `extracted` frames and `malformed` segments came before. -/
def consume (arguments : ExtractArguments) (e : FrameError) (files : FileTree)
    (extracted malformed : Nat) : List Find → Report
  | [] =>
    if isEnough arguments.count extracted then finish files extracted malformed
    else ended files extracted malformed e
  | .malformed length :: found =>
    if isEnough arguments.count extracted then finish files extracted malformed
    else logged [length] (consume arguments e files extracted (malformed + 1) found)
  | .frame frame :: found =>
    if isEnough arguments.count extracted then finish files extracted malformed
    else match writeFrame files (extracted + 1) frame arguments.outDir with
    | .error e => { files, error := some e }
    | .ok (path, files) =>
      let report := consume arguments e files (extracted + 1) malformed found
      { report with
        records := ⟨extracted + 1, arguments.input, frame, path⟩ :: report.records }

/-- Nothing more is looked at when enough frames have been printed. -/
theorem consume_of_isEnough (h : isEnough arguments.count extracted = true) :
    consume arguments e files extracted malformed found = finish files extracted malformed := by
  match found with
  | [] | .malformed _ :: _ | .frame _ :: _ => exact if_pos h

theorem consume_nil (h : isEnough arguments.count extracted = false) :
    consume arguments e files extracted malformed [] = ended files extracted malformed e :=
  if_neg (by simp [h])

theorem consume_malformed (h : isEnough arguments.count extracted = false) (length : Nat) :
    consume arguments e files extracted malformed (.malformed length :: found) =
      logged [length] (consume arguments e files extracted (malformed + 1) found) :=
  if_neg (by simp [h])

theorem consume_frame_of_error (h : isEnough arguments.count extracted = false) {frame : Frame}
    {error : CommandError}
    (hwrite : writeFrame files (extracted + 1) frame arguments.outDir = .error error) :
    consume arguments e files extracted malformed (.frame frame :: found) =
      { files, error := some error } := by
  rw [consume, if_neg (by simp [h]), hwrite]

theorem consume_frame_of_ok (h : isEnough arguments.count extracted = false) {frame : Frame}
    {path : Option String}
    (hwrite : writeFrame files (extracted + 1) frame arguments.outDir = .ok (path, files')) :
    consume arguments e files extracted malformed (.frame frame :: found) =
      { consume arguments e files' (extracted + 1) malformed found with
        records := ⟨extracted + 1, arguments.input, frame, path⟩ ::
          (consume arguments e files' (extracted + 1) malformed found).records } := by
  rw [consume, if_neg (by simp [h]), hwrite]

theorem logged_append (skipped later : List Nat) (report : Report) :
    logged (skipped ++ later) report = logged skipped (logged later report) := by
  simp only [logged, List.map_append, List.append_assoc]

theorem consume_skipped (h : isEnough arguments.count extracted = false) (skipped : List Nat) :
    consume arguments e files extracted malformed (skipped.map .malformed ++ found) =
      logged skipped
        (consume arguments e files extracted (malformed + skipped.length) found) := by
  induction skipped generalizing malformed with
  | nil => rfl
  | cons length skipped ih =>
    rw [List.map_cons, List.cons_append, consume_malformed h, ih, ← logged_append,
      List.length_cons, Nat.add_assoc, Nat.add_comm 1]
    rfl

/-- No record is written to the file at a place that is read. -/
def NotOver (files : FileTree) (input : Option (List String)) (records : List FrameRecord) : Prop :=
  ∀ place ∈ input, ∀ record ∈ records, ∀ path ∈ record.path, files.place? path ≠ some place

/-- **An extraction is told by what its reader comes across** when no frame is written over the
input. -/
theorem run_eq_consume (arguments : ExtractArguments) (input : Option (List String))
    (files : FileTree) (extracted malformed : Nat) (r : Reader) :
    isEnough arguments.count extracted = false →
    NotOver files input
      (consume arguments r.readAll.error files extracted malformed r.readAll.found).records →
    run arguments input files extracted malformed r =
      consume arguments r.readAll.error files extracted malformed r.readAll.found := by
  fun_induction run arguments input files extracted malformed r with
  | case1 files extracted malformed r rest skipped e hcall =>
    intro henough _
    rw [readAll_of_error hcall, ← List.append_nil (skipped.map _), consume_skipped henough,
      consume_nil henough]
  | case2 files extracted malformed r rest skipped frame hcall index error hwrite =>
    intro henough _
    rw [readAll_of_ok hcall, consume_skipped henough, consume_frame_of_error henough hwrite]
  | case3 files extracted malformed r rest skipped frame hcall index malformed' path files' hwrite
      hlt report ih =>
    intro henough hover
    rw [readAll_of_ok hcall, consume_skipped henough, consume_frame_of_ok henough hwrite] at hover ⊢
    obtain ⟨hfirst, hlater⟩ : (∀ place ∈ input, ∀ p ∈ path, files.place? p ≠ some place) ∧
        NotOver files input (consume arguments rest.readAll.error files' index malformed'
          rest.readAll.found).records :=
      ⟨fun place hplace => (List.forall_mem_cons.mp (hover place hplace)).1,
        fun place hplace => (List.forall_mem_cons.mp (hover place hplace)).2⟩
    -- paths lead where they led before the frame was written
    have hplace := (sameDirectories_of_writeFrame hwrite).place?_eq
    have hread : readOn files' input path rest = rest :=
      readOn_eq_self fun place hinput p hp => hplace p ▸ hfirst place hinput p hp
    rw [hread] at ih
    have hreport : report =
        consume arguments rest.readAll.error files' index malformed' rest.readAll.found := by
      by_cases hnext : isEnough arguments.count index = true
      · exact (dif_pos hnext).trans (consume_of_isEnough hnext).symm
      · refine (dif_neg hnext).trans ?_
        rw [hread]
        refine ih (Bool.not_eq_true _ ▸ hnext) fun place hinput record hrecord p hp => ?_
        exact hplace p ▸ hlater place hinput record hrecord p hp
    rw [hreport]

/-! ### Records -/

/-- The frames that are still to be printed of those that follow. -/
def wanted (count : Option Nat) (extracted : Nat) (frames : List Frame) : List Frame :=
  match count with
  | none => frames
  | some n => frames.take (n - extracted)

theorem isEnough_eq_false_iff {count : Option Nat} {m : Nat} :
    isEnough count m = false ↔ ∀ n ∈ count, m < n := by
  cases count with
  | none => simp [isEnough]
  | some n => simp [isEnough]

theorem wanted_of_isEnough {count : Option Nat} (h : isEnough count extracted = true)
    (frames : List Frame) : wanted count extracted frames = [] := by
  cases count with
  | none => exact absurd h (by simp [isEnough])
  | some n =>
    have hle : n ≤ extracted := of_decide_eq_true h
    rw [wanted, Nat.sub_eq_zero_of_le hle, List.take_zero]

theorem wanted_nil (count : Option Nat) (extracted : Nat) : wanted count extracted [] = [] := by
  cases count with
  | none => rfl
  | some n => exact List.take_nil

theorem wanted_cons {count : Option Nat} (h : isEnough count extracted = false) (frame : Frame)
    (frames : List Frame) :
    wanted count extracted (frame :: frames) = frame :: wanted count (extracted + 1) frames := by
  cases count with
  | none => rfl
  | some n =>
    have hlt : ¬ n ≤ extracted := of_decide_eq_false h
    have hsub : n - extracted = (n - (extracted + 1)) + 1 := by omega
    rw [wanted, hsub, List.take_succ_cons]
    rfl

/-- The files of the frames behind number `first` up to number `last` can be written. -/
def Accepts (files : FileTree) (outDir : Option String) (first last : Nat) : Prop :=
  ∀ dir ∈ outDir, ∀ i, first < i → i ≤ last →
    ∃ place, LeadsTo files (framePath dir i) place ∧ files.get? place ≠ some .directory

theorem Accepts.congr {outDir : Option String} {first last : Nat}
    (h : Accepts files outDir first last) (hsame : SameDirectories files files') :
    Accepts files' outDir first last := by
  intro dir hdir i hfirst hlast
  obtain ⟨place, hleads, hfree⟩ := h dir hdir i hfirst hlast
  exact ⟨place, (LeadsTo.congr hsame).mp hleads, mt (hsame place).mpr hfree⟩

theorem Accepts.writeFrame {outDir : Option String} {last : Nat}
    (h : Accepts files outDir extracted last) (hlt : extracted < last) (frame : Frame) :
    ∃ files', writeFrame files (extracted + 1) frame outDir =
      .ok (outDir.map (framePath · (extracted + 1)), files') := by
  cases outDir with
  | none => exact ⟨files, rfl⟩
  | some dir =>
    obtain ⟨place, hleads, hfree⟩ := h dir rfl (extracted + 1) (Nat.lt_succ_self _) hlt
    have hwrite : files.write (join dir (frameFileName (extracted + 1))) frame.payload =
        .ok (files.put place (.file frame.payload)) :=
      write_eq_ok_iff.mpr ⟨place, hleads, hfree, rfl⟩
    refine ⟨files.put place (.file frame.payload), ?_⟩
    rw [Extract.writeFrame, hwrite]
    rfl

/-- The record of the frame of the given number. -/
def recordOf (arguments : ExtractArguments) (index : Nat) (frame : Frame) : FrameRecord :=
  ⟨index, arguments.input, frame, arguments.outDir.map (framePath · index)⟩

/-- The frames of what is come across. -/
def framesIn (found : List Find) : List Frame := found.filterMap Find.frame?

@[simp] theorem framesIn_nil : framesIn [] = [] := rfl

@[simp] theorem framesIn_frame (frame : Frame) (found : List Find) :
    framesIn (.frame frame :: found) = frame :: framesIn found := rfl

/-- Every frame that is still to be printed can be written. -/
def AcceptsAll (arguments : ExtractArguments) (files : FileTree) (extracted : Nat)
    (frames : List Frame) : Prop :=
  Accepts files arguments.outDir extracted
    (extracted + (wanted arguments.count extracted frames).length)

/-- A frame that is still to be printed is written, and those behind it can be. -/
theorem AcceptsAll.step {frame : Frame} {frames : List Frame}
    (henough : isEnough arguments.count extracted = false)
    (h : AcceptsAll arguments files extracted (frame :: frames)) :
    ∃ files', writeFrame files (extracted + 1) frame arguments.outDir =
        .ok (arguments.outDir.map (framePath · (extracted + 1)), files') ∧
      AcceptsAll arguments files' (extracted + 1) frames := by
  rw [AcceptsAll, wanted_cons henough, List.length_cons] at h
  obtain ⟨files', hwrite⟩ := h.writeFrame (by omega) frame
  refine ⟨files', hwrite, fun dir hdir i hfirst hlast => ?_⟩
  exact h.congr (sameDirectories_of_writeFrame hwrite) dir hdir i (by omega) (by omega)

/-- **Induction on what is come across** when every frame that is still to be printed can be
written. Enough frames have been printed, or nothing more is come across, or a malformed segment
or a frame is come across next. -/
theorem consume_induction {motive : FileTree → Nat → Nat → List Find → Report → Prop}
    (enough : ∀ files extracted malformed found, isEnough arguments.count extracted = true →
      motive files extracted malformed found (finish files extracted malformed))
    (last : ∀ files extracted malformed, isEnough arguments.count extracted = false →
      motive files extracted malformed [] (ended files extracted malformed e))
    (skip : ∀ files extracted malformed length found report,
      isEnough arguments.count extracted = false →
      motive files extracted (malformed + 1) found report →
      motive files extracted malformed (.malformed length :: found) (logged [length] report))
    (print : ∀ files files' extracted malformed frame found report,
      isEnough arguments.count extracted = false →
      writeFrame files (extracted + 1) frame arguments.outDir =
        .ok (arguments.outDir.map (framePath · (extracted + 1)), files') →
      motive files' (extracted + 1) malformed found report →
      motive files extracted malformed (.frame frame :: found)
        { report with records := recordOf arguments (extracted + 1) frame :: report.records })
    (files : FileTree) (extracted malformed : Nat) (found : List Find)
    (h : AcceptsAll arguments files extracted (framesIn found)) :
    motive files extracted malformed found
      (consume arguments e files extracted malformed found) := by
  induction found generalizing files extracted malformed with
  | nil =>
    cases henough : isEnough arguments.count extracted with
    | true => exact consume_of_isEnough henough ▸ enough files extracted malformed [] henough
    | false => exact consume_nil henough ▸ last files extracted malformed henough
  | cons find found ih =>
    cases henough : isEnough arguments.count extracted with
    | true =>
      exact consume_of_isEnough henough ▸ enough files extracted malformed (find :: found) henough
    | false =>
      cases find with
      | malformed length =>
        rw [consume_malformed henough]
        exact skip _ _ _ _ _ _ henough (ih files extracted (malformed + 1) h)
      | frame frame =>
        obtain ⟨files', hwrite, haccepts⟩ := h.step henough
        rw [consume_frame_of_ok henough hwrite]
        exact print _ _ _ _ _ _ _ henough hwrite (ih files' (extracted + 1) malformed haccepts)

/-! ### What is printed -/

/-- Why an extraction fails when its reader answers an error, if it does. -/
def failure? : FrameError → Option CommandError
  | .connectionClosed => none
  | e => some (.ofFrame "extract failed" e)

theorem ended_eq (files : FileTree) (extracted malformed : Nat) (e : FrameError) :
    (ended files extracted malformed e).records = [] ∧
      (ended files extracted malformed e).error = failure? e ∧
      (ended files extracted malformed e).closed = (failure? e).isNone := by
  cases e <;> exact ⟨rfl, rfl, rfl⟩

/-- What is printed and how it ends, when each frame can be written. -/
structure Comes (arguments : ExtractArguments) (e : FrameError) (extracted : Nat)
    (frames : List Frame) (report : Report) : Prop where
  /-- The records are those of the frames that were asked for, numbered on. -/
  records : report.records = (wanted arguments.count extracted frames).mapIdx fun i frame =>
    recordOf arguments (extracted + i + 1) frame
  /-- It ends well when enough frames were printed, and else as the reader ends. -/
  error : report.error =
    if isEnough arguments.count (extracted + frames.length) then none else failure? e
  closed : report.closed = report.error.isNone

theorem isEnough_of_le {count : Option Nat} {n m : Nat} (h : isEnough count n = true)
    (hle : n ≤ m) : isEnough count m = true := by
  cases count with
  | none => exact absurd h (by simp [isEnough])
  | some c =>
    have hc : c ≤ n := of_decide_eq_true h
    exact decide_eq_true (hc.trans hle)

/-- **What is printed and how it ends.** -/
theorem consume_comes (e : FrameError) (files : FileTree) (extracted malformed : Nat)
    (found : List Find) (h : AcceptsAll arguments files extracted (framesIn found)) :
    Comes arguments e extracted (framesIn found)
      (consume arguments e files extracted malformed found) := by
  refine consume_induction
    (motive := fun _ extracted _ found => Comes arguments e extracted (framesIn found))
    ?enough ?last ?skip ?print files extracted malformed found h
  case enough =>
    intro files extracted malformed found henough
    refine ⟨?_, ?_, rfl⟩
    · rw [wanted_of_isEnough henough]
      rfl
    · rw [isEnough_of_le henough (Nat.le_add_right _ _)]
      rfl
  case last =>
    intro files extracted malformed henough
    obtain ⟨hrecords, herror, hclosed⟩ := ended_eq files extracted malformed e
    refine ⟨?_, ?_, hclosed.trans (herror ▸ rfl)⟩
    · rw [hrecords, framesIn_nil, wanted_nil]
      rfl
    · rw [herror, framesIn_nil, List.length_nil, Nat.add_zero, henough, if_neg Bool.false_ne_true]
  case skip =>
    intro files extracted malformed length found report henough ih
    exact ⟨ih.records, ih.error, ih.closed⟩
  case print =>
    intro files files' extracted malformed frame found report henough hwrite ih
    have hindex : ∀ i, extracted + 1 + i + 1 = extracted + (i + 1) + 1 := fun i => by omega
    refine ⟨?_, ?_, ih.closed⟩
    · dsimp only
      rw [ih.records, framesIn_frame, wanted_cons henough, List.mapIdx_cons]
      simp only [hindex]
    · rw [framesIn_frame, List.length_cons, ← Nat.add_assoc, Nat.add_right_comm]
      exact ih.error

/-- **What is come across behind the last frame that was asked for does not count.** -/
theorem consume_append (e e' : FrameError) (files : FileTree) (extracted malformed : Nat)
    (found more : List Find) :
    isEnough arguments.count (extracted + (framesIn found).length) = true →
    consume arguments e' files extracted malformed (found ++ more) =
      consume arguments e files extracted malformed found := by
  fun_induction consume arguments e files extracted malformed found with
  | case1 files extracted malformed henough => exact fun _ => consume_of_isEnough henough
  | case2 files extracted malformed henough => exact fun h => absurd h henough
  | case3 files extracted malformed length found henough =>
    exact fun _ => consume_of_isEnough henough
  | case4 files extracted malformed length found henough ih =>
    intro h
    rw [List.cons_append, consume_malformed (Bool.not_eq_true _ ▸ henough), ih h]
  | case5 files extracted malformed frame found henough =>
    exact fun _ => consume_of_isEnough henough
  | case6 files extracted malformed frame found henough error hwrite =>
    intro h
    exact consume_frame_of_error (Bool.not_eq_true _ ▸ henough) hwrite
  | case7 files extracted malformed frame found henough path files' hwrite report ih =>
    intro h
    have hlater : isEnough arguments.count (extracted + 1 + (framesIn found).length) = true := by
      rwa [framesIn_frame, List.length_cons, ← Nat.add_assoc, Nat.add_right_comm] at h
    rw [List.cons_append, consume_frame_of_ok (Bool.not_eq_true _ ▸ henough) hwrite, ih hlater]

/-- Two reports that differ in the files only. -/
def SameButFiles (report report' : Report) : Prop :=
  { report with files := report'.files } = report'

/-- **What is printed and logged does not depend on the files**, as long as each frame can be
written. -/
theorem consume_sameButFiles (e : FrameError) (files files' : FileTree) (extracted malformed : Nat)
    (found : List Find) (h : AcceptsAll arguments files extracted (framesIn found))
    (h' : AcceptsAll arguments files' extracted (framesIn found)) :
    SameButFiles (consume arguments e files extracted malformed found)
      (consume arguments e files' extracted malformed found) := by
  refine consume_induction
    (motive := fun _ extracted malformed found report => ∀ files',
      AcceptsAll arguments files' extracted (framesIn found) →
      SameButFiles report (consume arguments e files' extracted malformed found))
    ?enough ?last ?skip ?print files extracted malformed found h files' h'
  case enough =>
    intro files extracted malformed found henough files' _
    rw [consume_of_isEnough henough]
    rfl
  case last =>
    intro files extracted malformed henough files' _
    rw [consume_nil henough]
    cases e <;> rfl
  case skip =>
    intro files extracted malformed length found report henough ih files' h'
    rw [consume_malformed henough, ← ih files' h']
    rfl
  case print =>
    intro files written extracted malformed frame found report henough hwrite ih files' h'
    obtain ⟨written', hwrite', haccepts'⟩ := h'.step henough
    rw [consume_frame_of_ok henough hwrite', ← ih written' haccepts']
    rfl

/-! ### Files -/

/-- Where each frame that is to be printed stands, and that nothing else has changed. -/
structure Stored (files : FileTree) (dir : String) (first : Nat) (frames : List Frame)
    (files' : FileTree) : Prop where
  same : SameDirectories files files'
  stands : ∀ i place, (h : i < frames.length) →
    LeadsTo files (framePath dir (first + i + 1)) place →
    files'.get? place = some (.file frames[i].payload)
  other : ∀ place, (∀ i < frames.length, ¬ LeadsTo files (framePath dir (first + i + 1)) place) →
    files'.get? place = files.get? place

theorem Stored.nil (files : FileTree) (dir : String) (first : Nat) :
    Stored files dir first [] files where
  same := SameDirectories.refl files
  stands := fun i _ h => absurd h (Nat.not_lt_zero i)
  other := fun _ _ => rfl

/-- Without a directory for the frames the files stay as they are. -/
theorem files_consume_of_none (hdir : arguments.outDir = none) (e : FrameError)
    (files : FileTree) (extracted malformed : Nat) (found : List Find) :
    (consume arguments e files extracted malformed found).files = files := by
  fun_induction consume arguments e files extracted malformed found with
  | case1 | case3 | case5 => rfl
  | case2 => cases e <;> rfl
  | case4 files extracted malformed length found henough ih => exact ih
  | case6 files extracted malformed frame found henough error hwrite => rfl
  | case7 files extracted malformed frame found henough path files' hwrite report ih =>
    rw [hdir] at hwrite
    obtain ⟨rfl, rfl⟩ := Prod.mk.inj (Except.ok.inj hwrite)
    exact ih

/-- A frame is written first, and those behind it to other places. -/
theorem Stored.cons {dir : String} {first : Nat} {frame : Frame} {frames : List Frame}
    {place : List String} {contents : Bytes}
    (hleads : LeadsTo files (framePath dir (first + 1)) place)
    (hfree : files.get? place ≠ some .directory) (hcontents : contents = frame.payload)
    (h : Stored (files.put place (.file contents)) dir (first + 1) frames files') :
    Stored files dir first (frame :: frames) files' := by
  have hindex : ∀ i, first + (i + 1) + 1 = first + 1 + i + 1 := fun i => by omega
  refine ⟨(sameDirectories_put hfree).trans h.same, fun i place' hi hleads' => ?_,
    fun place' hnot => ?_⟩
  · cases i with
    | zero =>
      obtain rfl := hleads.eq hleads'
      rw [h.other place fun i _ hlater => ?_, get?_put_self hfree, hcontents]
      · rfl
      · exact place_ne hleads ((leadsTo_put_iff hfree).mp hlater) (by omega) rfl
    | succ i =>
      rw [hindex] at hleads'
      exact h.stands i place' (Nat.lt_of_succ_lt_succ hi) ((leadsTo_put_iff hfree).mpr hleads')
  · have hne : place' ≠ place := by
      rintro rfl
      exact hnot 0 (Nat.succ_pos _) hleads
    rw [h.other place' fun i hi hlater => ?_, get?_put_of_ne hne]
    refine hnot (i + 1) (Nat.succ_lt_succ hi) ?_
    rw [hindex]
    exact (leadsTo_put_iff hfree).mp hlater

/-- **Each frame stands in its own file then, and every other file is as it was.** -/
theorem consume_stored {dir : String} (hdir : arguments.outDir = some dir) (e : FrameError)
    (files : FileTree) (extracted malformed : Nat) (found : List Find)
    (h : AcceptsAll arguments files extracted (framesIn found)) :
    Stored files dir extracted (wanted arguments.count extracted (framesIn found))
      (consume arguments e files extracted malformed found).files := by
  refine consume_induction
    (motive := fun files extracted _ found report =>
      Stored files dir extracted (wanted arguments.count extracted (framesIn found)) report.files)
    ?enough ?last ?skip ?print files extracted malformed found h
  case enough =>
    intro files extracted malformed found henough
    rw [wanted_of_isEnough henough]
    exact Stored.nil files dir extracted
  case last =>
    intro files extracted malformed henough
    rw [framesIn_nil, wanted_nil]
    cases e <;> exact Stored.nil files dir extracted
  case skip => exact fun _ _ _ _ _ _ _ ih => ih
  case print =>
    intro files files' extracted malformed frame found report henough hwrite ih
    rw [framesIn_frame, wanted_cons henough]
    obtain ⟨-, ⟨hnone, -⟩ | ⟨dir', place, hdir', hleads, hfree, rfl⟩⟩ := writeFrame_eq_ok hwrite
    · exact absurd (hnone.symm.trans hdir) (by simp)
    · obtain rfl := Option.some.inj (hdir.symm.trans hdir')
      exact Stored.cons hleads hfree rfl ih

/-! ### Whatever the files allow -/

/-- The records that are printed, one after the other, and the files from before the first of them
to behind the last. None is printed when enough have been. -/
inductive Prints (arguments : ExtractArguments) :
    FileTree → Nat → List FrameRecord → FileTree → Prop
  | nil (files : FileTree) (extracted : Nat) : Prints arguments files extracted [] files
  | cons {files files' last : FileTree} {extracted : Nat} {frame : Frame} {path : Option String}
      {records : List FrameRecord} :
      writeFrame files (extracted + 1) frame arguments.outDir = .ok (path, files') →
      (isEnough arguments.count (extracted + 1) = true → records = []) →
      Prints arguments files' (extracted + 1) records last →
      Prints arguments files extracted (⟨extracted + 1, arguments.input, frame, path⟩ :: records)
        last

variable {records : List FrameRecord} {last : FileTree}

/-- **What any extraction prints**, also one that fails or that writes over its input. -/
theorem prints_run (arguments : ExtractArguments) (input : Option (List String))
    (files : FileTree) (extracted malformed : Nat) (r : Reader) :
    Prints arguments files extracted (run arguments input files extracted malformed r).records
      (run arguments input files extracted malformed r).files := by
  fun_induction run arguments input files extracted malformed r with
  | case1 files extracted malformed r rest skipped e hcall =>
    cases e <;> exact .nil files extracted
  | case2 files extracted malformed r rest skipped frame hcall index error hwrite =>
    exact .nil files extracted
  | case3 files extracted malformed r rest skipped frame hcall index malformed' path files' hwrite
      hlt report ih =>
    by_cases henough : isEnough arguments.count index = true
    · have hreport : report = finish files' index malformed' := dif_pos henough
      rw [hreport]
      exact .cons hwrite (fun _ => rfl) (.nil files' index)
    · have hreport : report = run arguments input files' index malformed'
          (readOn files' input path rest) := dif_neg henough
      rw [hreport]
      exact .cons hwrite (fun h => absurd h henough) ih

/-- The records are numbered on, and each has the path of its number. -/
theorem Prints.getElem (h : Prints arguments files extracted records last) (i : Nat)
    (hi : i < records.length) :
    ∃ frame, records[i] = recordOf arguments (extracted + i + 1) frame := by
  induction h generalizing i with
  | nil => exact absurd hi (Nat.not_lt_zero i)
  | @cons files files' last extracted frame path records hwrite _ _ ih =>
    cases i with
    | zero =>
      obtain ⟨rfl, -⟩ := writeFrame_eq_ok hwrite
      exact ⟨frame, rfl⟩
    | succ i =>
      obtain ⟨frame', heq⟩ := ih i (Nat.lt_of_succ_lt_succ hi)
      refine ⟨frame', heq.trans ?_⟩
      rw [Nat.add_right_comm extracted 1 i, Nat.add_assoc extracted i 1]

/-- Enough is never passed by more than the record that reaches it. -/
theorem Prints.length_le (h : Prints arguments files extracted records last) {n : Nat}
    (hn : arguments.count = some n) : records.length ≤ max (n - extracted) 1 := by
  induction h with
  | nil => exact Nat.zero_le _
  | @cons files files' last extracted frame path records _ hstop _ ih =>
    by_cases hle : n ≤ extracted + 1
    · have hnil : records = [] := hstop (hn ▸ decide_eq_true hle)
      rw [hnil]
      exact Nat.le_max_right _ _
    · rw [List.length_cons]
      omega

/-- There are at most as many places as records at which the files differ. -/
theorem Prints.exists_places (h : Prints arguments files extracted records last) :
    ∃ places : List (List String), places.length ≤ records.length ∧
      ∀ place ∉ places, last.get? place = files.get? place := by
  induction h with
  | nil => exact ⟨[], Nat.le_refl _, fun _ _ => rfl⟩
  | @cons files files' last extracted frame path records hwrite _ _ ih =>
    obtain ⟨places, hlength, hsame⟩ := ih
    obtain ⟨-, ⟨-, rfl⟩ | ⟨dir, place, -, -, -, rfl⟩⟩ := writeFrame_eq_ok hwrite
    · exact ⟨places, Nat.le_succ_of_le hlength, hsame⟩
    · refine ⟨place :: places, Nat.succ_le_succ hlength, fun place' hnot => ?_⟩
      rw [hsame place' (List.not_mem_of_not_mem_cons hnot),
        get?_put_of_ne (List.ne_of_not_mem_cons hnot)]

end Mjpeg.Command.Extract
