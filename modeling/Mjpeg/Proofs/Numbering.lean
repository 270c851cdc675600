import Mathlib.Algebra.Group.Nat.Defs
import Mathlib.Data.List.Lex
import Mjpeg.Proofs.Pipeline

/-!
# The order of the files of the frames

A frame is written to a file whose name carries its number, with zeros before it up to five digits.
Names of as many digits sort like their numbers (`IsDecimal.octets_lt_octets_iff`). Where one number
has more digits than the other, it is cut to as many before the two are compared, and the dot behind
the shorter one sorts before all digits (`frameFileName_lt_iff`). So the names are those of the
stream order up to number 99999, and from number 100000 on they are not: the later one is cut to
10000 there.

Every run numbers its frames from one on, whatever becomes of it (`getElem_records_report`), so its
files sort in stream order exactly when there are fewer than 100000 of them
(`names_in_stream_order_iff`). A body of 100000 frames is extracted like any other
(`report_longCapture`), and its last two files sort the other way round
(`names_out_of_stream_order`).
-/

namespace Mjpeg.Bytes

/-! ### Digits in order -/

/-- All characters are digits. -/
def IsDecimal (cs : List Char) : Prop := ∀ c ∈ cs, 48 ≤ c.toNat ∧ c.toNat ≤ 57

/-- The octets of ASCII characters. -/
def octets (cs : List Char) : Bytes := cs.map fun c => UInt8.ofNat c.toNat

theorem length_octets (cs : List Char) : (octets cs).length = cs.length := List.length_map _

/-- A digit is encoded by one octet. -/
theorem IsDecimal.flatMap_utf8EncodeChar {cs : List Char} (h : IsDecimal cs) :
    cs.flatMap String.utf8EncodeChar = octets cs := by
  induction cs with
  | nil => rfl
  | cons c cs ih =>
    obtain ⟨hc, hcs⟩ := List.forall_mem_cons.mp h
    rw [List.flatMap_cons, utf8EncodeChar_of_lt (Nat.lt_of_le_of_lt hc.2 (by decide)), ih hcs]
    rfl

theorem ofDigitChars_cons_zero (c : Char) (cs : List Char) :
    Nat.ofDigitChars 10 (c :: cs) 0 =
      10 ^ cs.length * (c.toNat - 48) + Nat.ofDigitChars 10 cs 0 := by
  rw [Nat.ofDigitChars_cons, Nat.ofDigitChars_eq_ofDigitChars_zero, Nat.mul_zero, Nat.zero_add]
  rfl

theorem IsDecimal.ofDigitChars_lt {cs : List Char} (h : IsDecimal cs) :
    Nat.ofDigitChars 10 cs 0 < 10 ^ cs.length := by
  induction cs with
  | nil => simp
  | cons c cs ih =>
    obtain ⟨hc, hcs⟩ := List.forall_mem_cons.mp h
    have hrest := ih hcs
    have hfirst : c.toNat - 48 ≤ 9 := by omega
    have hmul := Nat.mul_le_mul_left (10 ^ cs.length) hfirst
    rw [ofDigitChars_cons_zero, List.length_cons, Nat.pow_succ]
    omega

theorem ofNat_lt_iff {c d : Char} (hc : c.toNat ≤ 57) (hd : d.toNat ≤ 57) :
    UInt8.ofNat c.toNat < UInt8.ofNat d.toNat ↔ c.toNat < d.toNat := by
  rw [UInt8.lt_iff_toNat_lt, UInt8.toNat_ofNat', UInt8.toNat_ofNat']
  omega

theorem ofNat_eq_iff {c d : Char} (hc : c.toNat ≤ 57) (hd : d.toNat ≤ 57) :
    UInt8.ofNat c.toNat = UInt8.ofNat d.toNat ↔ c.toNat = d.toNat := by
  rw [← UInt8.toNat_inj, UInt8.toNat_ofNat', UInt8.toNat_ofNat']
  omega

/-- What the first digit stands for outweighs all behind it. -/
theorem mul_add_lt_iff {w m n v v' : Nat} (hv : v < w) (hv' : v' < w) :
    w * m + v < w * n + v' ↔ m < n ∨ m = n ∧ v < v' := by
  rcases Nat.lt_trichotomy m n with hlt | rfl | hlt
  · have := Nat.mul_succ w m ▸ Nat.mul_le_mul_left w hlt
    omega
  · omega
  · have := Nat.mul_succ w n ▸ Nat.mul_le_mul_left w hlt
    omega

/-- **As many digits sort like their numbers.** -/
theorem IsDecimal.octets_lt_octets_iff {cs ds : List Char} (hcs : IsDecimal cs) (hds : IsDecimal ds)
    (hlength : cs.length = ds.length) :
    octets cs < octets ds ↔ Nat.ofDigitChars 10 cs 0 < Nat.ofDigitChars 10 ds 0 := by
  induction cs generalizing ds with
  | nil =>
    obtain rfl := List.length_eq_zero_iff.mp hlength.symm
    exact iff_of_false (List.not_lt_nil _) (Nat.lt_irrefl _)
  | cons c cs ih =>
    obtain ⟨d, ds, rfl⟩ := List.exists_of_length_succ ds hlength.symm
    obtain ⟨hc, hcs⟩ := List.forall_mem_cons.mp hcs
    obtain ⟨hd, hds⟩ := List.forall_mem_cons.mp hds
    have hlength' : cs.length = ds.length := Nat.succ.inj hlength
    rw [octets, octets, List.map_cons, List.map_cons, List.cons_lt_cons_iff, ofNat_lt_iff hc.2 hd.2,
      ofNat_eq_iff hc.2 hd.2, ← octets, ← octets, ih hcs hds hlength', ofDigitChars_cons_zero,
      ofDigitChars_cons_zero]
    have hrest := IsDecimal.ofDigitChars_lt hcs
    have hrest' := IsDecimal.ofDigitChars_lt hds
    -- the first digits decide, and if they are the same those behind them do
    rw [hlength'] at hrest ⊢
    rw [mul_add_lt_iff hrest hrest']
    omega

/-- With something behind both whose first octet is smaller than those of the longer string, the
longer one is cut before the two are compared. -/
theorem append_lt_append_iff {as bs rest : Bytes} {stop : UInt8} (hne : as ≠ bs)
    (hlength : as.length ≤ bs.length) (hstop : ∀ b ∈ bs, stop < b) :
    as ++ stop :: rest < bs ++ stop :: rest ↔ ¬ bs.take as.length < as := by
  induction as generalizing bs with
  | nil =>
    -- the shorter one ends here, and its stop stands against an octet of the longer one
    obtain ⟨b, bs, rfl⟩ := List.exists_cons_of_ne_nil hne.symm
    simp [List.cons_lt_cons_iff, hstop b List.mem_cons_self]
  | cons a as ih =>
    cases bs with
    | nil => exact absurd hlength (Nat.not_succ_le_zero _)
    | cons b bs =>
      rw [List.cons_append, List.cons_append, List.cons_lt_cons_iff, List.length_cons,
        List.take_succ_cons, List.cons_lt_cons_iff]
      by_cases heq : a = b
      · subst heq
        have hrest := ih (fun h => hne (h ▸ rfl)) (Nat.le_of_succ_le_succ hlength)
          fun b hb => hstop b (List.mem_cons_of_mem _ hb)
        simp [hrest]
      · rcases UInt8.lt_or_lt_of_ne heq with hlt | hlt
        · simp [hlt, UInt8.lt_asymm hlt, Ne.symm heq]
        · simp [hlt, UInt8.lt_asymm hlt, heq]

/-- The first digits of a number write what is left of it when it is divided by a power of ten. -/
theorem IsDecimal.ofDigitChars_take {cs : List Char} (h : IsDecimal cs) (k : Nat) :
    Nat.ofDigitChars 10 (cs.take k) 0 = Nat.ofDigitChars 10 cs 0 / 10 ^ (cs.length - k) := by
  have hdrop : IsDecimal (cs.drop k) := fun c hc => h c (List.mem_of_mem_drop hc)
  have hlt := hdrop.ofDigitChars_lt
  have hvalue : Nat.ofDigitChars 10 cs 0 =
      10 ^ (cs.drop k).length * Nat.ofDigitChars 10 (cs.take k) 0 +
        Nat.ofDigitChars 10 (cs.drop k) 0 := by
    rw [← Nat.ofDigitChars_eq_ofDigitChars_zero, ← Nat.ofDigitChars_append, List.take_append_drop]
  rw [← List.length_drop, hvalue, Nat.mul_add_div (Nat.pow_pos (by decide)),
    Nat.div_eq_of_lt hlt, Nat.add_zero]

/-- A dot sorts before every digit. -/
theorem IsDecimal.lt_of_mem_octets {cs : List Char} (h : IsDecimal cs) {b : UInt8}
    (hb : b ∈ octets cs) : 46 < b := by
  obtain ⟨c, hc, rfl⟩ := List.mem_map.mp hb
  have hdigit := h c hc
  rw [UInt8.lt_iff_toNat_lt, UInt8.toNat_ofNat']
  change 46 < _
  omega

/-- **Digits with a dot behind them sort like their numbers when the longer ones are cut** to the
length of the others. -/
theorem IsDecimal.octets_append_lt_iff {cs ds : List Char} (hcs : IsDecimal cs)
    (hds : IsDecimal ds) (hlength : cs.length ≤ ds.length)
    (hlt : Nat.ofDigitChars 10 cs 0 < Nat.ofDigitChars 10 ds 0) (rest : Bytes) :
    octets cs ++ 46 :: rest < octets ds ++ 46 :: rest ↔
      Nat.ofDigitChars 10 cs 0 ≤ Nat.ofDigitChars 10 ds 0 / 10 ^ (ds.length - cs.length) := by
  have hle : (octets cs).length ≤ (octets ds).length := by
    rwa [length_octets, length_octets]
  have hne : octets cs ≠ octets ds := by
    intro heq
    have hsame : cs.length = ds.length := by rw [← length_octets, heq, length_octets]
    exact List.lt_irrefl _ (heq ▸ (hcs.octets_lt_octets_iff hds hsame).mpr hlt)
  have hcut : IsDecimal (ds.take cs.length) := fun c hc => hds c (List.mem_of_mem_take hc)
  have htake : (octets ds).take (octets cs).length = octets (ds.take cs.length) := by
    rw [length_octets, octets, octets, List.map_take]
  rw [append_lt_append_iff hne hle fun b hb => hds.lt_of_mem_octets hb, htake,
    hcut.octets_lt_octets_iff hcs (List.length_take_of_le hlength), hds.ofDigitChars_take,
    Nat.not_lt]

end Mjpeg.Bytes

namespace Mjpeg.Command

open Bytes Extract FileTree

/-! ### Names of frames -/

theorem isDecimal_fiveDigits (n : Nat) : IsDecimal (fiveDigits n).toList := by
  intro c hc
  rw [fiveDigits, String.toList_append, String.toList_ofList, List.mem_append] at hc
  rcases hc with hzero | hdigit
  · rw [List.eq_of_mem_replicate hzero]
    decide
  · exact isDigit_of_mem_toString hdigit

theorem length_fiveDigits (n : Nat) :
    (fiveDigits n).toList.length = max 5 (toString n).length := by
  rw [String.length_toList, fiveDigits, String.length_append, String.length_ofList,
    List.length_replicate]
  omega

/-- A number has at most so many digits when it is below that power of ten. -/
theorem length_fiveDigits_le_iff {n k : Nat} (hk : 5 ≤ k) :
    (fiveDigits n).toList.length ≤ k ↔ n < 10 ^ k := by
  rw [length_fiveDigits, Nat.max_le, Nat.toString_eq_repr, Nat.length_repr_le_iff (by omega)]
  exact and_iff_right hk

theorem length_fiveDigits_mono {i j : Nat} (h : i ≤ j) :
    (fiveDigits i).toList.length ≤ (fiveDigits j).toList.length := by
  have hfive : 5 ≤ (fiveDigits j).toList.length := length_fiveDigits j ▸ Nat.le_max_left _ _
  exact (length_fiveDigits_le_iff hfive).mpr
    (Nat.lt_of_le_of_lt h ((length_fiveDigits_le_iff hfive).mp (Nat.le_refl _)))

/-- The octets of a name are those of its digits, between two constant texts. -/
theorem ofText_frameFileName (n : Nat) :
    ofText (frameFileName n) =
      ofText "frame-" ++ (octets (fiveDigits n).toList ++ ofText ".jpg") := by
  have hdigits : ofText (fiveDigits n) = octets (fiveDigits n).toList :=
    (isDecimal_fiveDigits n).flatMap_utf8EncodeChar
  rw [frameFileName, ofText_append, ofText_append, hdigits, List.append_assoc]

/-- **The names of two frames sort in stream order exactly when the number of the earlier is at
most as large as that of the later when it is cut to as many digits.** -/
theorem frameFileName_lt_iff {i j : Nat} (h : i < j) :
    ofText (frameFileName i) < ofText (frameFileName j) ↔
      i ≤ j / 10 ^ ((fiveDigits j).length - (fiveDigits i).length) := by
  have hfront : ofText "frame-" = [102, 114, 97, 109, 101, 45] := by decide
  have hback : ofText ".jpg" = 46 :: [106, 112, 103] := by decide
  have hdigits := (isDecimal_fiveDigits i).octets_append_lt_iff (isDecimal_fiveDigits j)
    (length_fiveDigits_mono h.le) (by rwa [ofDigitChars_fiveDigits, ofDigitChars_fiveDigits])
    [106, 112, 103]
  rw [ofDigitChars_fiveDigits, ofDigitChars_fiveDigits, String.length_toList,
    String.length_toList] at hdigits
  rw [ofText_frameFileName, ofText_frameFileName, hfront, hback]
  simpa only [List.cons_append, List.nil_append, List.cons_lt_cons_self] using hdigits

/-- Numbers of up to five digits have as long names. -/
theorem length_fiveDigits_eq {n : Nat} (h : n < 100000) : (fiveDigits n).length = 5 := by
  have hle := (length_fiveDigits_le_iff (Nat.le_refl 5)).mpr h
  have hge : 5 ≤ (fiveDigits n).toList.length := length_fiveDigits n ▸ Nat.le_max_left _ _
  rw [← String.length_toList]
  exact Nat.le_antisymm hle hge

/-- The records of a run are numbered from one on, and each has the path of its number. -/
theorem getElem_records_report (arguments : ExtractArguments) (env : Environment) (i : Nat)
    (h : i < (Extract.report arguments env).records.length) :
    ∃ frame, (Extract.report arguments env).records[i] = recordOf arguments (i + 1) frame := by
  rcases prints_report arguments env with ⟨hnil, -⟩ | hprints
  · exact absurd h (by simp [hnil])
  · obtain ⟨frame, heq⟩ := hprints.getElem i h
    exact ⟨frame, by rw [heq, Nat.zero_add]⟩

/-! ### Every run -/

/-- The records are numbered from one on, and each has the path of its number. -/
structure Numbered (dir : String) (records : List FrameRecord) : Prop where
  index : ∀ i (h : i < records.length), records[i].index = i + 1
  path : ∀ i (h : i < records.length), records[i].path = some (join dir (frameFileName (i + 1)))

/-- **When the files of a run sort in stream order.** The frames of a run are numbered from one on,
and each file has the name of its number; no two numbers share a name, and the names of two of them
sort in stream order exactly when the earlier number is at most the later one cut to as many digits.
So those of a run do exactly when there are fewer than 100000 of them. -/
theorem names_in_stream_order_iff (arguments : ExtractArguments) (dir : String)
    (env : Environment) :
    let records := (Extract.report { arguments with outDir := some dir } env).records
    Numbered dir records ∧
    (∀ i j, i ≠ j → frameFileName i ≠ frameFileName j) ∧
    (∀ i j, i < j → (ofText (frameFileName i) < ofText (frameFileName j) ↔
      i ≤ j / 10 ^ ((fiveDigits j).length - (fiveDigits i).length))) ∧
    ((∀ i j, 1 ≤ i → i < j → j ≤ records.length →
      ofText (frameFileName i) < ofText (frameFileName j)) ↔ records.length < 100000) := by
  intro records
  refine ⟨⟨fun i h => ?_, fun i h => ?_⟩, fun i j hne heq => hne (frameFileName_inj heq),
    fun i j hlt => frameFileName_lt_iff hlt, fun hsorted => ?_, fun hfew i j _ hlt hle => ?_⟩
  · obtain ⟨frame, heq⟩ := getElem_records_report { arguments with outDir := some dir } env i h
    rw [heq]
    rfl
  · obtain ⟨frame, heq⟩ := getElem_records_report { arguments with outDir := some dir } env i h
    rw [heq]
    rfl
  · -- a run of 100000 frames has the first number that takes six digits, and the one before it
    by_contra hmany
    have hlast := hsorted 99999 100000 (by decide) (by decide) (Nat.le_of_not_lt hmany)
    exact absurd ((frameFileName_lt_iff (by decide)).mp hlast) (by decide)
  · rw [frameFileName_lt_iff hlt, length_fiveDigits_eq (by omega), length_fiveDigits_eq (by omega)]
    simpa using hlt.le

/-! ### A long run -/

theorem length_ofText_frameFileName (n : Nat) :
    (ofText (frameFileName n)).length = 10 + (fiveDigits n).toList.length := by
  have hends : (ofText "frame-").length = 6 ∧ (ofText ".jpg").length = 4 := by decide
  rw [ofText_frameFileName, List.length_append, List.length_append, length_octets, hends.1, hends.2]
  omega

theorem isName_frameFileName (n : Nat) : Route.isName (frameFileName n) = true := by
  have hfirst : (frameFileName n).toList.head? = some 'f' := by
    rw [toList_frameFileName]
    rfl
  simp only [Route.isName, Bool.and_eq_true, bne_iff_ne]
  constructor <;> rintro heq <;> rw [heq] at hfirst <;> exact absurd hfirst (by decide)

/-- A directory that is there has a place for every frame with a number of 64 bits. -/
theorem leadsTo_framePath {t : FileTree} {dir : String} {place : List String}
    (hdirectory : (route dir).steps.foldlM t.enter (route dir).start = .ok place)
    (hdir : dir.utf8ByteSize ≤ 4000) {i : Nat} (hi : i < 2 ^ 64) :
    LeadsTo t (framePath dir i) (place ++ [frameFileName i]) := by
  have hdigits : (fiveDigits i).toList.length ≤ 20 :=
    (length_fiveDigits_le_iff (by decide)).mpr (hi.trans (by decide))
  have hname : (frameFileName i).utf8ByteSize ≤ 30 := by
    rw [utf8ByteSize_eq_length_ofText, length_ofText_frameFileName]
    omega
  have hlength : (framePath dir i).utf8ByteSize ≤ maxPath := by
    have hjoin := utf8ByteSize_join_le dir (frameFileName i)
    exact hjoin.trans (by unfold maxPath; omega)
  exact leadsTo_join hdirectory (slash_not_mem_frameFileName i) (frameFileName_ne_empty i)
    (isName_frameFileName i) (hname.trans (by decide)) hlength

/-- A body of so many frames of one octet. -/
def longCapture (n : Nat) : Bytes :=
  ofText "--B" ++ (List.replicate n (ofText "\r\n\r\nX\r\n--B")).flatten

theorem length_longCapture (n : Nat) : (longCapture n).length = 3 + n * 10 := by
  have hends : (ofText "--B").length = 3 ∧ (ofText "\r\n\r\nX\r\n--B").length = 10 := by decide
  rw [longCapture, List.length_append, List.length_flatten, List.map_replicate,
    List.sum_replicate_nat, hends.1, hends.2]

theorem frames_longCapture (n : Nat) :
    Body.frames shortBoundary (longCapture n) = List.replicate n ⟨[], [88]⟩ := by
  have hcut : IsCut shortBoundary.delimiter (longCapture n)
      ([] :: List.replicate n (ofText "\r\n\r\nX\r\n")) [] := by
    refine ⟨?_, ?_, Decoder.not_occurs_nil shortBoundary⟩
    · rw [closed_cons, closed, List.flatMap_replicate, List.append_nil]
      rfl
    · refine firstClosed_cons_iff.mpr ⟨firstAt_of_not_isInfix (by decide), fun piece hpiece => ?_⟩
      rw [List.eq_of_mem_replicate hpiece]
      exact firstAt_of_not_isInfix (by decide)
  have hframe : Part.ofSegment? (ofText "\r\n\r\nX\r\n") = some ⟨[], [88]⟩ := by decide
  rw [Body.frames, (Body.eq_of_isCut hcut).1, List.filterMap_cons,
    List.filterMap_replicate_of_some hframe]
  rfl

/-- That body comes from the standard input. -/
def longCaptureEnv (n : Nat) : Environment :=
  ⟨longCapture n, ⟨[]⟩, ⟨[], .status 404 "Not Found"⟩, none, "now", 0⟩

/-- Its frames are to be written to a new directory. -/
def longCaptureArguments : ExtractArguments := ⟨"-", "B", some "/tmp/f", none⟩

theorem readingOf_longCapture {n : Nat} (h : n ≤ 1000000) :
    (readingOf shortBoundary (longCapture n)).frames = List.replicate n ⟨[], [88]⟩ ∧
      (readingOf shortBoundary (longCapture n)).error = .connectionClosed := by
  have hle : (longCapture n).length ≤ defaultMaxBuffer := by
    rw [length_longCapture, defaultMaxBuffer]
    omega
  obtain ⟨m, hread⟩ := Reader.readAll_start_isRead shortBoundary defaultMaxBuffer (longCapture n)
  have hclosed := hread.closed_of_length_le hle
  refine ⟨?_, hclosed⟩
  rw [readingOf, hread.frames_eq_of_closed hclosed, frames_longCapture]

/-- The files once that directory has been made. -/
def longCaptureFiles : FileTree := ⟨[(["", "tmp"], .directory), (["", "tmp", "f"], .directory)]⟩

theorem prepared_longCapture (n : Nat) :
    prepareDirectory (longCaptureEnv n).files longCaptureArguments.outDir =
      (longCaptureFiles, none) := by
  change prepareDirectory ⟨[]⟩ (some "/tmp/f") = _
  rw [prepareDirectory, makeDirectories, route_eq]
  rfl

theorem feasible_longCapture {n : Nat} (h : n ≤ 1000000) :
    Feasible (longCaptureEnv n) longCaptureArguments shortBoundary (longCapture n) where
  count := nofun
  token := by decide
  input := captures_stdin _
  writable := by
    refine ⟨congrArg Prod.snd (prepared_longCapture n), ?_⟩
    rintro dir ⟨⟩ i hi
    have hcount : extractedCount longCaptureArguments shortBoundary (longCapture n) = n :=
      (congrArg List.length (readingOf_longCapture h).1).trans List.length_replicate
    rw [hcount] at hi
    have hdirectory : (route "/tmp/f").steps.foldlM longCaptureFiles.enter (route "/tmp/f").start =
        .ok ["", "tmp", "f"] := by
      rw [route_eq]
      rfl
    have hleads := leadsTo_framePath hdirectory (by decide) (i := i + 1) (by omega)
    have hnone : longCaptureFiles.get? (["", "tmp", "f"] ++ [frameFileName (i + 1)]) ≠
        some .directory := by
      simp [get?, longCaptureFiles]
    rw [prepared, prepared_longCapture]
    exact ⟨_, write_eq_ok_iff.mpr ⟨_, hleads, hnone, rfl⟩⟩
  apart := fun dir _ i _ place hplace => nomatch hplace

/-- **A long run.** All frames of that body are extracted, and the run ends well. -/
theorem report_longCapture {n : Nat} (h : n ≤ 1000000) :
    (Extract.report longCaptureArguments (longCaptureEnv n)).records.length = n ∧
      (Extract.report longCaptureArguments (longCaptureEnv n)).error = none := by
  have hcomes := (feasible_longCapture h).report_comes
  obtain ⟨hframes, hclosed⟩ := readingOf_longCapture h
  constructor
  · rw [hcomes.records, hframes, List.length_mapIdx]
    exact List.length_replicate
  · rw [hcomes.error, hclosed]
    rfl

/-- **The files of a long run do not sort in stream order.** The last two files of a run with 100000
frames sort the other way round. -/
theorem names_out_of_stream_order :
    let words := ["--format", "pretty", "extract", "-", "--boundary", "B", "--out-dir", "/tmp/f"]
    let records := (Extract.report longCaptureArguments (longCaptureEnv 100000)).records
    parse words = .ok ⟨some .pretty, .text, .info, .extract longCaptureArguments⟩ ∧
      (∃ o, run ⟨"", "", "", "", ""⟩ words (longCaptureEnv 100000) = some o ∧ o.exit.code = 0) ∧
      records.length = 100000 ∧
      records[99998]?.bind (·.path) = some "/tmp/f/frame-99999.jpg" ∧
      records[99999]?.bind (·.path) = some "/tmp/f/frame-100000.jpg" ∧
      ¬ ofText "frame-99999.jpg" < ofText "frame-100000.jpg" := by
  intro words records
  have hparse : parse words = .ok ⟨some .pretty, .text, .info, .extract longCaptureArguments⟩ := by
    decide +kernel
  obtain ⟨hlength, herror⟩ := report_longCapture (n := 100000) (by decide)
  have hpath : ∀ i < 100000, records[i]?.bind (·.path) =
      some ("/tmp/f" ++ "/" ++ frameFileName (i + 1)) := by
    intro i hi
    obtain ⟨frame, heq⟩ := getElem_records_report longCaptureArguments (longCaptureEnv 100000) i
      (hlength.symm ▸ hi)
    rw [List.getElem?_eq_getElem (hlength.symm ▸ hi), heq]
    exact congrArg some (join_of_ne (by decide) (by decide) _)
  refine ⟨hparse, ⟨_, run_extract _ hparse rfl, ?_⟩, hlength, ?_, ?_, by decide⟩
  · simp only [outcomeOf, herror]
    rfl
  · rw [hpath 99998 (by decide)]
    rfl
  · rw [hpath 99999 (by decide)]
    rfl

end Mjpeg.Command
