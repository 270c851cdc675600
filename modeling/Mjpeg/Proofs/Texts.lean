import Mathlib.Data.List.DropRight
import Mjpeg.Boundary

/-!
# Texts and their bytes

Reading the UTF-8 encoding of a text gives the text back (`Text.decode?_flatMap`,
`Text.decode?_ofText`), whatever its characters are, and no other bytes are read as that text
(`Text.decode?_eq_some_iff`). A text of ASCII characters has one octet for each, so the decimal
digits of a number are the octets 48 to 57 (`Bytes.digit_of_mem_ofText_toString`).

A text is cut at the first of the characters looked for (`Text.splitOnce_append`,
`Text.eq_of_splitOnce`) or at all of them (`Text.splitAll_append_cons`). Trimming takes white space
off both ends (`Text.exists_append_trim`) and nothing more when it is done again (`Text.trim_trim`).
-/

namespace Mjpeg.Text

variable {c : Char} {cs ds : List Char}

/-! ### UTF-8 -/

/-- The bytes that follow an encoded character do not change what is read. -/
theorem firstChar?_encode_append (c : Char) (rest : Bytes) :
    firstChar? (String.utf8EncodeChar c ++ rest) = some c := by
  have htake : (String.utf8EncodeChar c ++ rest).take 4 =
      String.utf8EncodeChar c ++ rest.take (4 - c.utf8Size) := by
    have hsize := c.utf8Size_le_four
    rw [List.take_append, String.length_utf8EncodeChar, List.take_of_length_le]
    rwa [String.length_utf8EncodeChar]
  rw [firstChar?, htake, List.toByteArray_append]
  exact ByteArray.utf8DecodeChar?_utf8EncodeChar_append

theorem decodeLoop_flatMap (cs read : List Char) :
    decodeLoop read (cs.flatMap String.utf8EncodeChar) = some (read.reverse ++ cs) := by
  induction cs generalizing read with
  | nil => simp [decodeLoop]
  | cons c cs ih =>
    have hne : String.utf8EncodeChar c ++ cs.flatMap String.utf8EncodeChar ≠ [] := by
      simp [String.utf8EncodeChar_ne_nil]
    have hdrop : (String.utf8EncodeChar c ++ cs.flatMap String.utf8EncodeChar).drop c.utf8Size =
        cs.flatMap String.utf8EncodeChar := by
      rw [← String.length_utf8EncodeChar c, List.drop_left]
    -- one turn reads the first character and drops the octets of its encoding
    rw [List.flatMap_cons, decodeLoop, dif_neg hne, firstChar?_encode_append]
    dsimp only
    rw [hdrop, ih, List.reverse_cons, List.append_assoc, List.singleton_append]

/-- **Reading an encoded text gives the text back.** -/
theorem decode?_flatMap (cs : List Char) :
    decode? (cs.flatMap String.utf8EncodeChar) = some cs :=
  decodeLoop_flatMap cs []

theorem decode?_ofText (s : String) : decode? (Bytes.ofText s) = some s.toList :=
  decode?_flatMap s.toList

/-- Bytes that begin with a character begin with its encoding. -/
theorem eq_append_of_firstChar? {bs : Bytes} (h : firstChar? bs = some c) :
    bs = String.utf8EncodeChar c ++ bs.drop c.utf8Size := by
  obtain ⟨behind, hbehind⟩ := ByteArray.exists_of_utf8DecodeChar?_eq_some h
  have hdata := congrArg (·.data.toList) hbehind
  have htake : bs.take 4 = String.utf8EncodeChar c ++ behind.data.toList := by simpa using hdata
  have hbegins : String.utf8EncodeChar c <+: bs := by
    refine List.IsPrefix.trans ?_ (List.take_prefix 4 bs)
    rw [htake]
    exact List.prefix_append _ _
  rw [← String.length_utf8EncodeChar c]
  exact List.prefix_iff_eq_append.mp hbegins |>.symm

theorem eq_of_decodeLoop {read : List Char} {bs : Bytes} (h : decodeLoop read bs = some cs) :
    ∃ ds, cs = read.reverse ++ ds ∧ bs = ds.flatMap String.utf8EncodeChar := by
  fun_induction decodeLoop read bs with
  | case1 read => exact ⟨[], by rw [List.append_nil, ← Option.some.inj h], rfl⟩
  | case2 read bs hne hnone => exact absurd h (by simp)
  | case3 read bs hne c hc hlt ih =>
    obtain ⟨ds, rfl, hds⟩ := ih h
    refine ⟨c :: ds, by simp, ?_⟩
    rw [List.flatMap_cons, ← hds]
    exact eq_append_of_firstChar? hc

/-- **The bytes that are read as a text are its encoding.** -/
theorem decode?_eq_some_iff {bs : Bytes} :
    decode? bs = some cs ↔ bs = cs.flatMap String.utf8EncodeChar := by
  constructor
  · intro h
    obtain ⟨ds, rfl, hds⟩ := eq_of_decodeLoop h
    exact hds
  · rintro rfl
    exact decode?_flatMap cs

/-- Reading loses nothing of bytes that are UTF-8. -/
theorem decodeLossyLoop_eq_of_decodeLoop {read : List Char} {bs : Bytes}
    (h : decodeLoop read bs = some cs) : decodeLossyLoop read bs = cs := by
  fun_induction decodeLoop read bs with
  | case1 read =>
    rw [decodeLossyLoop, dif_pos rfl]
    exact Option.some.inj h
  | case2 read bs hne hnone => exact absurd h (by simp)
  | case3 read bs hne c hc hlt ih =>
    rw [decodeLossyLoop, dif_neg hne]
    split
    · rename_i c' hc'
      obtain rfl := Option.some.inj (hc.symm.trans hc')
      exact ih h
    · rename_i hnone
      exact absurd (hc.symm.trans hnone) (by simp)

/-- Nothing is lost in reading an encoded text. -/
theorem decodeLossy_flatMap (cs : List Char) :
    decodeLossy (cs.flatMap String.utf8EncodeChar) = cs :=
  decodeLossyLoop_eq_of_decodeLoop (decode?_flatMap cs)

/-- Different texts have different encodings. -/
theorem flatMap_utf8EncodeChar_inj
    (h : cs.flatMap String.utf8EncodeChar = ds.flatMap String.utf8EncodeChar) : cs = ds := by
  have hread := decode?_flatMap cs
  rw [h, decode?_flatMap] at hread
  exact (Option.some.inj hread).symm

/-! ### Cutting and trimming -/

theorem bne_of_not_mem (h : c ∉ cs) : ∀ x ∈ cs, (x != c) = true :=
  fun _ hx => bne_iff_ne.mpr fun heq => h (heq ▸ hx)

theorem takeWhile_bne_append (h : c ∉ cs) (ds : List Char) :
    (cs ++ c :: ds).takeWhile (· != c) = cs := by
  rw [List.takeWhile_append_of_pos (bne_of_not_mem h), List.takeWhile_cons_of_neg (by simp),
    List.append_nil]

theorem dropWhile_bne_append (h : c ∉ cs) (ds : List Char) :
    (cs ++ c :: ds).dropWhile (· != c) = c :: ds := by
  rw [List.dropWhile_append_of_pos (bne_of_not_mem h), List.dropWhile_cons_of_neg (by simp)]

/-- A text is cut at the first `c`. -/
theorem splitOnce_append (h : c ∉ cs) (ds : List Char) :
    splitOnce c (cs ++ c :: ds) = some (cs, ds) := by
  rw [splitOnce, dropWhile_bne_append h, takeWhile_bne_append h]

/-- A text that is cut in two is put together by the character at which it was cut. -/
theorem eq_of_splitOnce {before behind : List Char}
    (h : splitOnce c cs = some (before, behind)) : cs = before ++ c :: behind := by
  have hhead := List.head?_dropWhile_not (· != c) cs
  rw [splitOnce] at h
  split at h
  · exact absurd h (by simp)
  · rename_i b rest hdrop
    obtain ⟨rfl, rfl⟩ := Prod.mk.inj (Option.some.inj h)
    rw [hdrop] at hhead
    obtain rfl : b = c := by simpa using hhead
    rw [← hdrop, List.takeWhile_append_dropWhile]

/-- The part before the cut does not have the character. -/
theorem not_mem_of_splitOnce {before behind : List Char}
    (h : splitOnce c cs = some (before, behind)) : c ∉ before := by
  rw [splitOnce] at h
  split at h
  · exact absurd h (by simp)
  · obtain ⟨rfl, -⟩ := Prod.mk.inj (Option.some.inj h)
    intro hmem
    exact absurd (List.mem_takeWhile_imp hmem) (by simp)

theorem splitAll_ne_nil (p : Char → Bool) (cs : List Char) : splitAll p cs ≠ [] := by
  induction cs with
  | nil => exact List.cons_ne_nil _ _
  | cons c cs ih =>
    rw [splitAll]
    split
    · exact List.cons_ne_nil _ _
    · exact fun h => ih (List.modifyHead_eq_nil_iff.mp h)

/-- The pieces of a text are those before a separator and those behind it. -/
theorem splitAll_append_cons {p : Char → Bool} {c : Char} (h : p c = true) (cs ds : List Char) :
    splitAll p (cs ++ c :: ds) = splitAll p cs ++ splitAll p ds := by
  induction cs with
  | nil =>
    rw [List.nil_append]
    exact if_pos h
  | cons a cs ih =>
    rw [List.cons_append, splitAll, splitAll, ih]
    split
    · rfl
    · obtain ⟨piece, pieces, heq⟩ := List.exists_cons_of_ne_nil (splitAll_ne_nil p cs)
      rw [heq]
      rfl

/-- A text without separators is one piece. -/
theorem splitAll_eq_singleton {p : Char → Bool} {cs : List Char} (h : ∀ c ∈ cs, p c = false) :
    splitAll p cs = [cs] := by
  induction cs with
  | nil => rfl
  | cons c cs ih =>
    obtain ⟨hc, hcs⟩ := List.forall_mem_cons.mp h
    rw [splitAll, hc, ih hcs]
    rfl

/-- A character at which a text is not cut stands in one of the pieces. -/
theorem exists_mem_splitAll {p : Char → Bool} (hp : p c = false) (h : c ∈ cs) :
    ∃ piece ∈ splitAll p cs, c ∈ piece := by
  induction cs with
  | nil => exact absurd h (by simp)
  | cons b cs ih =>
    obtain ⟨first, rest, heq⟩ := List.exists_cons_of_ne_nil (splitAll_ne_nil p cs)
    rw [heq] at ih
    rw [splitAll, heq]
    split
    · rename_i hb
      have hne : c ≠ b := fun hcb => by
        rw [hcb, hb] at hp
        exact absurd hp (by decide)
      obtain ⟨piece, hpiece, hmem⟩ := ih ((List.mem_cons.mp h).resolve_left hne)
      exact ⟨piece, List.mem_cons_of_mem _ hpiece, hmem⟩
    · rw [List.modifyHead_cons]
      rcases List.mem_cons.mp h with rfl | hcs
      · exact ⟨_, List.mem_cons_self, List.mem_cons_self⟩
      · obtain ⟨piece, hpiece, hmem⟩ := ih hcs
        rcases List.mem_cons.mp hpiece with rfl | hrest
        · exact ⟨_, List.mem_cons_self, List.mem_cons_of_mem _ hmem⟩
        · exact ⟨piece, List.mem_cons_of_mem _ hrest, hmem⟩

theorem dropWhile_eq_self {p : Char → Bool} (h : ∀ c ∈ cs, p c = false) : cs.dropWhile p = cs := by
  cases cs with
  | nil => rfl
  | cons c cs => exact List.dropWhile_cons_of_neg (by simp [h c List.mem_cons_self])

/-- Trimming leaves a text without white space as it is. -/
theorem trim_eq_self (h : ∀ c ∈ cs, isWhiteSpace c = false) : trim cs = cs := by
  rw [trim, trimStart, dropWhile_eq_self h, trimEnd,
    dropWhile_eq_self fun c hc => h c (List.mem_reverse.mp hc), List.reverse_reverse]

/-- Trimming takes white space off the start. -/
theorem trim_cons (h : isWhiteSpace c = true) (cs : List Char) : trim (c :: cs) = trim cs := by
  rw [trim, trim, trimStart, trimStart, List.dropWhile_cons_of_pos h]

theorem trimEnd_eq_rdropWhile (cs : List Char) : trimEnd cs = cs.rdropWhile isWhiteSpace := rfl

/-- What is trimmed off is white space. -/
theorem exists_append_trim (cs : List Char) :
    ∃ front back, cs = front ++ (trim cs ++ back) ∧
      ∀ c ∈ front ++ back, isWhiteSpace c = true := by
  refine ⟨cs.takeWhile isWhiteSpace, (trimStart cs).rtakeWhile isWhiteSpace, ?_, fun c hc => ?_⟩
  · rw [trim, trimEnd_eq_rdropWhile, List.rdropWhile_append_rtakeWhile]
    exact List.takeWhile_append_dropWhile.symm
  · rcases List.mem_append.mp hc with hc | hc
    · exact List.mem_takeWhile_imp hc
    · exact List.mem_rtakeWhile_imp hc

theorem length_trim_le (cs : List Char) : (trim cs).length ≤ cs.length := by
  obtain ⟨front, back, heq, -⟩ := exists_append_trim cs
  have hlength := congrArg List.length heq
  simp only [List.length_append] at hlength
  omega

/-- The beginning of a text with no white space at its start has none there either. -/
theorem trimStart_eq_self_of_isPrefix (h : trimStart ds = ds) (hbegins : cs <+: ds) :
    trimStart cs = cs := by
  cases cs with
  | nil => rfl
  | cons c cs =>
    obtain ⟨rest, rfl⟩ := hbegins
    refine List.dropWhile_cons_of_neg fun hc => ?_
    -- otherwise trimming the longer text would have made it shorter
    rw [trimStart, List.cons_append, List.dropWhile_cons_of_pos hc] at h
    have hle : (List.dropWhile isWhiteSpace (cs ++ rest)).length ≤ (cs ++ rest).length :=
      (List.dropWhile_sublist _).length_le
    rw [h] at hle
    simp only [List.length_cons, List.length_append] at hle
    omega

theorem trim_trim (cs : List Char) : trim (trim cs) = trim cs := by
  have hbegins : trim cs <+: trimStart cs := List.rdropWhile_prefix _ _
  have hstart : trimStart (trim cs) = trim cs :=
    trimStart_eq_self_of_isPrefix (List.dropWhile_idempotent _ _) hbegins
  rw [trim, hstart]
  exact List.rdropWhile_idempotent _ _

/-- White space around a text is trimmed off. -/
theorem trim_append_append {front back : List Char}
    (h : ∀ c ∈ front ++ back, isWhiteSpace c = true) (cs : List Char) :
    trim (front ++ (cs ++ back)) = trim cs := by
  have hfront : ∀ c ∈ front, isWhiteSpace c = true := fun c hc =>
    h c (List.mem_append_left back hc)
  have hback : ∀ c ∈ back, isWhiteSpace c = true := fun c hc =>
    h c (List.mem_append_right front hc)
  rw [trim, trimStart, List.dropWhile_append_of_pos hfront, List.dropWhile_append, trim, trimStart]
  split
  · -- nothing but white space is left
    rename_i hnil
    rw [List.isEmpty_iff.mp hnil, List.dropWhile_eq_nil_iff.mpr hback]
  · rw [trimEnd, List.reverse_append,
      List.dropWhile_append_of_pos fun c hc => hback c (List.mem_reverse.mp hc)]
    rfl

/-! ### Names in whatever case -/

/-- The text is the name in whatever letter case, with white space around it. -/
def Spells (cs name : List Char) : Prop :=
  ∃ front written back, cs = front ++ (written ++ back) ∧
    (∀ c ∈ front ++ back, isWhiteSpace c = true) ∧
    written.map Char.toLower = name.map Char.toLower

/-- White space has no letter case. -/
theorem toLower_of_isWhiteSpace (h : isWhiteSpace c = true) : c.toLower = c := by
  refine dif_neg ?_
  rintro ⟨hlow, hhigh⟩
  have hlow : 65 ≤ c.toNat := UInt32.le_iff_toNat_le.mp hlow
  have hhigh : c.toNat ≤ 90 := UInt32.le_iff_toNat_le.mp hhigh
  simp only [isWhiteSpace, Bool.or_eq_true, Bool.and_eq_true, decide_eq_true_eq, beq_iff_eq] at h
  omega

/-- A name without white space is what is left when a text that spells it is trimmed. -/
theorem spells_iff {name : List Char}
    (hname : ∀ c ∈ name.map Char.toLower, isWhiteSpace c = false) :
    Spells cs name ↔ eqIgnoringCase (trim cs) name = true := by
  rw [eqIgnoringCase, beq_iff_eq]
  constructor
  · rintro ⟨front, written, back, rfl, hwhite, hlower⟩
    have hwritten : ∀ c ∈ written, isWhiteSpace c = false := fun c hc => by
      by_contra hnot
      have hc' : isWhiteSpace c = true := Bool.not_eq_false _ ▸ hnot
      have hmem : c.toLower ∈ name.map Char.toLower := hlower ▸ List.mem_map_of_mem hc
      rw [toLower_of_isWhiteSpace hc'] at hmem
      exact hnot (hname c hmem)
    rw [trim_append_append hwhite, trim_eq_self hwritten, hlower]
  · intro h
    obtain ⟨front, back, heq, hwhite⟩ := exists_append_trim cs
    exact ⟨front, trim cs, back, heq, hwhite, h⟩

/-- A text that spells a name has no characters but white space and the letters of the name. -/
theorem Spells.not_mem {name : List Char} (h : Spells cs name) (hwhite : isWhiteSpace c = false)
    (hname : c.toLower ∉ name.map Char.toLower) : c ∉ cs := by
  obtain ⟨front, written, back, rfl, haround, hlower⟩ := h
  rw [List.mem_append, List.mem_append, or_left_comm]
  rintro (hmem | hmem)
  · exact hname (hlower ▸ List.mem_map_of_mem hmem)
  · exact absurd (haround c (List.mem_append.mpr hmem)) (by simp [hwhite])

end Mjpeg.Text

namespace Mjpeg.Bytes

@[simp] theorem ofText_append (s t : String) : ofText (s ++ t) = ofText s ++ ofText t := by
  simp [ofText]

/-- The size of a text is the number of the octets that encode it. -/
theorem utf8ByteSize_eq_length_ofText (s : String) : s.utf8ByteSize = (ofText s).length := by
  have hsize : s.utf8ByteSize = (String.ofList s.toList).toByteArray.size := by
    rw [String.ofList_toList]
    rfl
  rw [hsize, String.toByteArray_ofList, List.utf8Encode, List.size_toByteArray]
  rfl

/-! ### Decimal digits -/

/-- An ASCII character is one octet. -/
theorem utf8EncodeChar_of_lt {c : Char} (h : c.toNat < 128) :
    String.utf8EncodeChar c = [UInt8.ofNat c.toNat] := by
  rw [String.utf8EncodeChar]
  exact if_pos (Nat.le_of_lt_succ h)

theorem isDigit_of_mem_toString {n : Nat} {c : Char} (h : c ∈ (toString n).toList) :
    48 ≤ c.toNat ∧ c.toNat ≤ 57 := by
  rw [Nat.toString_eq_repr, Nat.toList_repr] at h
  have hdigit := Nat.isDigit_of_mem_toDigits (by decide) (by decide) h
  rw [Char.isDigit, Bool.and_eq_true, decide_eq_true_eq, decide_eq_true_eq] at hdigit
  exact ⟨UInt32.le_iff_toNat_le.mp hdigit.1, UInt32.le_iff_toNat_le.mp hdigit.2⟩

/-- The octets of a number in decimal are digits. -/
theorem digit_of_mem_ofText_toString {n : Nat} {b : UInt8} (h : b ∈ ofText (toString n)) :
    48 ≤ b.toNat ∧ b.toNat ≤ 57 := by
  obtain ⟨c, hc, hb⟩ := List.mem_flatMap.mp h
  have hdigit := isDigit_of_mem_toString hc
  rw [utf8EncodeChar_of_lt (by omega), List.mem_singleton] at hb
  rw [hb, UInt8.toNat_ofNat']
  omega

end Mjpeg.Bytes

namespace Mjpeg.Text

/-- A number in decimal is not changed by trimming. -/
theorem trim_toString (n : Nat) : trim (toString n).toList = (toString n).toList := by
  refine trim_eq_self fun c hc => ?_
  have hdigit := Bytes.isDigit_of_mem_toString hc
  simp only [isWhiteSpace, Bool.or_eq_false_iff, Bool.and_eq_false_iff, decide_eq_false_iff_not,
    beq_eq_false_iff_ne]
  omega

end Mjpeg.Text
