import Mjpeg.Proofs.Splitting
import Mjpeg.Proofs.Texts

/-!
# Reading a part

A segment carries a frame when it is laid out as a part (`Part.IsLaidOut`): a head, the first blank
line, a payload, and the line end that belongs to the delimiter behind it, which may be missing.
That is all that `Part.ofSegment?` goes by (`Part.ofSegment?_eq_some_iff`).

What `Part.encode` writes is what `Part.ofSegment?` reads: the headers with their values
trimmed, and the payload byte for byte (`Part.ofSegment?_encode`). It is the same with any header
lines of which none is empty or holds a line end (`Part.ofSegment?_lines`). A payload may hold
blank lines and line ends at will, since

* the blank line that counts is the first, and no blank line lies among such header lines
  (`Bytes.firstAt_headEnd`);
* one line end is taken off behind the payload, and the writer puts one there.

The lines of a head are its leftmost cut at the line ends. A delimiter behind a piece is the first
one when no octet of it can end the piece (`Bytes.firstAt_of_getLast?`).
-/

namespace Mjpeg.Bytes

variable {d data piece rest line : Bytes} {pieces lines : List Bytes} {pos : Nat}

/-! ### First delimiters -/

/-- The delimiter behind a piece is the first one when it does not occur even with all but its
last octet appended. -/
theorem firstAt_of_not_isInfix (h : ¬ d <:+: piece ++ d.dropLast) :
    FirstAt d (piece ++ d) piece.length := by
  have hocc : Occurs d (piece ++ (d ++ [])) piece.length := occurs_length_append
  rw [List.append_nil] at hocc
  refine ⟨hocc, fun j hj hocc' => h (infix_iff_exists_occurs.mpr ⟨j, ?_⟩)⟩
  by_cases hne : d = []
  · subst hne
    exact List.nil_prefix
  · have hsplit : piece ++ d = piece ++ d.dropLast ++ [d.getLast hne] := by
      rw [List.append_assoc, List.dropLast_append_getLast]
    rw [hsplit] at hocc'
    refine hocc'.of_append ?_
    have hpos := List.length_pos_iff.mpr hne
    rw [List.length_append, List.length_dropLast]
    omega

theorem mem_of_suffix {b : UInt8} (h : d <:+ piece) (hne : d ≠ [])
    (hlast : piece.getLast? = some b) : b ∈ d := by
  obtain ⟨before, rfl⟩ := h
  rw [List.getLast?_append_of_ne_nil _ hne] at hlast
  exact List.mem_of_getLast? hlast

/-- A delimiter that does not occur in a piece and has not the piece's last octet is met first
behind it. -/
theorem firstAt_of_getLast? {b : UInt8} (hpiece : ¬ d <:+: piece) (hlast : piece.getLast? = some b)
    (hb : b ∉ d) : FirstAt d (piece ++ d) piece.length := by
  refine firstAt_of_not_isInfix fun h => ?_
  have hne : d ≠ [] := fun hnil => hpiece (hnil ▸ List.nil_infix)
  rcases List.infix_append_iff_ne_nil.mp h with hin | hin | ⟨d₁, d₂, hd₁, -, rfl, hsuffix, -⟩
  · exact hpiece hin
  · have hle := hin.length_le
    have hpos := List.length_pos_iff.mpr hne
    rw [List.length_dropLast] at hle
    omega
  · -- the part of the delimiter within the piece would end with the piece's last octet
    exact hb (List.mem_append_left _ (mem_of_suffix hsuffix hd₁ hlast))

/-- A line end falls apart into a carriage return and a line feed. -/
theorem eq_of_append_eq_crlf {d₁ d₂ : Bytes} (h₁ : d₁ ≠ []) (h₂ : d₂ ≠ []) (h : crlf = d₁ ++ d₂) :
    d₁ = [13] ∧ d₂ = [10] := by
  have hlength := congrArg List.length h
  have hpos₁ := List.length_pos_iff.mpr h₁
  have hpos₂ := List.length_pos_iff.mpr h₂
  rw [List.length_append, crlf, List.length_cons, List.length_singleton] at hlength
  have hone : d₁.length = [(13 : UInt8)].length := by
    rw [List.length_singleton]
    omega
  exact List.append_inj h.symm hone

/-- The line end behind a line that holds none is the first one. -/
theorem firstAt_crlf (h : ¬ crlf <:+: line) : FirstAt crlf (line ++ crlf) line.length := by
  refine firstAt_of_not_isInfix fun hin => ?_
  rcases List.infix_append_iff_ne_nil.mp hin with hin | hin | ⟨d₁, d₂, hd₁, hd₂, heq, -, hpre⟩
  · exact h hin
  · exact absurd hin.length_le (by decide)
  · -- what is left of a line end is its line feed, and that begins none
    obtain ⟨-, rfl⟩ := eq_of_append_eq_crlf hd₁ hd₂ heq
    exact absurd hpre (by decide)

theorem firstClosed_crlf (h : ∀ line ∈ lines, ¬ crlf <:+: line) : FirstClosed crlf lines :=
  fun line hmem => firstAt_crlf (h line hmem)

/-! ### The blank line -/

/-- A blank line is two line ends. -/
theorem Occurs.line_ends {j : Nat} (h : Occurs headEnd data j) :
    Occurs crlf data j ∧ Occurs crlf data (j + crlf.length) := by
  have hsplit : headEnd = crlf ++ crlf := rfl
  rw [hsplit] at h
  exact h.parts

/-- No blank line begins within a line. -/
theorem not_occurs_headEnd_of_lt (h : FirstAt crlf (line ++ crlf) line.length) {j : Nat}
    (hj : j < line.length) (rest : Bytes) : ¬ Occurs headEnd (line ++ crlf ++ rest) j := by
  intro hocc
  obtain ⟨hhere, -⟩ := hocc.line_ends
  refine h.least j hj (hhere.of_append ?_)
  rw [List.length_append]
  exact Nat.add_le_add_right hj.le 2

/-- No blank line begins in a line or its line end unless an empty line follows. -/
theorem not_occurs_headEnd (h : FirstAt crlf (line ++ crlf) line.length)
    (hrest : ¬ crlf <+: rest) :
    ∀ j < (line ++ crlf).length, ¬ Occurs headEnd (line ++ crlf ++ rest) j := by
  intro j hj hocc
  have hlen : (line ++ crlf).length = line.length + 2 := List.length_append
  rcases Nat.lt_trichotomy j line.length with hlt | rfl | hgt
  · exact not_occurs_headEnd_of_lt h hlt rest hocc
  · obtain ⟨-, hnext⟩ := hocc.line_ends
    rw [← List.length_append] at hnext
    exact hrest (occurs_zero_iff.mp (occurs_append_right_iff.mp hnext))
  · obtain ⟨hhere, -⟩ := hocc.line_ends
    have hmiddle : j = line.length + 1 := by omega
    rw [hmiddle, List.append_assoc] at hhere
    exact absurd (occurs_append_right_iff.mp hhere) (by simp [Occurs, crlf])

/-- **The blank line behind header lines is the first one** when no line but the first is
empty. -/
theorem firstAt_headEnd (hfirst : FirstClosed crlf (line :: lines))
    (hne : ∀ line ∈ lines, line ≠ []) :
    FirstAt headEnd (closed crlf (line :: lines) ++ crlf)
      ((closed crlf (line :: lines)).length - 2) := by
  induction lines generalizing line with
  | nil =>
    obtain ⟨hline, -⟩ := firstClosed_cons_iff.mp hfirst
    have hdata : closed crlf [line] ++ crlf = line ++ (headEnd ++ []) := by
      simp [crlf, headEnd]
    have hindex : (closed crlf [line]).length - 2 = line.length := by simp [crlf]
    rw [hindex]
    constructor
    · rw [hdata]
      exact occurs_length_append
    · intro j hj
      have hnone := not_occurs_headEnd_of_lt hline hj crlf
      rwa [closed_cons, closed_nil, List.append_nil]
  | cons next lines ih =>
    obtain ⟨hline, hlines⟩ := firstClosed_cons_iff.mp hfirst
    obtain ⟨hnext, hnonempty⟩ := List.forall_mem_cons.mp hne
    have hrest := ih hlines hnonempty
    -- the next line is not empty, so its line end is not what follows
    have hnot : ¬ crlf <+: closed crlf (next :: lines) ++ crlf := by
      intro hpre
      have hfirst' := (firstClosed_cons_iff.mp hlines).1.append (by simp [crlf])
        (closed crlf lines ++ crlf)
      refine hfirst'.least 0 (List.length_pos_iff.mpr hnext) (occurs_zero_iff.mpr ?_)
      simpa using hpre
    have hall := hrest.prepend (not_occurs_headEnd hline hnot)
    have hdata : closed crlf (line :: next :: lines) ++ crlf =
        line ++ crlf ++ (closed crlf (next :: lines) ++ crlf) := by
      rw [closed_cons crlf line]
      simp only [List.append_assoc]
    have hindex : (closed crlf (line :: next :: lines)).length - 2 =
        (line ++ crlf).length + ((closed crlf (next :: lines)).length - 2) := by
      rw [closed_cons crlf line]
      simp only [closed_cons, List.length_append, crlf, List.length_cons, List.length_nil]
      omega
    rwa [hdata, hindex]

/-! ### Header lines -/

/-- A line end that the parts of a line do not hold does not come about between them if the first
part does not end with a carriage return or the second does not begin with a line feed. -/
theorem not_crlf_infix_append {after : Bytes} (hline : ¬ crlf <:+: line)
    (hafter : ¬ crlf <:+: after) (h : line.getLast? ≠ some 13 ∨ after.head? ≠ some 10) :
    ¬ crlf <:+: line ++ after := by
  intro hin
  rcases List.infix_append_iff_ne_nil.mp hin with hin | hin | ⟨d₁, d₂, hd₁, hd₂, heq, hsuffix, hpre⟩
  · exact hline hin
  · exact hafter hin
  · obtain ⟨rfl, rfl⟩ := eq_of_append_eq_crlf hd₁ hd₂ heq
    obtain ⟨before, rfl⟩ := hsuffix
    obtain ⟨behind, rfl⟩ := hpre
    rcases h with h | h
    · exact h (by simp)
    · exact h rfl

/-- Header lines, each behind a line end. -/
def headOfLines (lines : List Bytes) : Bytes := lines.flatMap (crlf ++ ·)

theorem headOfLines_append_crlf (lines : List Bytes) :
    headOfLines lines ++ crlf = closed crlf ([] :: lines) := by
  rw [closed_cons, List.nil_append]
  induction lines with
  | nil => rfl
  | cons line lines ih =>
    rw [closed_cons, ← ih, headOfLines, headOfLines, List.flatMap_cons]
    simp only [List.append_assoc]

/-- A line of a head: it is not empty and holds no line end. -/
structure IsLine (line : Bytes) : Prop where
  ne_nil : line ≠ []
  oneLine : ¬ crlf <:+: line

theorem firstClosed_nil_cons (h : ∀ line ∈ lines, IsLine line) :
    FirstClosed crlf ([] :: lines) := by
  refine firstClosed_crlf (List.forall_mem_cons.mpr ⟨by decide, fun line hmem => ?_⟩)
  exact (h line hmem).oneLine

/-- The blank line behind header lines is the first one. -/
theorem firstAt_headOfLines (h : ∀ line ∈ lines, IsLine line) (rest : Bytes) :
    FirstAt headEnd (headOfLines lines ++ (headEnd ++ rest)) (headOfLines lines).length := by
  have hfirst := firstAt_headEnd (firstClosed_nil_cons h) fun line hmem => (h line hmem).ne_nil
  have hdata : headOfLines lines ++ (headEnd ++ rest) =
      closed crlf ([] :: lines) ++ crlf ++ rest := by
    rw [← headOfLines_append_crlf]
    simp [headEnd, crlf]
  have hindex : (closed crlf ([] :: lines)).length - 2 = (headOfLines lines).length := by
    rw [← headOfLines_append_crlf, List.length_append]
    exact Nat.add_sub_cancel _ _
  rw [hdata, ← hindex]
  exact hfirst.append (by decide) rest

/-- Header lines are split into themselves, behind an empty piece. -/
theorem split_headOfLines (h : ∀ line ∈ lines, IsLine line) (hne : lines ≠ []) :
    split (headOfLines lines) crlf none = [] :: lines := by
  rcases List.eq_nil_or_concat lines with rfl | ⟨before, last, rfl⟩
  · exact absurd rfl hne
  · rw [List.concat_eq_append] at h ⊢
    obtain ⟨hbefore, hlast⟩ := List.forall_mem_append.mp h
    obtain ⟨hnil, honeLine⟩ := hlast last List.mem_cons_self
    have hhead : headOfLines (before ++ [last]) = closed crlf ([] :: before) ++ last := by
      rw [← headOfLines_append_crlf, headOfLines, headOfLines, List.flatMap_append]
      simp
    have hcut : IsCut crlf (headOfLines (before ++ [last])) ([] :: before) last :=
      ⟨hhead, firstClosed_nil_cons hbefore, fun i hocc =>
        honeLine (infix_iff_exists_occurs.mpr ⟨i, hocc⟩)⟩
    rw [split_of_isCut hcut (by decide), unlessEmpty, if_neg hnil]
    rfl

end Mjpeg.Bytes

namespace Mjpeg.Part

open Bytes

variable {contentType name value : String} {segment head body payload ending : Bytes}
  {lines : List Bytes} {frame : Frame}

/-! ### The layout -/

/-- A byte string either ends with the suffix that is taken off it, or does not end so at all. -/
theorem dropSuffix_eq_iff {bs suffix : Bytes} :
    bs.dropSuffix suffix = payload ↔
      bs = payload ++ suffix ∨ bs = payload ∧ ¬ suffix <:+ payload := by
  rw [Bytes.dropSuffix]
  by_cases h : suffix <:+ bs
  · obtain ⟨before, rfl⟩ := h
    rw [if_pos (List.isSuffixOf_iff_suffix.mpr (List.suffix_append _ _)), List.length_append,
      Nat.add_sub_cancel, List.take_left, List.append_left_inj]
    refine (or_iff_left ?_).symm
    rintro ⟨rfl, hnot⟩
    exact hnot (List.suffix_append _ _)
  · rw [if_neg fun hsuffix => h (List.isSuffixOf_iff_suffix.mp hsuffix), or_iff_right]
    · exact ⟨fun heq => ⟨heq, heq ▸ h⟩, And.left⟩
    · rintro rfl
      exact h (List.suffix_append _ _)

@[simp] theorem dropSuffix_append (payload suffix : Bytes) :
    (payload ++ suffix).dropSuffix suffix = payload :=
  dropSuffix_eq_iff.mpr (Or.inl rfl)

/-- A segment without a blank line carries no frame. -/
theorem ofSegment?_eq_none (h : ¬ headEnd <:+: segment) : ofSegment? segment = none := by
  have hnone : ∀ i, ¬ Occurs headEnd segment i :=
    fun i hocc => h (infix_iff_exists_occurs.mpr ⟨i, hocc⟩)
  rw [ofSegment?, split_of_forall_not_occurs hnone (by decide), unlessEmpty]
  cases segment <;> rfl

/-- What a segment carries is decided by what stands before its first blank line and behind. -/
theorem ofSegment?_append (h : FirstAt headEnd (head ++ (headEnd ++ body)) head.length) :
    ofSegment? (head ++ (headEnd ++ body)) =
      if (body.dropSuffix crlf).isEmpty then none
      else some ⟨headersOfHead head, body.dropSuffix crlf⟩ := by
  have hdrop : (head ++ (headEnd ++ body)).drop (head.length + headEnd.length) = body := by
    rw [← List.drop_drop, List.drop_left, List.drop_left]
  rw [ofSegment?, split_one_of_firstAt h (by decide), List.take_left, hdrop, unlessEmpty]
  by_cases hbody : body = []
  · subst hbody
    rfl
  · rw [if_neg hbody]

/-- The segment is a head, the first blank line, a payload, and the line end that belongs to the
delimiter behind it unless that is missing. -/
structure IsLaidOut (segment head payload ending : Bytes) : Prop where
  joined : segment = head ++ (headEnd ++ (payload ++ ending))
  first : FirstAt headEnd segment head.length
  payload_ne_nil : payload ≠ []
  ending : ending = crlf ∨ ending = [] ∧ ¬ crlf <:+ payload

/-- **A segment carries a frame exactly when it is laid out as a part.** -/
theorem ofSegment?_eq_some_iff :
    ofSegment? segment = some frame ↔
      ∃ head ending, IsLaidOut segment head frame.payload ending ∧
        frame.headers = headersOfHead head := by
  constructor
  · intro h
    have hin : headEnd <:+: segment := by
      by_contra hnot
      exact absurd (h.symm.trans (ofSegment?_eq_none hnot)) (by simp)
    obtain ⟨head, body, rfl, hfirst⟩ := exists_append_of_infix hin (by decide)
    rw [ofSegment?_append hfirst] at h
    split at h
    · exact absurd h (by simp)
    · rename_i hpayload
      obtain rfl := Option.some.inj h
      have hne : body.dropSuffix crlf ≠ [] := by simpa using hpayload
      rcases dropSuffix_eq_iff.mp (rfl : body.dropSuffix crlf = _) with hbody | ⟨hbody, hnot⟩
      · exact ⟨head, crlf, ⟨by rw [← hbody], hfirst, hne, Or.inl rfl⟩, rfl⟩
      · refine ⟨head, [], ⟨?_, hfirst, hne, Or.inr ⟨rfl, hnot⟩⟩, rfl⟩
        rw [List.append_nil, ← hbody]
  · rintro ⟨head, ending, ⟨rfl, hfirst, hne, hending⟩, hheaders⟩
    have hpayload : (frame.payload ++ ending).dropSuffix crlf = frame.payload := by
      refine dropSuffix_eq_iff.mpr (hending.imp (congrArg _) ?_)
      rintro ⟨rfl, hnot⟩
      exact ⟨List.append_nil _, hnot⟩
    rw [ofSegment?_append hfirst, hpayload, if_neg (by simpa using hne), ← hheaders]

/-- **A segment carries no frame exactly when it has no blank line, or nothing but a line end
behind the first one.** -/
theorem ofSegment?_eq_none_iff :
    ofSegment? segment = none ↔
      ¬ headEnd <:+: segment ∨
        ∃ head body, segment = head ++ (headEnd ++ body) ∧ FirstAt headEnd segment head.length ∧
          (body = [] ∨ body = crlf) := by
  have hempty : ∀ {body : Bytes}, (body.dropSuffix crlf).isEmpty = true ↔ body = [] ∨ body = crlf :=
    fun {body} => by
      have hnot : ¬ crlf <:+ [] := by decide
      rw [List.isEmpty_iff, dropSuffix_eq_iff, List.nil_append, and_iff_left hnot, or_comm]
  constructor
  · intro h
    refine or_iff_not_imp_left.mpr fun hin => ?_
    obtain ⟨head, body, rfl, hfirst⟩ := exists_append_of_infix (not_not.mp hin) (by decide)
    refine ⟨head, body, rfl, hfirst, hempty.mp ?_⟩
    rw [ofSegment?_append hfirst] at h
    by_contra hbody
    exact absurd h (by rw [if_neg hbody]; simp)
  · rintro (hnot | ⟨head, body, rfl, hfirst, hbody⟩)
    · exact ofSegment?_eq_none hnot
    · rw [ofSegment?_append hfirst, if_pos (hempty.mpr hbody)]

/-! ### Header lines -/

theorem headerOfLine?_nil : headerOfLine? [] = none := by
  have hdecode : Text.decode? [] = some [] := Text.decode?_flatMap []
  rw [headerOfLine?, hdecode]
  rfl

/-- The headers of a head that was made of lines are those of the lines. -/
theorem headersOfHead_headOfLines (h : ∀ line ∈ lines, IsLine line) :
    headersOfHead (headOfLines lines) = lines.filterMap headerOfLine? := by
  by_cases hne : lines = []
  · subst hne
    rfl
  · rw [headersOfHead, split_headOfLines h hne, List.filterMap_cons_none headerOfLine?_nil]

/-- **A part of header lines is read back**: a header for each line that has one, and the payload as
it is. A part without a payload carries no frame. -/
theorem ofSegment?_lines (h : ∀ line ∈ lines, IsLine line) (payload : Bytes) :
    ofSegment? (headOfLines lines ++ (headEnd ++ (payload ++ crlf))) =
      if payload.isEmpty then none else some ⟨lines.filterMap headerOfLine?, payload⟩ := by
  rw [ofSegment?_append (firstAt_headOfLines h _), dropSuffix_append, headersOfHead_headOfLines h]

/-- The line that says a header. -/
def headerLine (name value : String) : Bytes := ofText (name ++ ": ") ++ ofText value

/-- A name without a colon and white space is read back, and the value is trimmed. -/
theorem headerOfLine?_headerLine (name value : String) (hcolon : ':' ∉ name.toList)
    (htrim : Text.trim name.toList = name.toList) (hne : name ≠ "") :
    headerOfLine? (headerLine name value) =
      some (name, String.ofList (Text.trim value.toList)) := by
  have hline : (name ++ ": " ++ value).toList = name.toList ++ ':' :: ' ' :: value.toList := by
    simp
  have hempty : name.toList.isEmpty = false := by simpa using hne
  rw [headerLine, ← ofText_append, headerOfLine?, Text.decode?_ofText, hline]
  simp only [Option.bind_eq_bind, Option.bind_some, Text.splitOnce_append hcolon]
  rw [htrim, hempty, Text.trim_cons (by decide), String.ofList_toList]
  rfl

theorem isLine_headerLine (hname : ¬ crlf <:+: ofText name) (hvalue : ¬ crlf <:+: ofText value) :
    IsLine (headerLine name value) := by
  -- a space stands behind the colon, so that no line end reaches across
  have hlast : (ofText (name ++ ": ")).getLast? = some 32 := by
    rw [ofText_append, List.getLast?_append_of_ne_nil _ (by decide)]
    decide
  refine ⟨fun hnil => ?_, not_crlf_infix_append ?_ hvalue (Or.inl ?_)⟩
  · rw [(List.append_eq_nil_iff.mp hnil).1] at hlast
    exact absurd hlast (by simp)
  · rw [ofText_append]
    exact not_crlf_infix_append hname (by decide) (Or.inr (by decide))
  · rw [hlast]
    decide

/-! ### The part -/

/-- The first header line of a written part. -/
def typeLine (contentType : String) : Bytes := ofText "Content-Type: " ++ ofText contentType

/-- The second header line of a written part. -/
def lengthLine (payload : Bytes) : Bytes :=
  ofText "Content-Length: " ++ ofText (toString payload.length)

/-- The headers that a written part is read with. -/
def headersOf (contentType : String) (payload : Bytes) : List (String × String) :=
  [("Content-Type", String.ofList (Text.trim contentType.toList)),
    ("Content-Length", toString payload.length)]

theorem headerOfLine?_typeLine (contentType : String) :
    headerOfLine? (typeLine contentType) =
      some ("Content-Type", String.ofList (Text.trim contentType.toList)) :=
  headerOfLine?_headerLine "Content-Type" contentType (by decide) (by decide) (by decide)

theorem headerOfLine?_lengthLine (payload : Bytes) :
    headerOfLine? (lengthLine payload) = some ("Content-Length", toString payload.length) := by
  have hline := headerOfLine?_headerLine "Content-Length" (toString payload.length) (by decide)
    (by decide) (by decide)
  rwa [Text.trim_toString, String.ofList_toList] at hline

theorem not_crlf_infix_toString (n : Nat) : ¬ crlf <:+: ofText (toString n) := by
  intro hin
  have hdigit := digit_of_mem_ofText_toString (b := 13) (hin.subset (by decide))
  exact absurd hdigit.1 (by decide)

theorem isLine_of_mem_lines (h : ¬ crlf <:+: ofText contentType) (payload : Bytes) :
    ∀ line ∈ [typeLine contentType, lengthLine payload], IsLine line := by
  refine List.forall_mem_cons.mpr ⟨?_, List.forall_mem_singleton.mpr ?_⟩
  · have hname : ¬ crlf <:+: ofText "Content-Type" := by decide
    exact isLine_headerLine hname h
  · have hname : ¬ crlf <:+: ofText "Content-Length" := by decide
    exact isLine_headerLine hname (not_crlf_infix_toString _)

/-- A written part is its header lines, the blank line, and the payload with a line end. -/
theorem encode_eq (contentType : String) (payload : Bytes) :
    encode contentType payload =
      headOfLines [typeLine contentType, lengthLine payload] ++
        (headEnd ++ (payload ++ crlf)) := by
  simp [encode, headOfLines, typeLine, lengthLine]

/-- **A written part is read back**: the payload as it is, and the headers with the content type
trimmed. A part without a payload carries no frame. -/
theorem ofSegment?_encode (h : ¬ crlf <:+: ofText contentType) (payload : Bytes) :
    ofSegment? (encode contentType payload) =
      if payload.isEmpty then none else some ⟨headersOf contentType payload, payload⟩ := by
  rw [encode_eq, ofSegment?_lines (isLine_of_mem_lines h payload)]
  simp [headerOfLine?_typeLine, headerOfLine?_lengthLine, headersOf]

/-- A written part is not blank. -/
theorem isBlank_encode (contentType : String) (payload : Bytes) :
    isBlank (encode contentType payload) = false := by
  have hname : isBlank (ofText "Content-Type: ") = false := by decide
  rw [isBlank] at hname ⊢
  rw [encode, List.all_append, List.all_append, hname, Bool.false_and, Bool.and_false]

/-- The written parts that are malformed to a reader are those without a payload. -/
theorem isMalformed_encode (h : ¬ crlf <:+: ofText contentType) (payload : Bytes) :
    Body.isMalformed (encode contentType payload) = payload.isEmpty := by
  rw [Body.isMalformed, ofSegment?_encode h, isBlank_encode]
  cases payload.isEmpty <;> rfl

/-- A delimiter without line ends that does not occur in a written part is met first behind
it. -/
theorem firstAt_encode (b : Boundary) (hlf : 10 ∉ b.token) {payload : Bytes}
    (h : ¬ b.delimiter <:+: encode contentType payload) :
    FirstAt b.delimiter (encode contentType payload ++ b.delimiter)
      (encode contentType payload).length := by
  have hlast : (encode contentType payload).getLast? = some 10 := by
    simp [encode_eq, crlf]
  refine firstAt_of_getLast? h hlast ?_
  simpa [Boundary.delimiter] using hlf

end Mjpeg.Part
