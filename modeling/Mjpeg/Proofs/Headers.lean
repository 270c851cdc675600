import Mjpeg.Proofs.RoundTrip

/-!
# Headers that were read

Whatever bytes a segment holds, the value of a header that is read from it has no white space at
its ends and no line end in it (`Part.isValue_of_ofSegment?`): lines are cut at the line ends, a
line counts only if it is the encoding of a text, and the value is trimmed. A line end within a
value would take both its octets next to each other; a carriage return or a line feed alone may
stand there. A name is such a text too, not empty and without a colon.

Headers of that form are written and read back unchanged. So a segment from which a frame was read
has a normal form, `Part.ofFrame`, from which the same frame is read (`Part.ofSegment?_normal`). And
a frame that was read can be written again by a writer, with its content type alone: the part it is
written as (`Frame.part`) is one that a reader makes a frame of (`Frame.resent`), and that frame is
written as the same part (`Frame.part_resent`).
-/

namespace Mjpeg

open Bytes

namespace Bytes

variable {d data piece rest line : Bytes} {pieces : List Bytes}

/-- Nothing that stands before the first delimiter holds one. -/
theorem FirstAt.not_isInfix (h : FirstAt d (piece ++ d) piece.length) (hne : d ≠ []) :
    ¬ d <:+: piece := by
  intro hin
  obtain ⟨j, hocc⟩ := infix_iff_exists_occurs.mp hin
  have hle := hocc.le_length hne
  have hpos := List.length_pos_iff.mpr hne
  exact h.least j (by omega) (hocc.append d)

/-- The pieces that a byte string is split into hold no delimiter. -/
theorem not_infix_of_mem_split (hne : d ≠ []) (h : piece ∈ split data d none) : ¬ d <:+: piece := by
  have hcut := Splits.isCut_toPieces data hne
  have hpieces : piece ∈ (Splits.start data d none).toPieces.1 ++
      [(Splits.start data d none).toPieces.2.rest] := by
    rw [split_of_isCut hcut hne, unlessEmpty] at h
    split at h
    · rw [List.append_nil] at h
      exact List.mem_append_left _ h
    · exact h
  rcases List.mem_append.mp hpieces with hmem | hmem
  · exact (hcut.first piece hmem).not_isInfix hne
  · obtain rfl := List.mem_singleton.mp hmem
    rw [infix_iff_exists_occurs]
    rintro ⟨i, hocc⟩
    exact hcut.last i hocc

end Bytes

namespace Part

/-- A text that a header can have as its value. -/
structure IsValue (value : String) : Prop where
  /-- No white space stands at its ends. -/
  trimmed : Text.trim value.toList = value.toList
  oneLine : ¬ crlf <:+: ofText value

/-- A text that a header can have as its name. -/
structure IsName (name : String) : Prop extends IsValue name where
  ne_empty : name ≠ ""
  no_colon : ':' ∉ name.toList

variable {segment line : Bytes} {name value : String} {frame : Frame}

/-- A header line is a text with a colon. The name is what stands before the first one and the value
what stands behind it, both trimmed. -/
theorem exists_of_headerOfLine? (h : headerOfLine? line = some (name, value)) :
    ∃ before behind : List Char, line = (before ++ ':' :: behind).flatMap String.utf8EncodeChar ∧
      ':' ∉ before ∧ Text.trim before ≠ [] ∧ name = String.ofList (Text.trim before) ∧
      value = String.ofList (Text.trim behind) := by
  simp only [headerOfLine?, Option.bind_eq_bind, Option.bind_eq_some_iff] at h
  obtain ⟨text, htext, ⟨before, behind⟩, hsplit, hheader⟩ := h
  split at hheader
  · exact absurd hheader (by simp)
  · rename_i hname
    obtain ⟨rfl, rfl⟩ := Prod.mk.inj (Option.some.inj hheader)
    refine ⟨before, behind, ?_, Text.not_mem_of_splitOnce hsplit, by simpa using hname, rfl, rfl⟩
    rw [← Text.eq_of_splitOnce hsplit]
    exact Text.decode?_eq_some_iff.mp htext

/-- A trimmed part of a line is a value. -/
theorem isValue_trim (left right : List Char) {cs : List Char}
    (h : ¬ crlf <:+: (left ++ (cs ++ right)).flatMap String.utf8EncodeChar) :
    IsValue (String.ofList (Text.trim cs)) := by
  obtain ⟨front, back, hcs, -⟩ := Text.exists_append_trim cs
  refine ⟨by rw [String.toList_ofList, Text.trim_trim], fun hin => h (hin.trans ?_)⟩
  refine ⟨(left ++ front).flatMap String.utf8EncodeChar,
    (back ++ right).flatMap String.utf8EncodeChar, ?_⟩
  rw [ofText, String.toList_ofList, ← List.flatMap_append, ← List.flatMap_append]
  conv_rhs => rw [hcs]
  simp only [List.append_assoc]

/-- The name and the value of a header stand in its line. -/
theorem isName_of_headerOfLine? (h : headerOfLine? line = some (name, value))
    (hline : ¬ crlf <:+: line) : IsName name ∧ IsValue value := by
  obtain ⟨before, behind, rfl, hcolon, hne, rfl, rfl⟩ := exists_of_headerOfLine? h
  have hname : IsValue (String.ofList (Text.trim before)) := isValue_trim [] _ hline
  have hvalue : IsValue (String.ofList (Text.trim behind)) := by
    refine isValue_trim (before ++ [':']) [] ?_
    rwa [List.append_nil, List.append_assoc, List.singleton_append]
  refine ⟨⟨hname, fun hempty => hne ?_, fun hmem => hcolon ?_⟩, hvalue⟩
  · rw [← String.toList_ofList (l := Text.trim before), hempty]
    rfl
  · obtain ⟨front, back, hbefore, -⟩ := Text.exists_append_trim before
    rw [String.toList_ofList] at hmem
    rw [hbefore]
    exact List.mem_append_right _ (List.mem_append_left _ hmem)

/-- The headers of a head are read from lines without line ends. -/
theorem isName_of_mem_headersOfHead {head : Bytes} :
    ∀ header ∈ headersOfHead head, IsName header.1 ∧ IsValue header.2 := by
  rintro ⟨name, value⟩ hmem
  obtain ⟨line, hline, hheader⟩ := List.mem_filterMap.mp hmem
  exact isName_of_headerOfLine? hheader (not_infix_of_mem_split (by decide) hline)

/-- A frame has a payload. -/
theorem payload_ne_nil_of_ofSegment? (h : ofSegment? segment = some frame) :
    frame.payload ≠ [] := by
  obtain ⟨head, ending, hlaid, -⟩ := ofSegment?_eq_some_iff.mp h
  exact hlaid.payload_ne_nil

/-- **The headers of a frame have names and values of their form.** -/
theorem isName_of_ofSegment? (h : ofSegment? segment = some frame) :
    ∀ header ∈ frame.headers, IsName header.1 ∧ IsValue header.2 := by
  obtain ⟨head, ending, -, hheaders⟩ := ofSegment?_eq_some_iff.mp h
  rw [hheaders]
  exact isName_of_mem_headersOfHead

/-- **The headers of a frame have values without white space at their ends and without line
ends.** -/
theorem isValue_of_ofSegment? (h : ofSegment? segment = some frame) :
    ∀ header ∈ frame.headers, IsValue header.2 :=
  fun header hmem => (isName_of_ofSegment? h header hmem).2

/-! ### Normal form -/

/-- A segment that carries a frame: a line for each of its headers, the payload, and a line end. -/
def ofFrame (f : Frame) : Bytes :=
  headOfLines (f.headers.map fun (name, value) => headerLine name value) ++
    (headEnd ++ (f.payload ++ crlf))

/-- A header is read back from its line. -/
theorem headerOfLine?_of_isName (hname : IsName name) (hvalue : IsValue value) :
    headerOfLine? (headerLine name value) = some (name, value) := by
  rw [headerOfLine?_headerLine _ _ hname.no_colon hname.trimmed hname.ne_empty, hvalue.trimmed,
    String.ofList_toList]

/-- **A frame with headers of that form is read back.** -/
theorem ofSegment?_ofFrame (hheaders : ∀ header ∈ frame.headers, IsName header.1 ∧ IsValue header.2)
    (hpayload : frame.payload ≠ []) : ofSegment? (ofFrame frame) = some frame := by
  have hlines : ∀ line ∈ frame.headers.map fun (name, value) => headerLine name value,
      IsLine line := by
    intro line hmem
    obtain ⟨header, hheader, rfl⟩ := List.mem_map.mp hmem
    obtain ⟨hname, hvalue⟩ := hheaders header hheader
    exact isLine_headerLine hname.oneLine hvalue.oneLine
  have hread : (frame.headers.map fun (name, value) => headerLine name value).filterMap
      headerOfLine? = frame.headers := by
    rw [List.filterMap_map]
    conv_rhs => rw [← List.filterMap_some (l := frame.headers)]
    exact List.filterMap_congr fun header hheader =>
      headerOfLine?_of_isName (hheaders header hheader).1 (hheaders header hheader).2
  rw [ofFrame, ofSegment?_lines hlines, if_neg (by simpa using hpayload), hread]

/-- **A part has a normal form.** The headers that are read of a segment have names and values of
their form; the segment is laid out around the payload; and the same frame is read of the normal
form. No frame is read exactly of a segment without a blank line, or with nothing but a line end
behind the first one. -/
theorem ofSegment?_normal (segment : Bytes) :
    (∀ frame, ofSegment? segment = some frame →
      (∀ header ∈ frame.headers, IsName header.1 ∧ IsValue header.2) ∧
      (∃ head ending, IsLaidOut segment head frame.payload ending) ∧
      ofSegment? (ofFrame frame) = some frame) ∧
    (ofSegment? segment = none ↔
      ¬ headEnd <:+: segment ∨
        ∃ head body, segment = head ++ (headEnd ++ body) ∧ FirstAt headEnd segment head.length ∧
          (body = [] ∨ body = crlf)) := by
  refine ⟨fun frame h => ?_, ofSegment?_eq_none_iff⟩
  obtain ⟨head, ending, hlaid, -⟩ := ofSegment?_eq_some_iff.mp h
  have hheaders := isName_of_ofSegment? h
  exact ⟨hheaders, ⟨head, ending, hlaid⟩, ofSegment?_ofFrame hheaders hlaid.payload_ne_nil⟩

/-- A colon and a carriage return in a value, a line that is no text, one without a colon, an empty
value, and line ends around the payload; and a blank line with a line end behind it. -/
theorem ofSegment?_normal_stray :
    let segment := ofText "A\u3000: b:c\rd\r\n" ++ 255 ::
      ofText ": e\r\nnone\r\nF:\r\n\r\n\r\nP\r\n\r\n"
    let frame : Frame := ⟨[("A", "b:c\rd"), ("F", "")], ofText "\r\nP\r\n"⟩
    ofSegment? segment = some frame ∧
      (∃ head ending, IsLaidOut segment head frame.payload ending) ∧
      ofFrame frame = ofText "\r\nA: b:c\rd\r\nF: \r\n\r\n\r\nP\r\n\r\n" ∧
      ofSegment? (ofFrame frame) = some frame ∧
      ofSegment? (headEnd ++ crlf) = none := by
  intro segment frame
  have hread : ofSegment? segment = some frame := by decide +kernel
  obtain ⟨-, hlaid, hnormal⟩ := (ofSegment?_normal segment).1 frame hread
  refine ⟨hread, hlaid, by decide +kernel, hnormal, ?_⟩
  refine (ofSegment?_normal (headEnd ++ crlf)).2.mpr (Or.inr ⟨[], crlf, rfl, ?_, Or.inr rfl⟩)
  exact (find_eq_some_iff (by decide)).mp (by decide)

/-- A value is read back as it was written. -/
theorem headersOf_of_isValue (h : IsValue value) (payload : Bytes) :
    headersOf value payload =
      [("Content-Type", value), ("Content-Length", toString payload.length)] := by
  rw [headersOf, h.trimmed, String.ofList_toList]

end Part

/-! ### Writing a frame again -/

namespace Frame

variable {f : Frame}

/-- What a frame is written as: its content type, or that of a JPEG image when it has none, and its
payload. -/
def part (f : Frame) : String × Bytes := (f.contentType?.getD "image/jpeg", f.payload)

/-- The frame that is read of the part that a frame is written as. -/
def resent (f : Frame) : Frame := ⟨Part.headersOf f.part.1 f.payload, f.payload⟩

/-- A frame as it is read from a body. -/
structure Received (f : Frame) : Prop where
  payload : f.payload ≠ []
  headers : ∀ header ∈ f.headers, Part.IsValue header.2

/-- **The frames of a body.** -/
theorem received_of_mem_frames {b : Boundary} {body : Bytes} (h : f ∈ Body.frames b body) :
    f.Received := by
  obtain ⟨segment, -, hsegment⟩ := List.mem_filterMap.mp h
  exact ⟨Part.payload_ne_nil_of_ofSegment? hsegment, Part.isValue_of_ofSegment? hsegment⟩

/-- The value of a header is that of one of the headers. -/
theorem exists_of_header? {name value : String} (h : f.header? name = some value) :
    ∃ header ∈ f.headers, header.2 = value := by
  obtain ⟨header, hfind, hvalue⟩ := Option.map_eq_some_iff.mp h
  exact ⟨header, List.mem_of_find?_eq_some hfind, hvalue⟩

/-- A frame that was read is written under a content type that can be read back. -/
theorem Received.isValue_part (h : f.Received) : Part.IsValue f.part.1 := by
  rw [part]
  cases htype : f.contentType? with
  | none =>
    have hjpeg : Part.IsValue "image/jpeg" := ⟨by decide, by decide⟩
    exact hjpeg
  | some value =>
    obtain ⟨header, hmem, rfl⟩ := exists_of_header? htype
    exact h.headers header hmem

/-- A frame is read of the part that a received frame is written as. -/
theorem Received.frameOf?_part (h : f.Received) : Writer.frameOf? f.part = some f.resent := by
  have hpayload : f.payload.isEmpty = false := by simpa using h.payload
  simp only [part, Writer.frameOf?, hpayload, Bool.false_eq_true, if_false]
  rfl

/-- The frame that is read again has the content type that was written. -/
theorem Received.contentType?_resent (h : f.Received) :
    f.resent.contentType? = some f.part.1 := by
  have hname : Text.eqIgnoringCase "Content-Type".toList "content-type".toList = true := by decide
  rw [contentType?, header?, resent, Part.headersOf_of_isValue h.isValue_part]
  simp only [List.find?_cons, hname, Option.map_some]

/-- **A frame that was read and written is written again as the same part.** -/
theorem Received.part_resent (h : f.Received) : f.resent.part = f.part := by
  rw [part, h.contentType?_resent]
  rfl

end Frame

end Mjpeg
