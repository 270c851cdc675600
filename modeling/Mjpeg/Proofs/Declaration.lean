import Mjpeg.Proofs.Announcement

/-!
# Reading a declared boundary

A content type that was written elsewhere declares a boundary in the first of its parameters named
`boundary`, in whatever letter case and with white space around the name. `Opening` is such a
content type up to the value of that parameter: a media type, other parameters, and the name. What
stands between double quotes in the other parameters is of no account.

An opening is cut where it was put together (`parameters_flatMap`), so the value behind it is the
one that is read, up to the next semicolon and trimmed (`Opening.boundaryValue?_eq`). A value in
double quotes declares what stands between them, with semicolons and white space kept; a bare value
declares itself; and an empty value declares nothing, whatever follows (`declared_token`).
-/

namespace Mjpeg.Boundary

variable {cs value tail front back token : List Char} {pieces : List (List Char)}

/-! ### Pieces that a semicolon may follow -/

/-- Every semicolon of the text stands within double quotes, and each of these is closed. -/
structure IsClosed (cs : List Char) : Prop where
  onePiece : IsOnePiece false cs
  balanced : openBehind false cs = false

theorem isClosed_of_not_mem (hsemicolon : ';' ∉ cs) (hquote : '"' ∉ cs) : IsClosed cs :=
  ⟨isOnePiece_of_not_mem hsemicolon false, openBehind_of_not_mem hquote false⟩

theorem IsClosed.append (h : IsClosed cs) (h' : IsClosed value) : IsClosed (cs ++ value) where
  onePiece := isOnePiece_append_iff.mpr ⟨h.onePiece, h.balanced.symm ▸ h'.onePiece⟩
  balanced := by
    have hvalue := h'.balanced
    rw [← h.balanced] at hvalue
    rw [openBehind, List.foldl_append]
    exact hvalue.trans h.balanced

/-- A text without double quotes is closed when it stands between two of them. -/
theorem isClosed_quoted (h : '"' ∉ token) : IsClosed ('"' :: (token ++ ['"'])) where
  onePiece := by
    refine isOnePiece_cons_iff.mpr ⟨by decide, isOnePiece_append_iff.mpr ⟨?_, ?_⟩⟩
    · -- every semicolon of it stands behind the opening quote
      rintro before after rfl
      exact openBehind_of_not_mem (fun hmem => h (List.mem_append_left _ hmem)) true
    · exact isOnePiece_of_not_mem (by decide) _
  balanced := by
    have hopen : openBehind true token = true := openBehind_of_not_mem h true
    rw [openBehind, List.foldl_cons, List.foldl_append, if_pos rfl]
    exact congrArg not hopen

/-- **A text is cut where it was put together**, at the semicolons between closed pieces. -/
theorem parameters_flatMap (h : ∀ piece ∈ pieces, IsClosed piece) (cs : List Char) :
    parameters false (pieces.flatMap (· ++ [';']) ++ cs) = pieces ++ parameters false cs := by
  induction pieces with
  | nil => rfl
  | cons piece pieces ih =>
    obtain ⟨hpiece, hpieces⟩ := List.forall_mem_cons.mp h
    rw [List.flatMap_cons, List.append_assoc, List.append_assoc, List.singleton_append,
      parameters_append_cons hpiece.onePiece hpiece.balanced, ih hpieces]
    rfl

/-! ### What stands before the value -/

/-- A content type up to the value of its first parameter `boundary`. -/
structure Opening where
  mediaType : List Char
  /-- The parameters before the one that counts. -/
  others : List (List Char)
  key : List Char
  mediaType_plain : ';' ∉ mediaType ∧ '"' ∉ mediaType
  others_closed : ∀ piece ∈ others, IsClosed piece
  others_named : ∀ piece ∈ others, ∀ name rest,
    piece = name ++ '=' :: rest → '=' ∉ name → ¬Text.Spells name "boundary".toList
  key_spells : Text.Spells key "boundary".toList

namespace Opening

/-- The text of an opening. -/
def text (o : Opening) : List Char :=
  (o.mediaType :: o.others).flatMap (· ++ [';']) ++ (o.key ++ ['='])

theorem pieces_closed (o : Opening) : ∀ piece ∈ o.mediaType :: o.others, IsClosed piece :=
  List.forall_mem_cons.mpr
    ⟨isClosed_of_not_mem o.mediaType_plain.1 o.mediaType_plain.2, o.others_closed⟩

theorem key_closed (o : Opening) : IsClosed o.key :=
  isClosed_of_not_mem (o.key_spells.not_mem (by decide) (by decide))
    (o.key_spells.not_mem (by decide) (by decide))

/-- The value behind an opening is all of its piece. -/
theorem parameters_eq (o : Opening) (hvalue : IsClosed value)
    (htail : tail = [] ∨ ∃ rest, tail = ';' :: rest) :
    ∃ later, parameters false (o.text ++ (value ++ tail)) =
      o.mediaType :: (o.others ++ (o.key ++ '=' :: value) :: later) := by
  have hequals : IsClosed ['='] := isClosed_of_not_mem (by decide) (by decide)
  have hpiece : IsClosed (o.key ++ '=' :: value) := o.key_closed.append (hequals.append hvalue)
  have htext : o.text ++ (value ++ tail) =
      (o.mediaType :: o.others).flatMap (· ++ [';']) ++ ((o.key ++ '=' :: value) ++ tail) := by
    simp [text]
  rw [htext, parameters_flatMap o.pieces_closed]
  rcases htail with rfl | ⟨rest, rfl⟩
  · refine ⟨[], ?_⟩
    rw [parameters_append hpiece.onePiece]
    simp [parameters]
  · refine ⟨parameters false rest, ?_⟩
    rw [parameters_append_cons hpiece.onePiece hpiece.balanced]
    rfl

/-- No parameter before the one that counts has its name. -/
theorem find?_others (o : Opening) :
    (o.others.filterMap (Text.splitOnce '=')).find?
      (fun (name, _) => Text.eqIgnoringCase (Text.trim name) "boundary".toList) = none := by
  rw [List.find?_eq_none]
  rintro ⟨name, rest⟩ hmem hname
  obtain ⟨piece, hpiece, hsplit⟩ := List.mem_filterMap.mp hmem
  refine o.others_named piece hpiece name rest (Text.eq_of_splitOnce hsplit)
    (Text.not_mem_of_splitOnce hsplit) ?_
  exact (Text.spells_iff isWhiteSpace_of_mem_name).mpr hname

/-- **The value behind an opening is the one that is read**, trimmed. -/
theorem boundaryValue?_eq (o : Opening) (hvalue : IsClosed value)
    (htail : tail = [] ∨ ∃ rest, tail = ';' :: rest) :
    boundaryValue? (o.text ++ (value ++ tail)) = some (Text.trim value) := by
  obtain ⟨later, hpieces⟩ := o.parameters_eq hvalue htail
  have hkey : '=' ∉ o.key := o.key_spells.not_mem (by decide) (by decide)
  have hname : Text.eqIgnoringCase (Text.trim o.key) "boundary".toList = true :=
    (Text.spells_iff isWhiteSpace_of_mem_name).mp o.key_spells
  rw [boundaryValue?, hpieces, List.tail_cons, List.filterMap_append, List.find?_append,
    o.find?_others, Option.none_or, List.filterMap_cons_some (Text.splitOnce_append hkey value)]
  simp only [List.find?_cons_of_pos, hname, Option.map_some]

/-- White space around the value does not count. -/
theorem boundaryValue?_around (o : Opening) (hvalue : IsClosed value)
    (hwhite : ∀ c ∈ front ++ back, Text.isWhiteSpace c = true)
    (htail : tail = [] ∨ ∃ rest, tail = ';' :: rest) :
    boundaryValue? (o.text ++ (front ++ (value ++ back) ++ tail)) = some (Text.trim value) := by
  have hplain : ∀ c, Text.isWhiteSpace c = false → c ∉ front ∧ c ∉ back := fun c hc =>
    not_or.mp fun hmem => by
      rw [hwhite c (List.mem_append.mpr hmem)] at hc
      exact absurd hc (by decide)
  have hsemicolon := hplain ';' (by decide)
  have hquote := hplain '"' (by decide)
  have hclosed : IsClosed (front ++ (value ++ back)) :=
    (isClosed_of_not_mem hsemicolon.1 hquote.1).append
      (hvalue.append (isClosed_of_not_mem hsemicolon.2 hquote.2))
  rw [o.boundaryValue?_eq hclosed htail, Text.trim_append_append hwhite]

end Opening

/-! ### Values -/

/-- Nothing is trimmed off a text between double quotes. -/
theorem trim_quoted (token : List Char) :
    Text.trim ('"' :: (token ++ ['"'])) = '"' :: (token ++ ['"']) := by
  have hquote : Text.isWhiteSpace '"' = false := by decide
  simp [Text.trim, Text.trimStart, Text.trimEnd, hquote]

/-- A value that stands for a token declares the boundary with that token. -/
theorem exists_boundary_of_value {text : String}
    (h : boundaryValue? text.toList = some value) (htoken : unquote? value = some token)
    (hne : token ≠ []) :
    ∃ b, ofContentType? (some text) = .ok b ∧ b.token = token.flatMap String.utf8EncodeChar := by
  have hbytes : token.flatMap String.utf8EncodeChar ≠ [] := by
    obtain ⟨c, cs, rfl⟩ := List.exists_cons_of_ne_nil hne
    simp [String.utf8EncodeChar_ne_nil]
  exact ⟨⟨_, hbytes⟩, ofContentType?_eq_ok_iff.mpr ⟨value, token, h, htoken, rfl⟩, rfl⟩

/-- A value that stands for no text declares none. -/
theorem ofContentType?_eq_missingBoundary {text : String}
    (h : boundaryValue? text.toList = some value) (hempty : unquote? value = some []) :
    ofContentType? (some text) = .error (.missingBoundary text) := by
  simp only [ofContentType?, h, Option.bind_some, hempty]

/-- **The token that is declared is the one that is read.** Behind an opening, with white space
around it and a semicolon or nothing after it, a value in double quotes gives the token between
them as it is; a bare value without semicolons and quotes gives itself; and an empty value, quoted
or bare, gives no boundary but the whole content type, even if a later parameter would do. -/
theorem declared_token (o : Opening) (front back tail : List Char)
    (hwhite : ∀ c ∈ front ++ back, Text.isWhiteSpace c = true)
    (htail : tail = [] ∨ ∃ rest, tail = ';' :: rest) :
    let contentType (value : List Char) :=
      String.ofList (o.text ++ (front ++ (value ++ back) ++ tail))
    (∀ token, token ≠ [] → '"' ∉ token →
      ∃ b, ofContentType? (some (contentType ('"' :: (token ++ ['"'])))) = .ok b ∧
        b.token = token.flatMap String.utf8EncodeChar) ∧
    (∀ token, token ≠ [] → Text.trim token = token → ';' ∉ token → '"' ∉ token →
      ∃ b, ofContentType? (some (contentType token)) = .ok b ∧
        b.token = token.flatMap String.utf8EncodeChar) ∧
    ∀ value ∈ [[], ['"', '"']],
      ofContentType? (some (contentType value)) =
        .error (.missingBoundary (contentType value)) := by
  intro contentType
  have hread : ∀ {value : List Char}, IsClosed value →
      boundaryValue? (contentType value).toList = some (Text.trim value) := fun hvalue => by
    rw [String.toList_ofList]
    exact o.boundaryValue?_around hvalue hwhite htail
  refine ⟨fun token hne hquote => ?_, fun token hne htrim hsemicolon hquote => ?_,
    fun value hmem => ?_⟩
  · refine exists_boundary_of_value (hread (isClosed_quoted hquote)) ?_ hne
    rw [trim_quoted]
    exact unquote?_eq_some_iff.mpr (Or.inr rfl)
  · refine exists_boundary_of_value (hread (isClosed_of_not_mem hsemicolon hquote)) ?_ hne
    rw [htrim]
    have hhead : token.head? ≠ some '"' := fun hhead => hquote (List.mem_of_mem_head? hhead)
    exact unquote?_eq_some_iff.mpr (Or.inl ⟨hhead, rfl⟩)
  · rcases List.mem_pair.mp hmem with rfl | rfl
    · exact ofContentType?_eq_missingBoundary
        (hread (isClosed_of_not_mem (by decide) (by decide))) rfl
    · exact ofContentType?_eq_missingBoundary (hread (isClosed_quoted List.not_mem_nil)) (by decide)

/-- A quoted token with a semicolon, an equal sign and white space at its start stands behind a
quoted parameter that has all of them too, and before another boundary. -/
theorem declared_token_semicolon :
    let text := "multipart/mixed; note=\";boundary=a\";BOUNDARY\u3000= \" x;y=z\" ;boundary=b"
    ∃ b, ofContentType? (some text) = .ok b ∧
      b.token = " x;y=z".toList.flatMap String.utf8EncodeChar := by
  intro text
  have hnote : Text.splitOnce '=' " note=\";boundary=a\"".toList =
      some (" note".toList, "\";boundary=a\"".toList) := by decide
  let o : Opening :=
    { mediaType := "multipart/mixed".toList
      others := [" note=\";boundary=a\"".toList]
      key := "BOUNDARY\u3000".toList
      mediaType_plain := by decide
      others_closed := by
        have hname : IsClosed " note=".toList := isClosed_of_not_mem (by decide) (by decide)
        have hquoted : IsClosed ('"' :: (";boundary=a".toList ++ ['"'])) :=
          isClosed_quoted (by decide)
        simpa using hname.append hquoted
      others_named := by
        intro piece hpiece name rest heq hname hspells
        rw [List.mem_singleton.mp hpiece] at heq
        rw [heq, Text.splitOnce_append hname] at hnote
        obtain ⟨rfl, -⟩ := Prod.mk.inj (Option.some.inj hnote)
        exact absurd ((Text.spells_iff isWhiteSpace_of_mem_name).mp hspells) (by decide)
      key_spells := (Text.spells_iff isWhiteSpace_of_mem_name).mpr (by decide) }
  have hwhite : ∀ c ∈ [' '] ++ [' '], Text.isWhiteSpace c = true := by
    simp [show Text.isWhiteSpace ' ' = true by decide]
  exact (declared_token o [' '] [' '] ";boundary=b".toList hwhite
    (Or.inr ⟨_, rfl⟩)).1 " x;y=z".toList (by decide) (by decide)

end Mjpeg.Boundary
