import Mathlib.Algebra.Ring.Parity
import Mjpeg.Proofs.Texts

/-!
# Announcing a boundary

A content type announces a boundary with its token bare, and the parser of content types takes a
token bare or in double quotes. So what is announced is not always what is parsed.

A text is one piece when each of its semicolons stands within double quotes (`IsOnePiece`). The
parser cuts a content type into pieces (`exists_parameters_eq`), and reads of an announcement the
first piece of the token, trimmed (`boundaryValue?_announcement`). It gives the token back exactly
when the token is one piece, trimmed, and does not begin with a double quote
(`reparse_eq_ok_iff`).

A value that was parsed is trimmed and one piece (`isOnePiece_of_boundaryValue?`). Hence a token
that was bare is always parsed back. Between quotes a text is one piece only if it has no semicolon
(`isOnePiece_false_iff_of_true`), so a token that was quoted is parsed back only then.

Of all tokens, whatever their bytes, those are parsed back that are the encoding of a text fit to
stand bare (`IsBare`): what an announcement shows of other bytes is a text with replacement
characters, and the boundary that is parsed has the encoding of a text for its token
(`announced_iff`).
-/

namespace Mjpeg.Boundary

variable {q : Bool} {c : Char} {cs ds : List Char}

/-! ### Pieces -/

/-- Whether a double quote is open behind a text. -/
def openBehind (q : Bool) (cs : List Char) : Bool :=
  cs.foldl (fun q c => if c = '"' then !q else q) q

/-- Every semicolon of the text stands within double quotes; `q` says whether the text starts
within quotes. -/
def IsOnePiece (q : Bool) (cs : List Char) : Prop :=
  ∀ before after, cs = before ++ ';' :: after → openBehind q before = true

theorem openBehind_of_not_mem (h : '"' ∉ cs) (q : Bool) : openBehind q cs = q := by
  induction cs with
  | nil => rfl
  | cons c cs ih =>
    obtain ⟨hne, hcs⟩ := not_or.mp (mt List.mem_cons.mpr h)
    rw [openBehind, List.foldl_cons, if_neg (Ne.symm hne)]
    exact ih hcs

theorem isOnePiece_of_not_mem (h : ';' ∉ cs) (q : Bool) : IsOnePiece q cs := by
  rintro before after rfl
  exact absurd h (by simp)

theorem isOnePiece_cons_iff : IsOnePiece q (c :: cs) ↔
    (c = ';' → q = true) ∧ IsOnePiece (if c = '"' then !q else q) cs := by
  constructor
  · intro h
    refine ⟨fun hc => h [] cs (by rw [hc]; rfl), fun before after heq => ?_⟩
    exact h (c :: before) after (by rw [heq]; rfl)
  · rintro ⟨hfirst, hrest⟩ before after heq
    cases before with
    | nil => exact hfirst (List.cons_eq_cons.mp heq).1
    | cons b before =>
      obtain ⟨rfl, htail⟩ := List.cons_eq_cons.mp heq
      exact hrest before after htail

theorem isOnePiece_append_iff :
    IsOnePiece q (cs ++ ds) ↔ IsOnePiece q cs ∧ IsOnePiece (openBehind q cs) ds := by
  induction cs generalizing q with
  | nil => simp [isOnePiece_of_not_mem, openBehind]
  | cons c cs ih =>
    rw [List.cons_append, isOnePiece_cons_iff, isOnePiece_cons_iff, ih, and_assoc]
    rfl

theorem openBehind_not (q : Bool) (cs : List Char) :
    openBehind (!q) cs = !openBehind q cs := by
  induction cs generalizing q with
  | nil => rfl
  | cons c cs ih =>
    rw [openBehind, openBehind, List.foldl_cons, List.foldl_cons]
    split
    · exact ih (!q)
    · exact ih q

/-- Within quotes and without, a text is one piece only if it has no semicolon. -/
theorem isOnePiece_false_iff_of_true (h : IsOnePiece true cs) :
    IsOnePiece false cs ↔ ';' ∉ cs := by
  refine ⟨fun hfalse hmem => ?_, fun hnot => isOnePiece_of_not_mem hnot false⟩
  obtain ⟨before, after, heq⟩ := List.append_of_mem hmem
  have hopen : openBehind true before = !openBehind false before := openBehind_not false before
  rw [h before after heq, hfalse before after heq] at hopen
  exact absurd hopen (by decide)

/-! ### Cutting at semicolons -/

/-- A character that is no semicolon outside double quotes belongs to the first piece. -/
theorem parameters_cons (h : c = ';' → q = true) (cs : List Char) :
    parameters q (c :: cs) =
      (parameters (if c = '"' then !q else q) cs).modifyHead (c :: ·) := by
  have hnot : (decide (c = ';') && !(if c = '"' then !q else q)) = false := by
    by_cases hc : c = ';'
    · subst hc
      simp [h rfl]
    · simp [hc]
  simp only [parameters, hnot, Bool.false_eq_true, if_false]

/-- A text in one piece stands at the front of the first piece. -/
theorem parameters_append (h : IsOnePiece q cs) (ds : List Char) :
    parameters q (cs ++ ds) = (parameters (openBehind q cs) ds).modifyHead (cs ++ ·) := by
  induction cs generalizing q with
  | nil =>
    change parameters q ds = (parameters q ds).modifyHead fun piece => piece
    cases parameters q ds <;> rfl
  | cons c cs ih =>
    obtain ⟨hfirst, hrest⟩ := isOnePiece_cons_iff.mp h
    rw [List.cons_append, parameters_cons hfirst, ih hrest, List.modifyHead_modifyHead]
    rfl

/-- A semicolon outside double quotes ends a piece. -/
theorem parameters_append_cons (h : IsOnePiece false cs) (hclosed : openBehind false cs = false)
    (ds : List Char) :
    parameters false (cs ++ ';' :: ds) = cs :: parameters false ds := by
  rw [parameters_append h, hclosed]
  simp [parameters]

/-- The pieces of a text: each of them is one piece, and the first is where the text begins. -/
theorem exists_parameters_eq (q : Bool) (cs : List Char) :
    ∃ first rest, parameters q cs = first :: rest ∧ IsOnePiece q first ∧
      (∀ piece ∈ rest, IsOnePiece false piece) ∧ first <+: cs := by
  induction cs generalizing q with
  | nil => exact ⟨[], [], rfl, isOnePiece_of_not_mem (by simp) q, by simp, List.prefix_refl _⟩
  | cons c cs ih =>
    by_cases hc : c = ';' → q = true
    · obtain ⟨first, rest, heq, hfirst, hrest, hbegins⟩ := ih (if c = '"' then !q else q)
      refine ⟨c :: first, rest, ?_, isOnePiece_cons_iff.mpr ⟨hc, hfirst⟩, hrest, ?_⟩
      · rw [parameters_cons hc, heq]
        rfl
      · exact List.cons_prefix_cons.mpr ⟨rfl, hbegins⟩
    · -- a semicolon outside double quotes: what follows is cut as from the start
      obtain ⟨rfl, hq⟩ := Classical.not_imp.mp hc
      obtain rfl : q = false := Bool.not_eq_true _ ▸ hq
      obtain ⟨first, rest, heq, hfirst, hrest, -⟩ := ih false
      refine ⟨[], first :: rest, ?_, isOnePiece_of_not_mem (by simp) _, ?_, List.nil_prefix⟩
      · rw [← heq]
        rfl
      · exact List.forall_mem_cons.mpr ⟨hfirst, hrest⟩

/-! ### Values -/

/-- A value stands for itself unless it begins with a double quote, and then for what stands
between that quote and one at its end. -/
theorem unquote?_eq_some_iff : unquote? cs = some ds ↔
    cs.head? ≠ some '"' ∧ cs = ds ∨ cs = '"' :: (ds ++ ['"']) := by
  unfold unquote?
  split
  · rename_i rest
    have hhead : ¬('"' :: rest).head? ≠ some '"' := not_not.mpr rfl
    rw [List.cons_eq_cons, and_iff_right rfl, or_iff_right fun h => hhead h.1]
    constructor
    · intro h
      split at h
      · rename_i hlast
        rw [← Option.some.inj h]
        exact (List.dropLast_append_getLast? '"' hlast).symm
      · exact absurd h (by simp)
    · rintro rfl
      simp
  · rename_i hnot
    have hhead : cs.head? ≠ some '"' := by
      intro h
      obtain ⟨rest, rfl⟩ := List.head?_eq_some_iff.mp h
      exact hnot rest rfl
    have hne : cs ≠ '"' :: (ds ++ ['"']) := fun h => hnot _ h
    rw [or_iff_left hne, and_iff_right hhead, Option.some.injEq]

/-- A boundary has the token that its value stands for. -/
theorem ofContentType?_eq_ok_iff {text : String} {b : Boundary} :
    ofContentType? (some text) = .ok b ↔
      ∃ value token, boundaryValue? text.toList = some value ∧ unquote? value = some token ∧
        b.token = token.flatMap String.utf8EncodeChar := by
  simp only [ofContentType?]
  constructor
  · intro h
    split at h
    · exact absurd h (by simp)
    · exact absurd h (by simp)
    · rename_i c cs hvalue
      obtain ⟨value, hfound, htoken⟩ := Option.bind_eq_some_iff.mp hvalue
      refine ⟨value, c :: cs, hfound, htoken, ?_⟩
      rw [ofToken?] at h
      split at h
      · exact absurd h (by simp)
      · rw [← Except.ok.inj h]
  · rintro ⟨value, token, hfound, htoken, hbytes⟩
    have hvalue : (boundaryValue? text.toList).bind unquote? = some token := by
      rw [hfound, Option.bind_some, htoken]
    cases token with
    | nil => exact absurd hbytes b.token_ne_nil
    | cons c cs =>
      rw [hvalue]
      dsimp only
      rw [← hbytes, ofToken?, dif_neg b.token_ne_nil]

/-- The name of the parameter has no white space. -/
theorem isWhiteSpace_of_mem_name :
    ∀ c ∈ "boundary".toList.map Char.toLower, Text.isWhiteSpace c = false := by
  have hall : ("boundary".toList.map Char.toLower).all (!Text.isWhiteSpace ·) = true := by decide
  simpa only [List.all_eq_true, Bool.not_eq_true'] using hall

/-- A value that was found is trimmed and one piece. -/
theorem isOnePiece_of_boundaryValue? {value : List Char} (h : boundaryValue? cs = some value) :
    IsOnePiece false value ∧ Text.trim value = value := by
  obtain ⟨⟨key, rest⟩, hfind, rfl⟩ := Option.map_eq_some_iff.mp h
  have hboundary : Text.Spells key "boundary".toList :=
    (Text.spells_iff isWhiteSpace_of_mem_name).mpr (List.find?_eq_some_iff_append.mp hfind).1
  have hkey : '"' ∉ key := hboundary.not_mem (by decide) (by decide)
  obtain ⟨piece, hpiece, hsplit⟩ := List.mem_filterMap.mp (List.mem_of_find?_eq_some hfind)
  obtain rfl := Text.eq_of_splitOnce hsplit
  obtain ⟨first, pieces, heq, -, hpieces, -⟩ := exists_parameters_eq false cs
  rw [heq, List.tail_cons] at hpiece
  -- no quote is open behind the key, nor behind the white space that is trimmed off
  have hvalue := (isOnePiece_append_iff.mp (hpieces _ hpiece)).2
  rw [openBehind_of_not_mem hkey] at hvalue
  have hrest : IsOnePiece false rest := (isOnePiece_cons_iff.mp hvalue).2
  obtain ⟨front, back, hrest_eq, hwhite⟩ := Text.exists_append_trim rest
  have hfront : '"' ∉ front := fun hmem =>
    absurd (hwhite '"' (List.mem_append_left _ hmem)) (by decide)
  rw [hrest_eq, isOnePiece_append_iff, openBehind_of_not_mem hfront, isOnePiece_append_iff]
    at hrest
  exact ⟨hrest.2.1, Text.trim_trim rest⟩

/-! ### The announcement -/

/-- Of an announcement the first piece of the token is read, trimmed. -/
theorem boundaryValue?_announcement {first : List Char} {rest : List (List Char)}
    (h : parameters false cs = first :: rest) :
    boundaryValue? ("multipart/x-mixed-replace; boundary=".toList ++ cs) =
      some (Text.trim first) := by
  have htype : "multipart/x-mixed-replace; boundary=".toList ++ cs =
      "multipart/x-mixed-replace".toList ++ ';' :: (" boundary".toList ++ '=' :: cs) := by
    have hsplit : "multipart/x-mixed-replace; boundary=".toList =
        "multipart/x-mixed-replace".toList ++ ';' :: (" boundary".toList ++ ['=']) := by decide
    simp only [hsplit, List.append_assoc, List.cons_append, List.nil_append]
  have hkey : parameters false (" boundary".toList ++ '=' :: cs) =
      (" boundary".toList ++ '=' :: first) :: rest := by
    rw [List.append_cons, parameters_append (isOnePiece_of_not_mem (by decide) _),
      openBehind_of_not_mem (by decide), h]
    simp
  rw [boundaryValue?, htype, parameters_append_cons (isOnePiece_of_not_mem (by decide) _)
    (openBehind_of_not_mem (by decide) _), List.tail_cons, hkey,
    List.filterMap_cons_some (Text.splitOnce_append (by decide) first)]
  have hboundary : Text.eqIgnoringCase (Text.trim " boundary".toList) "boundary".toList = true := by
    decide
  simp only [List.find?_cons_of_pos, hboundary, Option.map_some]

variable {b : Boundary} {token : List Char}

theorem toList_contentType (h : b.token = token.flatMap String.utf8EncodeChar) :
    b.contentType.toList = "multipart/x-mixed-replace; boundary=".toList ++ token := by
  have htoken : (String.ofList (Text.decodeLossy b.token)).toList = token := by
    rw [String.toList_ofList, h, Text.decodeLossy_flatMap]
  rw [← htoken]
  exact String.toList_append

/-- **What is announced is parsed back** exactly when the token is one piece, trimmed, and does not
begin with a double quote. -/
theorem reparse_eq_ok_iff (h : b.token = token.flatMap String.utf8EncodeChar) :
    ofContentType? (some b.contentType) = .ok b ↔
      IsOnePiece false token ∧ Text.trim token = token ∧ token.head? ≠ some '"' := by
  obtain ⟨first, rest, heq, hpiece, -, hbegins⟩ := exists_parameters_eq false token
  rw [ofContentType?_eq_ok_iff, toList_contentType h, boundaryValue?_announcement heq]
  constructor
  · rintro ⟨value, token', hvalue, htoken, hbytes⟩
    obtain rfl := Option.some.inj hvalue
    obtain rfl := Text.flatMap_utf8EncodeChar_inj (h.symm.trans hbytes)
    -- nothing was cut off, for what is read is no longer than what is announced
    have htrim := Text.length_trim_le first
    have hfirst := hbegins.length_le
    rcases unquote?_eq_some_iff.mp htoken with ⟨hhead, hsame⟩ | hquoted
    · have hlength := congrArg List.length hsame
      obtain rfl := hbegins.eq_of_length_le (by omega)
      exact ⟨hpiece, hsame, hsame ▸ hhead⟩
    · have hlength := congrArg List.length hquoted
      simp only [List.length_cons, List.length_append, List.length_nil] at hlength
      omega
  · rintro ⟨htoken, htrim, hhead⟩
    have hwhole := parameters_append htoken []
    rw [List.append_nil, heq] at hwhole
    obtain ⟨rfl, -⟩ : first = token ∧ rest = [] := by simpa [parameters] using hwhole
    exact ⟨_, first, rfl, unquote?_eq_some_iff.mpr (Or.inl ⟨htrim.symm ▸ hhead, htrim⟩), h⟩

/-- **When a boundary that was parsed is announced so that it is parsed back.** If its value was
bare, always. If its value was quoted, exactly when its token has no semicolon, no white space at
its ends and no double quote at its start, since the announcement has the token bare. -/
theorem reparse_iff (contentType : String) (b : Boundary)
    (h : ofContentType? (some contentType) = .ok b) :
    ∃ value token, boundaryValue? contentType.toList = some value ∧
      unquote? value = some token ∧ b.token = token.flatMap String.utf8EncodeChar ∧
      (value.head? ≠ some '"' → ofContentType? (some b.contentType) = .ok b) ∧
      (value.head? = some '"' →
        (ofContentType? (some b.contentType) = .ok b ↔
          ';' ∉ token ∧ Text.trim token = token ∧ token.head? ≠ some '"')) := by
  obtain ⟨value, token, hvalue, htoken, hbytes⟩ := ofContentType?_eq_ok_iff.mp h
  obtain ⟨hpiece, htrim⟩ := isOnePiece_of_boundaryValue? hvalue
  refine ⟨value, token, hvalue, htoken, hbytes, fun hbare => ?_, fun hquoted => ?_⟩
  · rcases unquote?_eq_some_iff.mp htoken with ⟨-, rfl⟩ | rfl
    · exact (reparse_eq_ok_iff hbytes).mpr ⟨hpiece, htrim, hbare⟩
    · exact absurd rfl hbare
  · rcases unquote?_eq_some_iff.mp htoken with ⟨hbare, -⟩ | rfl
    · exact absurd hquoted hbare
    · -- the token stands behind the opening quote
      have hinner : IsOnePiece true token :=
        (isOnePiece_append_iff.mp (isOnePiece_cons_iff.mp hpiece).2).1
      rw [reparse_eq_ok_iff hbytes, isOnePiece_false_iff_of_true hinner]

/-- A quoted token with a blank inside is parsed back. -/
theorem reparse_iff_blank :
    let text := "multipart/x-mixed-replace; boundary=\"frame 1\""
    let b : Boundary := ⟨"frame 1".toList.flatMap String.utf8EncodeChar, by decide⟩
    ofContentType? (some text) = .ok b ∧ ofContentType? (some b.contentType) = .ok b := by
  intro text b
  have hparsed : ofContentType? (some text) = .ok b := by decide
  have hvalue : boundaryValue? text.toList = some "\"frame 1\"".toList := by decide
  have htoken : unquote? "\"frame 1\"".toList = some "frame 1".toList := by decide
  obtain ⟨value, token, hvalue', htoken', -, -, hquoted⟩ := reparse_iff text b hparsed
  obtain rfl := Option.some.inj (hvalue.symm.trans hvalue')
  obtain rfl := Option.some.inj (htoken.symm.trans htoken')
  exact ⟨hparsed, (hquoted (by decide)).mpr (by decide)⟩

/-- A quoted token with a semicolon inside is not: what is parsed back is the part before the
semicolon. -/
theorem reparse_semicolon :
    let text := "multipart/x-mixed-replace; boundary=\"a;b\""
    let b : Boundary := ⟨"a;b".toList.flatMap String.utf8EncodeChar, by decide⟩
    ofContentType? (some text) = .ok b ∧
      b.contentType = "multipart/x-mixed-replace; boundary=a;b" ∧
      ofContentType? (some b.contentType) = ofToken? [97] ∧
      ofContentType? (some b.contentType) ≠ .ok b := by
  intro text b
  have hannounced : b.contentType = "multipart/x-mixed-replace; boundary=a;b" :=
    String.toList_inj.mp ((toList_contentType rfl).trans (by decide))
  rw [hannounced]
  exact ⟨by decide, rfl, by decide, by decide⟩

/-! ### Which tokens are announced -/

/-- A double quote is open behind a text that has an odd number of them. -/
theorem openBehind_eq_true_iff : openBehind false cs = true ↔ Odd (cs.count '"') := by
  induction cs with
  | nil => simp [openBehind]
  | cons c cs ih =>
    by_cases hc : c = '"'
    · subst hc
      have hopen : openBehind false ('"' :: cs) = !openBehind false cs := openBehind_not false cs
      rw [hopen, List.count_cons_self, Nat.odd_add_one, ← ih, Bool.not_eq_true', Bool.not_eq_true]
    · have hopen : openBehind false (c :: cs) = openBehind false cs := by
        rw [openBehind, List.foldl_cons, if_neg hc, openBehind]
      rw [hopen, List.count_cons_of_ne hc, ih]

/-- A text that can be the value of a parameter without double quotes around it. -/
structure IsBare (text : List Char) : Prop where
  /-- No white space stands at its ends. -/
  trimmed : Text.trim text = text
  head_ne : text.head? ≠ some '"'
  /-- Before each semicolon stands an odd number of double quotes. -/
  quoted : ∀ before after, text = before ++ ';' :: after → Odd (before.count '"')

theorem isBare_iff :
    IsBare token ↔ IsOnePiece false token ∧ Text.trim token = token ∧ token.head? ≠ some '"' := by
  constructor
  · intro h
    exact ⟨fun before after heq => openBehind_eq_true_iff.mpr (h.quoted before after heq),
      h.trimmed, h.head_ne⟩
  · rintro ⟨hpiece, htrim, hhead⟩
    exact ⟨htrim, hhead, fun before after heq =>
      openBehind_eq_true_iff.mp (hpiece before after heq)⟩

/-- **Which tokens are announced so that they are parsed back.** Exactly the encodings of texts
that can stand bare; what is announced of any other token is an error to the parser, or another
boundary. -/
theorem announced_iff (bytes : Bytes) (hne : bytes ≠ []) :
    ∃ b, ofToken? bytes = .ok b ∧ b.token = bytes ∧
      (ofContentType? (some b.contentType) = .ok b ↔
        ∃ text, bytes = text.flatMap String.utf8EncodeChar ∧ IsBare text) ∧
      ((¬∃ text, bytes = text.flatMap String.utf8EncodeChar ∧ IsBare text) →
        (∃ e, ofContentType? (some b.contentType) = .error e) ∨
          ∃ b', ofContentType? (some b.contentType) = .ok b' ∧ b' ≠ b) := by
  let b : Boundary := ⟨bytes, hne⟩
  have hiff : ofContentType? (some b.contentType) = .ok b ↔
      ∃ text, bytes = text.flatMap String.utf8EncodeChar ∧ IsBare text := by
    constructor
    · intro h
      -- the token of a boundary that was parsed is the encoding of a text
      obtain ⟨-, text, -, -, hbytes⟩ := ofContentType?_eq_ok_iff.mp h
      exact ⟨text, hbytes, isBare_iff.mpr ((reparse_eq_ok_iff hbytes).mp h)⟩
    · rintro ⟨text, hbytes, hbare⟩
      exact (reparse_eq_ok_iff hbytes).mpr (isBare_iff.mp hbare)
  refine ⟨b, dif_neg hne, rfl, hiff, fun hnot => ?_⟩
  cases hparsed : ofContentType? (some b.contentType) with
  | error e => exact Or.inl ⟨e, rfl⟩
  | ok b' =>
    refine Or.inr ⟨b', rfl, ?_⟩
    rintro rfl
    exact hnot (hiff.mp hparsed)

/-- A token in which a semicolon stands between double quotes is parsed back, and one with a byte
that belongs to no text is not. -/
theorem announced_iff_inner_quotes :
    let quoted := "a\";\"b".toList.flatMap String.utf8EncodeChar
    let broken : Bytes := [97, 255]
    (quoted ≠ [] ∧ ∃ b, b.token = quoted ∧ ofContentType? (some b.contentType) = .ok b) ∧
      broken ≠ [] ∧ ∃ b, b.token = broken ∧ ofContentType? (some b.contentType) ≠ .ok b := by
  intro quoted broken
  have hquoted : quoted ≠ [] := by decide
  have hbroken : broken ≠ [] := by decide
  refine ⟨⟨hquoted, ?_⟩, hbroken, ?_⟩
  · obtain ⟨b, -, htoken, hiff, -⟩ := announced_iff quoted hquoted
    refine ⟨b, htoken, hiff.mpr ⟨_, rfl, isBare_iff.mpr ⟨?_, by decide, by decide⟩⟩⟩
    -- the one semicolon stands behind one of the two quotes
    refine isOnePiece_cons_iff.mpr ⟨by decide, isOnePiece_cons_iff.mpr ⟨by decide, ?_⟩⟩
    refine isOnePiece_cons_iff.mpr ⟨fun _ => rfl, isOnePiece_of_not_mem (by decide) _⟩
  · obtain ⟨b, -, htoken, hiff, -⟩ := announced_iff broken hbroken
    refine ⟨b, htoken, fun h => ?_⟩
    obtain ⟨text, htext, -⟩ := hiff.mp h
    have hnone : Text.decode? broken = none := by decide +kernel
    rw [Text.decode?_eq_some_iff.mpr htext] at hnone
    exact absurd hnone (by simp)

end Mjpeg.Boundary
