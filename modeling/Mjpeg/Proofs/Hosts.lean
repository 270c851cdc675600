import Mjpeg.Proofs.Texts
import Mjpeg.Url.Host

/-!
# Hosts with a colon

Outside brackets the host of a web address has no colon: a text with one is refused, and always for
the same reason (`Url.parseWebHost_of_mem_colon`), whatever stands around the colon. For nothing on
the way from the text to a name in ASCII loses a colon: it stands for itself and is part of no
composed character (`Text.mem_compose`), it does not separate labels, and Punycode begins with the
ASCII characters of a label (`Url.Punycode.mem_encode`). So it comes out at the end
(`Url.Domain.mem_toAscii?`), where no name may have it.
-/

namespace Mjpeg.Text

variable {c d : Char} {cs ds between : List Char}

/-! ### Composed texts -/

theorem mem_sortMark : d ∈ sortMark c ds ↔ d = c ∨ d ∈ ds := by
  induction ds with
  | nil => simp [sortMark]
  | cons b ds ih =>
    rw [sortMark]
    split
    · rw [List.mem_cons, ih, List.mem_cons, or_left_comm]
    · rw [List.mem_cons]

theorem mem_foldr_sortMark : d ∈ cs.foldr sortMark [] ↔ d ∈ cs := by
  induction cs with
  | nil => rfl
  | cons c cs ih => rw [List.foldr_cons, mem_sortMark, ih, List.mem_cons]

theorem all_compositions :
    (compositions.toList.all fun (a, b, n) => a != 58 && b != 58 && n != 58) = true := by
  decide +kernel

/-- A colon has no marks and is no mark. -/
theorem colon_not_composed {entry : Nat × Nat × Nat} (h : entry ∈ compositions) :
    entry.1 ≠ 58 ∧ entry.2.1 ≠ 58 ∧ entry.2.2 ≠ 58 := by
  have hentry := List.all_eq_true.mp all_compositions entry (Array.mem_toList_iff.mpr h)
  simpa only [Bool.and_eq_true, bne_iff_ne, and_assoc] using hentry

set_option maxRecDepth 4000 in
-- the table is unfolded on the way to the equation
theorem takeApart_succ (marks : Nat) (c : Char) : takeApart (marks + 1) c =
    match compositions.find? fun (_, _, n) => n == c.toNat with
    | some (a, b, _) => takeApart marks (Char.ofNat a) ++ [Char.ofNat b]
    | none => [c] := by
  rfl

theorem takeApart_colon (marks : Nat) : takeApart marks ':' = [':'] := by
  cases marks with
  | zero => rfl
  | succ marks =>
    rw [takeApart_succ]
    split
    · rename_i a b n hfind
      have hcode : n = 58 := by simpa using Array.find?_some hfind
      exact absurd hcode (colon_not_composed (Array.mem_of_find?_eq_some hfind)).2.2
    · rfl

theorem mem_decompose (h : ':' ∈ cs) : ':' ∈ decompose cs := by
  rw [decompose, mem_foldr_sortMark, List.mem_flatMap]
  refine ⟨':', h, ?_⟩
  have hsyllable : splitSyllable? ':' = none := by decide
  rw [hsyllable, Option.getD_none, takeApart_colon]
  exact List.mem_singleton_self _

/-- No character stands for two of which one is a colon. -/
theorem pair?_eq_none (h : c = ':' ∨ d = ':') : pair? c d = none := by
  have hsyllable : joinSyllable? c d = none := by
    rcases h with rfl | rfl <;> simp [joinSyllable?, firstLead, firstSyllable, firstVowel, noTail]
  rw [pair?, hsyllable, Option.none_or, Option.map_eq_none_iff, Array.find?_eq_none]
  rintro ⟨a, b, n⟩ hmem
  obtain ⟨ha, hb, -⟩ := colon_not_composed hmem
  rcases h with rfl | rfl
  · simp [ha]
  · simp [hb]

theorem mem_putTogether (h : ':' = c ∨ ':' ∈ between ∨ ':' ∈ cs) :
    ':' ∈ putTogether c between cs := by
  induction cs generalizing c between with
  | nil =>
    rw [putTogether, List.mem_cons, List.mem_reverse]
    simpa using h
  | cons b cs ih =>
    rw [putTogether]
    split
    · rename_i letter hpair
      -- neither of two characters that one stands for is a colon
      have hneither : ¬(c = ':' ∨ b = ':') := fun hcolon => by
        rw [pair?_eq_none hcolon] at hpair
        exact absurd hpair (by simp)
      obtain ⟨hc, hb⟩ := not_or.mp hneither
      refine ih (Or.inr ?_)
      simpa [Ne.symm hc, Ne.symm hb] using h
    · split
      · rw [List.mem_append, List.mem_cons, List.mem_reverse]
        rcases h with h | h | h
        · exact Or.inl (Or.inl h)
        · exact Or.inl (Or.inr h)
        · refine Or.inr (ih ?_)
          simpa using h
      · refine ih ?_
        rw [List.mem_cons] at h ⊢
        rcases h with h | h | h | h
        · exact Or.inl h
        · exact Or.inr (Or.inl (Or.inr h))
        · exact Or.inr (Or.inl (Or.inl h))
        · exact Or.inr (Or.inr h)

/-- **A composed text keeps its colons.** -/
theorem mem_compose (h : ':' ∈ cs) : ':' ∈ compose cs := by
  have hmem := mem_decompose h
  rw [compose]
  split
  · rename_i hnil
    rw [hnil] at hmem
    exact absurd hmem (by simp)
  · rename_i c cs' hcons
    rw [hcons, List.mem_cons] at hmem
    exact mem_putTogether (hmem.imp_right Or.inr)

/-! ### Octets -/

/-- An octet of ASCII stands for its own character only. -/
theorem eq_of_mem_utf8EncodeChar (hd : d.toNat < 128)
    (h : UInt8.ofNat d.toNat ∈ String.utf8EncodeChar c) : c = d := by
  have hascii : ∀ n < 128, (UInt8.ofNat n).IsUTF8FirstByte := by decide
  obtain ⟨i, hi, hget⟩ := List.mem_iff_getElem.mp h
  -- it is the first octet of the encoding, in which another character would be read
  obtain rfl : i = 0 := UInt8.isUTF8FirstByte_getElem_utf8EncodeChar.mp (hget ▸ hascii _ hd)
  have hencode : String.utf8EncodeChar c =
      String.utf8EncodeChar d ++ (String.utf8EncodeChar c).drop 1 := by
    rw [Bytes.utf8EncodeChar_of_lt hd, ← hget, List.singleton_append]
    exact (List.getElem_cons_drop hi).symm
  have hread := firstChar?_encode_append c []
  rw [List.append_nil, hencode, firstChar?_encode_append] at hread
  exact (Option.some.inj hread).symm

/-- A character of ASCII whose octet is read is read. -/
theorem mem_of_decode?_eq_some {bs : Bytes} (hd : d.toNat < 128) (h : UInt8.ofNat d.toNat ∈ bs)
    (hread : decode? bs = some cs) : d ∈ cs := by
  rw [decode?_eq_some_iff.mp hread, List.mem_flatMap] at h
  obtain ⟨c, hc, hoctet⟩ := h
  exact eq_of_mem_utf8EncodeChar hd hoctet ▸ hc

end Mjpeg.Text

namespace Mjpeg.Url

variable {c : Char} {cs : List Char}

/-- Percent-decoding leaves no colon out. -/
theorem mem_decode (h : ':' ∈ cs) : 58 ∈ decode cs := by
  have hcolon : hexValue? ':' = none := by decide
  fun_induction decode cs with
  | case1 => exact absurd h (by simp)
  | case2 a b cs x y hy hx ih =>
    have ha : ':' ≠ a := by
      rintro rfl
      exact absurd (hcolon.symm.trans hx) (by simp)
    have hb : ':' ≠ b := by
      rintro rfl
      exact absurd (hcolon.symm.trans hy) (by simp)
    exact List.mem_cons_of_mem _ (ih (by simpa [ha, hb] using h))
  | case3 a b cs hnot ih => exact List.mem_cons_of_mem _ (ih (by simpa using h))
  | case4 c cs hnot ih =>
    rw [List.mem_append]
    rcases List.mem_cons.mp h with rfl | hcs
    · exact Or.inl (by decide)
    · exact Or.inr (ih hcs)

/-! ### Punycode -/

namespace Punycode

variable {written : List Char} {basic code next : Nat} {codes : List Nat} {e : Encoder}

theorem isPrefix_pass (h : written <+: e.text) (c : Char) :
    written <+: (e.pass basic code c).text := by
  rw [Encoder.pass]
  split
  · exact h
  · split
    · exact h.trans (List.prefix_append _ _)
    · exact h

theorem isPrefix_foldl_pass (h : written <+: e.text) (cs : List Char) :
    written <+: (cs.foldl (Encoder.pass basic code) e).text := by
  induction cs generalizing e with
  | nil => exact h
  | cons c cs ih => exact ih (isPrefix_pass h c)

/-- What has been written stays. -/
theorem isPrefix_write (h : written <+: e.text) (cs : List Char) :
    written <+: (e.write cs basic next codes).text := by
  induction codes generalizing e next with
  | nil => exact h
  | cons code codes ih =>
    rw [Encoder.write]
    apply ih
    apply isPrefix_foldl_pass
    exact h

/-- **A text in Punycode begins with the ASCII characters of the text.** -/
theorem mem_encode (hc : c.toNat < firstCode) (h : c ∈ cs) : c ∈ encode cs := by
  have hbasic : c ∈ cs.filter (·.toNat < firstCode) :=
    List.mem_filter.mpr ⟨h, decide_eq_true hc⟩
  have hsome : (cs.filter (·.toNat < firstCode)).isEmpty = false :=
    List.isEmpty_eq_false_iff.mpr (List.ne_nil_of_mem hbasic)
  refine (isPrefix_write (List.prefix_refl _) cs).mem ?_
  dsimp only
  rw [hsome]
  exact List.mem_append_left _ hbasic

end Punycode

/-! ### Domain names -/

namespace Domain

theorem mem_label? {label : Label} (h : ':' ∈ cs) (hlabel : label? cs = some label) :
    ':' ∈ label.ascii := by
  rw [label?] at hlabel
  split at hlabel
  · obtain ⟨text, -, rfl⟩ := Option.map_eq_some_iff.mp hlabel
    exact h
  · split at hlabel
    · obtain rfl := Option.some.inj hlabel
      exact h
    · split at hlabel
      · obtain rfl := Option.some.inj hlabel
        exact List.mem_append_right _ (Punycode.mem_encode (by decide) h)
      · exact absurd hlabel (by simp)

theorem exists_of_mapM_eq_some {α β : Type} {f : α → Option β} {x : α} {xs : List α} {ys : List β}
    (hx : x ∈ xs) (h : xs.mapM f = some ys) : ∃ y ∈ ys, f x = some y := by
  induction xs generalizing ys with
  | nil => exact absurd hx (by simp)
  | cons x' xs ih =>
    rw [List.mapM_cons] at h
    obtain ⟨y, hy, h⟩ := Option.bind_eq_some_iff.mp h
    obtain ⟨zs, hzs, h⟩ := Option.bind_eq_some_iff.mp h
    obtain rfl := Option.some.inj h
    rcases List.mem_cons.mp hx with rfl | hmem
    · exact ⟨y, List.mem_cons_self, hy⟩
    · obtain ⟨z, hz, hfz⟩ := ih hmem hzs
      exact ⟨z, List.mem_cons_of_mem _ hz, hfz⟩

theorem mem_intercalate {sep piece : List Char} {pieces : List (List Char)} (hc : c ∈ piece)
    (hpiece : piece ∈ pieces) : c ∈ List.intercalate sep pieces := by
  induction pieces with
  | nil => exact absurd hpiece (by simp)
  | cons first rest ih =>
    cases rest with
    | nil =>
      obtain rfl := List.mem_singleton.mp hpiece
      simpa using hc
    | cons second rest =>
      rw [List.intercalate_cons_cons, List.mem_append, List.mem_append]
      rcases List.mem_cons.mp hpiece with rfl | hmem
      · exact Or.inl (Or.inl hc)
      · exact Or.inr (ih hmem)

/-- A colon stands for itself. -/
theorem standsFor?_colon : standsFor? ':' = some [':'] := if_pos (by decide)

/-- **A name in ASCII has the colons of the name.** -/
theorem mem_toAscii? {ascii : List Char} (h : ':' ∈ cs) (hascii : toAscii? cs = some ascii) :
    ':' ∈ ascii := by
  obtain ⟨letters, hletters, hascii⟩ := Option.bind_eq_some_iff.mp hascii
  obtain ⟨labels, hlabels, hascii⟩ := Option.bind_eq_some_iff.mp hascii
  have htext : ':' ∈ Text.compose letters.flatten := by
    obtain ⟨letter, hletter, hcolon⟩ := exists_of_mapM_eq_some h hletters
    obtain rfl := Option.some.inj (standsFor?_colon.symm.trans hcolon)
    exact Text.mem_compose (List.mem_flatten_of_mem hletter (List.mem_singleton_self _))
  obtain ⟨piece, hpiece, hmem⟩ :=
    Text.exists_mem_splitAll (p := fun c => c == '.') (by decide) htext
  obtain ⟨label, hlabel, hpiece⟩ := exists_of_mapM_eq_some hpiece hlabels
  have hout : some (List.intercalate ['.'] (labels.map Label.ascii)) = some ascii := by
    dsimp only at hascii
    split at hascii
    · exact absurd hascii (by simp)
    · exact hascii
  rw [← Option.some.inj hout]
  exact mem_intercalate (mem_label? hmem hpiece) (List.mem_map_of_mem hlabel)

end Domain

/-- **Outside brackets, no host of a web address has a colon.** -/
theorem parseWebHost_of_mem_colon (h : ':' ∈ cs) (hbracket : cs.head? ≠ some '[') :
    parseWebHost cs = .error .invalidDomain := by
  rw [parseWebHost]
  · split
    · rfl
    · rename_i name hname
      obtain ⟨text, htext, hname⟩ := Option.bind_eq_some_iff.mp hname
      have hcolon : ':' ∈ name :=
        Domain.mem_toAscii? (Text.mem_of_decode?_eq_some (by decide) (mem_decode h) htext) hname
      exact if_pos (List.any_eq_true.mpr ⟨':', hcolon, by decide⟩)
  · rintro cs rfl
    exact hbracket rfl

end Mjpeg.Url
