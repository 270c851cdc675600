import Mathlib.Data.List.Infix
import Mathlib.Data.Nat.Find
import Mjpeg.Bytes.Search

/-!
# Occurrences of a byte string

`Occurs needle haystack i` says that the needle stands at index `i`, and `FirstAt` that it
stands at no lower index. The search of a byte string answers the index of the first occurrence
(`find_eq_some_iff`).

What makes reading in pieces possible is that a first occurrence stays where it is when bytes
are appended (`FirstAt.append`), and that an occurrence which appending brings about reaches
into the appended bytes (`Occurs.of_append`).
-/

namespace Mjpeg.Bytes

variable {needle haystack more : Bytes} {i j : Nat}

/-- The needle stands at index `i` of the haystack. -/
def Occurs (needle haystack : Bytes) (i : Nat) : Prop := needle <+: haystack.drop i

/-- The needle stands at index `i` of the haystack and at no lower one. -/
structure FirstAt (needle haystack : Bytes) (i : Nat) : Prop where
  occurs : Occurs needle haystack i
  least : ∀ j < i, ¬ Occurs needle haystack j

theorem occurs_zero_iff : Occurs needle haystack 0 ↔ needle <+: haystack := by
  rw [Occurs, List.drop_zero]

theorem occurs_drop_iff : Occurs needle (haystack.drop j) i ↔ Occurs needle haystack (j + i) := by
  rw [Occurs, Occurs, List.drop_drop]

/-- An occurrence of a needle that takes room lies within the haystack. -/
theorem Occurs.le_length (h : Occurs needle haystack i) (hne : needle ≠ []) :
    i + needle.length ≤ haystack.length := by
  have hle := h.length_le
  have hpos := List.length_pos_iff.mpr hne
  rw [List.length_drop] at hle
  omega

/-- A needle stands nowhere where there is no room for it. -/
theorem not_occurs_of_length_lt (hne : needle ≠ []) (h : haystack.length < i + needle.length) :
    ¬ Occurs needle haystack i :=
  fun hocc => Nat.not_le.mpr h (hocc.le_length hne)

theorem Occurs.append (h : Occurs needle haystack i) (more : Bytes) :
    Occurs needle (haystack ++ more) i := by
  rw [Occurs, List.drop_append]
  exact h.trans (List.prefix_append _ _)

/-- An occurrence that ends before the appended bytes was there before. -/
theorem Occurs.of_append (h : Occurs needle (haystack ++ more) i)
    (hle : i + needle.length ≤ haystack.length) : Occurs needle haystack i := by
  rw [Occurs, List.drop_append_of_le_length (by omega)] at h
  refine List.prefix_of_prefix_length_le h (List.prefix_append _ _) ?_
  rw [List.length_drop]
  omega

/-- Bytes that stand at an index take the place of as many of the haystack. -/
theorem Occurs.drop_eq (h : Occurs needle haystack i) :
    haystack.drop i = needle ++ haystack.drop (i + needle.length) := by
  obtain ⟨behind, hbehind⟩ := h
  rw [← List.drop_drop, ← hbehind, List.drop_left]

theorem occurs_length_append : Occurs needle (haystack ++ (needle ++ more)) haystack.length := by
  rw [Occurs, List.drop_left]
  exact List.prefix_append _ _

theorem occurs_append_right_iff {before : Bytes} :
    Occurs needle (before ++ haystack) (before.length + i) ↔ Occurs needle haystack i := by
  rw [← occurs_drop_iff, List.drop_left]

/-- Both parts of a needle stand where it stands. -/
theorem Occurs.parts {needle' : Bytes} (h : Occurs (needle ++ needle') haystack i) :
    Occurs needle haystack i ∧ Occurs needle' haystack (i + needle.length) := by
  have hdrop := h.drop_eq
  rw [List.append_assoc] at hdrop
  constructor
  · exact ⟨_, hdrop.symm⟩
  · rw [Occurs, ← List.drop_drop, hdrop, List.drop_left]
    exact List.prefix_append _ _

/-- A needle stands where its first octet stands with the others behind it. -/
theorem occurs_cons_iff {b : UInt8} :
    Occurs (b :: needle) haystack i ↔ haystack[i]? = some b ∧ Occurs needle haystack (i + 1) := by
  rw [Occurs, Occurs]
  by_cases hi : i < haystack.length
  · rw [List.drop_eq_getElem_cons hi, List.cons_prefix_cons, List.getElem?_eq_getElem hi,
      Option.some.injEq, eq_comm]
  · have hle : haystack.length ≤ i := Nat.le_of_not_lt hi
    rw [List.drop_eq_nil_of_le hle, List.getElem?_eq_none hle]
    simp

theorem infix_iff_exists_occurs : needle <:+: haystack ↔ ∃ i, Occurs needle haystack i := by
  constructor
  · rintro ⟨before, behind, rfl⟩
    refine ⟨before.length, ?_⟩
    rw [List.append_assoc]
    exact occurs_length_append
  · rintro ⟨i, h⟩
    exact h.isInfix.trans (List.drop_suffix _ _).isInfix

/-! ### First occurrences -/

theorem FirstAt.le_length (h : FirstAt needle haystack i) (hne : needle ≠ []) :
    i + needle.length ≤ haystack.length := h.occurs.le_length hne

theorem FirstAt.eq (hi : FirstAt needle haystack i) (hj : FirstAt needle haystack j) : i = j := by
  rcases Nat.lt_trichotomy i j with hlt | heq | hgt
  · exact absurd hi.occurs (hj.least i hlt)
  · exact heq
  · exact absurd hj.occurs (hi.least j hgt)

/-- Of the occurrences one is the first. -/
theorem Occurs.exists_firstAt (h : Occurs needle haystack i) : ∃ j, FirstAt needle haystack j := by
  classical
  have hex : ∃ i, Occurs needle haystack i := ⟨i, h⟩
  exact ⟨Nat.find hex, Nat.find_spec hex, fun j hj => Nat.find_min hex hj⟩

/-- What is cut at the first occurrence. -/
theorem exists_append_of_infix (h : needle <:+: haystack) (hne : needle ≠ []) :
    ∃ before behind, haystack = before ++ (needle ++ behind) ∧
      FirstAt needle haystack before.length := by
  obtain ⟨i, hocc⟩ := infix_iff_exists_occurs.mp h
  obtain ⟨j, hfirst⟩ := hocc.exists_firstAt
  have hle := hfirst.le_length hne
  refine ⟨haystack.take j, haystack.drop (j + needle.length), ?_, ?_⟩
  · rw [← hfirst.occurs.drop_eq, List.take_append_drop]
  · rwa [List.length_take_of_le (by omega)]

/-- **A first occurrence stays the first when bytes are appended.** -/
theorem FirstAt.append (h : FirstAt needle haystack i) (hne : needle ≠ []) (more : Bytes) :
    FirstAt needle (haystack ++ more) i := by
  refine ⟨h.occurs.append more, fun j hj hocc => h.least j hj (hocc.of_append ?_)⟩
  have := h.le_length hne
  omega

/-- A first occurrence needs no more of the haystack than what it takes itself. -/
theorem FirstAt.of_append (h : FirstAt needle (haystack ++ more) i)
    (hle : i + needle.length ≤ haystack.length) : FirstAt needle haystack i :=
  ⟨h.occurs.of_append hle, fun j hj hocc => h.least j hj (hocc.append more)⟩

theorem firstAt_cons_succ_iff {b : UInt8} :
    FirstAt needle (b :: haystack) (i + 1) ↔
      ¬ needle <+: b :: haystack ∧ FirstAt needle haystack i := by
  constructor
  · intro h
    refine ⟨fun hpre => h.least 0 (Nat.succ_pos i) (occurs_zero_iff.mpr hpre), h.occurs, ?_⟩
    exact fun j hj => h.least (j + 1) (Nat.succ_lt_succ hj)
  · rintro ⟨hpre, h⟩
    refine ⟨h.occurs, fun j hj => ?_⟩
    cases j with
    | zero => exact fun hocc => hpre (occurs_zero_iff.mp hocc)
    | succ j => exact h.least j (Nat.lt_of_succ_lt_succ hj)

/-- A first occurrence behind bytes in which none begins. -/
theorem FirstAt.prepend {before : Bytes} (h : FirstAt needle haystack i)
    (hbefore : ∀ j < before.length, ¬ Occurs needle (before ++ haystack) j) :
    FirstAt needle (before ++ haystack) (before.length + i) := by
  refine ⟨occurs_append_right_iff.mpr h.occurs, fun j hj hocc => ?_⟩
  have hle : before.length ≤ j := Nat.le_of_not_lt fun hlt => hbefore j hlt hocc
  -- an earlier occurrence would begin behind those bytes, and earlier than the first there
  obtain ⟨k, rfl⟩ := Nat.exists_eq_add_of_le hle
  exact h.least k (Nat.lt_of_add_lt_add_left hj) (occurs_append_right_iff.mp hocc)

/-! ### The search -/

/-- **The search answers the index of the first occurrence.** -/
theorem find_eq_some_iff (hne : needle ≠ []) :
    find haystack needle = some i ↔ FirstAt needle haystack i := by
  induction haystack generalizing i with
  | nil =>
    rw [find_nil_left]
    refine iff_of_false (by simp) fun h => ?_
    have := h.le_length hne
    have := List.length_pos_iff.mpr hne
    simp only [List.length_nil] at *
    omega
  | cons b bs ih =>
    rw [find_cons hne]
    by_cases hpre : needle <+: b :: bs
    · rw [if_pos (List.isPrefixOf_iff_prefix.mpr hpre), Option.some.injEq]
      have hzero : FirstAt needle (b :: bs) 0 :=
        ⟨occurs_zero_iff.mpr hpre, fun j hj => absurd hj (Nat.not_lt_zero j)⟩
      exact ⟨fun h => h ▸ hzero, fun h => hzero.eq h⟩
    · rw [if_neg fun h => hpre (List.isPrefixOf_iff_prefix.mp h), Option.map_eq_some_iff]
      constructor
      · rintro ⟨k, hk, rfl⟩
        exact firstAt_cons_succ_iff.mpr ⟨hpre, ih.mp hk⟩
      · intro h
        cases i with
        | zero => exact absurd (occurs_zero_iff.mp h.occurs) hpre
        | succ k => exact ⟨k, ih.mpr (firstAt_cons_succ_iff.mp h).2, rfl⟩

/-- The search answers none when there is no occurrence at all. -/
theorem find_eq_none_iff (hne : needle ≠ []) :
    find haystack needle = none ↔ ∀ i, ¬ Occurs needle haystack i := by
  constructor
  · intro h i hocc
    -- the first of the occurrences would have been found
    obtain ⟨j, hfirst⟩ := hocc.exists_firstAt
    rw [(find_eq_some_iff hne).mpr hfirst] at h
    exact absurd h (by simp)
  · intro h
    cases hfind : find haystack needle with
    | none => rfl
    | some i => exact absurd ((find_eq_some_iff hne).mp hfind).occurs (h i)

/-- A search may leave out bytes at the start in which no occurrence begins. -/
theorem find_eq_map_find_drop (hne : needle ≠ []) (h : ∀ j < i, ¬ Occurs needle haystack j) :
    find haystack needle = (find (haystack.drop i) needle).map (· + i) := by
  cases hfind : find (haystack.drop i) needle with
  | none =>
    refine (find_eq_none_iff hne).mpr fun j hocc => ?_
    have hij : i ≤ j := Nat.le_of_not_lt fun hlt => h j hlt hocc
    refine (find_eq_none_iff hne).mp hfind (j - i) (occurs_drop_iff.mpr ?_)
    rwa [Nat.add_sub_cancel' hij]
  | some k =>
    have hfirst := (find_eq_some_iff hne).mp hfind
    rw [Option.map_some, Nat.add_comm]
    refine (find_eq_some_iff hne).mpr ⟨occurs_drop_iff.mp hfirst.occurs, fun j hj hocc => ?_⟩
    have hij : i ≤ j := Nat.le_of_not_lt fun hlt => h j hlt hocc
    refine hfirst.least (j - i) (by omega) (occurs_drop_iff.mpr ?_)
    rwa [Nat.add_sub_cancel' hij]

end Mjpeg.Bytes
