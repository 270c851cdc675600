import Mathlib.Logic.Relation
import Mjpeg.Proofs.Occurrence

/-!
# The search of packed octets

A turn of the search skips to the next place where the first octet of the needle stands, and
compares what stands behind it. What a turn comes to tells where the needle does not begin
(`Turn.Tells`), so the needle begins nowhere before the index that a search has come to
(`not_occurs_of_turns`), and the search answers the first occurrence (`search?_eq`).

The index up to which a search goes leaves room for the needle, exactly. So the window of each turn
lies within the buffer (`exists_window`), and so does what it compares (`exists_behind`): a turn
always comes to something (`exists_turn?`). A turn that goes on comes closer to that index, so the
turns end (`exists_last_turn`).
-/

namespace Mjpeg.Bytes

open Relation

variable {buffer : ByteArray} {first octet : UInt8} {needle tail : Bytes}
  {lastStart pos start stop next i j : Nat}

theorem length_data_toList (buffer : ByteArray) : buffer.data.toList.length = buffer.size :=
  Array.length_toList

/-! ### Stretches -/

namespace Stretch

theorem exists_within? (h : start ≤ stop) (h' : stop ≤ buffer.size) :
    ∃ s, within? buffer start stop = some s :=
  ⟨⟨start, stop, h, h'⟩, dif_pos ⟨h, h'⟩⟩

/-- The octets of a stretch are compared with others of the same number. -/
theorem octets_eq_iff {s : Stretch buffer} (h : s.stop = s.start + needle.length) :
    s.octets = needle ↔ Occurs needle buffer.data.toList s.start := by
  have hoctets : s.octets = (buffer.data.toList.drop s.start).take needle.length := by
    simp [octets, List.extract, h]
  rw [hoctets, Occurs, List.prefix_iff_eq_take, eq_comm]

theorem getElem?_toList (h : i < buffer.size) : buffer.data.toList[i]? = some buffer[i] := by
  have hlen : i < buffer.data.toList.length := by simpa using h
  rw [List.getElem?_eq_getElem hlen, Array.getElem_toList, ByteArray.getElem_eq_getElem_data]

/-- What is found within a stretch is the octet, and it stands nowhere before. -/
theorem getElem?_of_indexFrom? {s : Stretch buffer} (h : s.indexFrom? octet i = some j) :
    buffer.data.toList[j]? = some octet ∧
      ∀ k, i ≤ k → k < j → buffer.data.toList[k]? ≠ some octet := by
  fun_induction indexFrom? s octet i with
  | case1 i hi hle hocc =>
    obtain rfl := Option.some.inj h
    refine ⟨?_, fun k hik hki => absurd hki (Nat.not_lt.mpr hik)⟩
    rw [getElem?_toList (Nat.lt_of_lt_of_le hi hle), hocc]
  | case2 i hi hle hocc ih =>
    obtain ⟨hj, hclear⟩ := ih h
    refine ⟨hj, fun k hik hkj => ?_⟩
    rcases Nat.eq_or_lt_of_le hik with rfl | hlt
    · rw [getElem?_toList (Nat.lt_of_lt_of_le hi hle)]
      exact fun heq => hocc (Option.some.inj heq)
    · exact hclear k hlt hkj
  | case3 i hi => exact absurd h (by simp)

/-- What is not found stands nowhere within the stretch. -/
theorem getElem?_of_indexFrom?_eq_none {s : Stretch buffer} (h : s.indexFrom? octet i = none) :
    ∀ k, i ≤ k → k < s.stop → buffer.data.toList[k]? ≠ some octet := by
  fun_induction indexFrom? s octet i with
  | case1 i hi hle hocc => exact absurd h (by simp)
  | case2 i hi hle hocc ih =>
    intro k hik hks
    rcases Nat.eq_or_lt_of_le hik with rfl | hlt
    · rw [getElem?_toList (Nat.lt_of_lt_of_le hi hle)]
      exact fun heq => hocc (Option.some.inj heq)
    · exact ih h k hlt hks
  | case3 i hi => exact fun k hik hks => absurd (Nat.lt_of_le_of_lt hik hks) hi

end Stretch

/-! ### One turn -/

section Turns

variable (hroom : lastStart + (tail.length + 1) = buffer.size)

include hroom

/-- The window of a turn lies within the buffer. -/
theorem exists_window (hpos : pos ≤ lastStart) :
    ∃ window, Stretch.within? buffer pos (lastStart + 1) = some window :=
  Stretch.exists_within? (by omega) (by omega)

/-- What a turn compares with the tail of the needle lies within the buffer. -/
theorem exists_behind {window : Stretch buffer} (hstop : window.stop = lastStart + 1)
    (hindex : window.index? first = some start) :
    ∃ behind, Stretch.within? buffer (start + 1) (start + (tail.length + 1)) = some behind := by
  have hbounds := Stretch.bounds_of_indexFrom? hindex
  exact Stretch.exists_within? (by omega) (by omega)

/-- **A turn comes to something**: it looks at nothing that is out of bounds. -/
theorem exists_turn? (first : UInt8) (pos : Nat) :
    ∃ t, turn? buffer first tail lastStart pos = some t := by
  unfold turn?
  split
  · rename_i hpos
    obtain ⟨window, hwindow⟩ := exists_window hroom hpos
    obtain ⟨-, hstop⟩ := Stretch.within?_eq_some_iff.mp hwindow
    rw [hwindow, Option.bind_eq_bind, Option.bind_some]
    cases hindex : window.index? first with
    | none => exact ⟨_, rfl⟩
    | some start =>
      obtain ⟨behind, hbehind⟩ := exists_behind hroom hstop hindex
      dsimp only
      rw [hbehind]
      exact ⟨_, rfl⟩
  · exact ⟨_, rfl⟩

/-- What a turn from `pos` tells about the places where the needle begins. -/
def Turn.Tells (needle haystack : Bytes) (pos : Nat) : Turn → Prop
  | .found start => pos ≤ start ∧ Occurs needle haystack start ∧
      ∀ j, pos ≤ j → j < start → ¬ Occurs needle haystack j
  | .absent => ∀ j, pos ≤ j → ¬ Occurs needle haystack j
  | .goOn next => ∀ j, pos ≤ j → j < next → ¬ Occurs needle haystack j

/-- **What a turn comes to is true.** -/
theorem tells_of_turn? {t : Turn} (h : turn? buffer first tail lastStart pos = some t) :
    t.Tells (first :: tail) buffer.data.toList pos := by
  have hlast : ∀ j, lastStart < j → ¬ Occurs (first :: tail) buffer.data.toList j := by
    refine fun j hj => not_occurs_of_length_lt (List.cons_ne_nil _ _) ?_
    rw [List.length_cons, length_data_toList]
    omega
  obtain ⟨hpos, rfl⟩ | ⟨window, rfl, hstop, hindex, rfl⟩ |
    ⟨window, behind, start, rfl, hstop, hindex, hfrom, hto, rfl⟩ := turn?_cases h
  · exact fun j hj => hlast j (Nat.lt_of_lt_of_le hpos hj)
  · have hclear := Stretch.getElem?_of_indexFrom?_eq_none hindex
    intro j hj hocc
    rcases Nat.lt_or_ge lastStart j with hlt | hle
    · exact hlast j hlt hocc
    · exact hclear j hj (by omega) (occurs_cons_iff.mp hocc).1
  · obtain ⟨hfirst, hclear⟩ := Stretch.getElem?_of_indexFrom? hindex
    have hbefore : ∀ j, window.start ≤ j → j < start →
        ¬ Occurs (first :: tail) buffer.data.toList j :=
      fun j hj hlt hocc => hclear j hj hlt (occurs_cons_iff.mp hocc).1
    have hle := (Stretch.bounds_of_indexFrom? hindex).1
    have hbehind : behind.octets = tail ↔ Occurs tail buffer.data.toList (start + 1) := by
      rw [← hfrom]
      exact Stretch.octets_eq_iff (by omega)
    split
    · rename_i hoctets
      exact ⟨hle, occurs_cons_iff.mpr ⟨hfirst, hbehind.mp hoctets⟩, hbefore⟩
    · rename_i hoctets
      intro j hj hlt hocc
      rcases Nat.lt_or_eq_of_le (Nat.le_of_lt_succ hlt) with hlt | rfl
      · exact hbefore j hj hlt hocc
      · exact hoctets (hbehind.mpr (occurs_cons_iff.mp hocc).2)

/-! ### All turns -/

/-- **The turns find the first occurrence from `pos` on.** -/
theorem searchLoop?_eq (first : UInt8) (pos : Nat) :
    searchLoop? buffer first tail lastStart pos =
      some ((find (buffer.data.toList.drop pos) (first :: tail)).map (· + pos)) := by
  have hne : first :: tail ≠ [] := List.cons_ne_nil _ _
  fun_induction searchLoop? buffer first tail lastStart pos with
  | case1 pos hturn =>
    obtain ⟨t, ht⟩ := exists_turn? hroom first pos
    exact absurd (hturn.symm.trans ht) (by simp)
  | case2 pos start hturn =>
    obtain ⟨hle, hocc, hclear⟩ := tells_of_turn? hroom hturn
    obtain ⟨n, rfl⟩ := Nat.exists_eq_add_of_le hle
    have hfirst : FirstAt (first :: tail) (buffer.data.toList.drop pos) n :=
      ⟨occurs_drop_iff.mpr hocc, fun j hj hocc' =>
        hclear (pos + j) (Nat.le_add_right _ _) (by omega) (occurs_drop_iff.mp hocc')⟩
    rw [(find_eq_some_iff hne).mpr hfirst, Option.map_some, Nat.add_comm]
  | case3 pos hturn =>
    have hclear := tells_of_turn? hroom hturn
    have hnone : find (buffer.data.toList.drop pos) (first :: tail) = none :=
      (find_eq_none_iff hne).mpr fun j hocc =>
        hclear (pos + j) (Nat.le_add_right _ _) (occurs_drop_iff.mp hocc)
    rw [hnone]
    rfl
  | case4 pos next hturn hlt ih =>
    -- the octets between the two places may be left out
    have hclear := tells_of_turn? hroom hturn
    obtain ⟨n, rfl⟩ := Nat.exists_eq_add_of_le (Nat.le_of_lt hlt.1)
    have hbetween : ∀ j < n, ¬ Occurs (first :: tail) (buffer.data.toList.drop pos) j :=
      fun j hj hocc => hclear (pos + j) (Nat.le_add_right _ _) (by omega) (occurs_drop_iff.mp hocc)
    rw [ih, find_eq_map_find_drop hne hbetween, List.drop_drop, Option.map_map]
    exact congrArg (fun f => some (Option.map f _))
      (funext fun m => by simp only [Function.comp]; omega)

/-- The search goes on from `next` behind a turn from `pos`. -/
def GoesOn (buffer : ByteArray) (first : UInt8) (tail : Bytes) (lastStart pos next : Nat) : Prop :=
  turn? buffer first tail lastStart pos = some (.goOn next)

/-- **The needle begins nowhere before the place that a search has come to.** -/
theorem not_occurs_of_turns (h : ReflTransGen (GoesOn buffer first tail lastStart) i pos) :
    ∀ j, i ≤ j → j < pos → ¬ Occurs (first :: tail) buffer.data.toList j := by
  induction h with
  | refl => exact fun j hij hji => absurd hji (Nat.not_lt.mpr hij)
  | tail _ hturn ih =>
    intro j hij hj
    rcases Nat.lt_or_ge j _ with hlt | hle
    · exact ih j hij hlt
    · exact tells_of_turn? hroom hturn j hle hj

end Turns

/-- **The turns of a search end.** -/
theorem exists_last_turn (buffer : ByteArray) (first : UInt8) (tail : Bytes) (lastStart pos : Nat) :
    ∃ last, ReflTransGen (GoesOn buffer first tail lastStart) pos last ∧
      ∀ next, ¬ GoesOn buffer first tail lastStart last next := by
  by_cases h : ∃ next, GoesOn buffer first tail lastStart pos next
  · obtain ⟨next, hnext⟩ := h
    -- a turn that goes on comes closer to the last index
    have hlt := lt_of_goOn hnext
    obtain ⟨last, hturns, hlast⟩ := exists_last_turn buffer first tail lastStart next
    exact ⟨last, .head hnext hturns, hlast⟩
  · exact ⟨pos, .refl, fun next hnext => h ⟨next, hnext⟩⟩
termination_by lastStart + 1 - pos

/-! ### The answer -/

theorem difference?_eq (h : j ≤ i) : difference? i j = some (i - j) := if_pos h

/-- **A search of packed octets is a search of the byte string from the index on**, and never
reaches out of bounds. -/
theorem search?_eq (buffer : ByteArray) (needle : Bytes) (i : Nat) :
    search? buffer needle i = some ((find (buffer.data.toList.drop i) needle).map (· + i)) := by
  cases needle with
  | nil => rfl
  | cons first tail =>
    simp only [search?]
    split
    · rename_i hsize
      have hnone : find (buffer.data.toList.drop i) (first :: tail) = none := by
        refine (find_eq_none_iff (List.cons_ne_nil _ _)).mpr fun j =>
          not_occurs_of_length_lt (List.cons_ne_nil _ _) ?_
        rw [List.length_drop, List.length_cons, length_data_toList]
        omega
      rw [hnone]
      rfl
    · rename_i hsize
      have hle : tail.length + 1 ≤ buffer.size := by omega
      rw [difference?_eq hle, Option.bind_eq_bind, Option.bind_some]
      exact searchLoop?_eq (Nat.sub_add_cancel hle) first i

/-- What is found is what the search of the byte string finds. -/
theorem findFrom_eq (buffer : ByteArray) (needle : Bytes) (i : Nat) :
    findFrom buffer needle i = (find (buffer.data.toList.drop i) needle).map (· + i) := by
  rw [findFrom, search?_eq]
  rfl

/-- **A search answers the first occurrence and stays within bounds.** It answers an index exactly
when the needle is not empty and stands there and at no lower index, and none exactly when the
needle is empty or stands nowhere. The search of packed octets answers the same, so that it ends and
nothing that it looks at is out of bounds. In detail, for a needle that is not longer than the
haystack: the difference of their lengths is the last index with room for the needle; the turns end;
and at each place they come to

* the needle stands at no lower index;
* a further turn comes closer to the end;
* the window from there up to the last index lies within the haystack, and so does what stands
  behind each place in it that is compared with the needle. -/
theorem search_first (haystack needle : Bytes) :
    (∀ i, find haystack needle = some i ↔ needle ≠ [] ∧ FirstAt needle haystack i) ∧
    (find haystack needle = none ↔ needle = [] ∨ ∀ i, ¬ Occurs needle haystack i) ∧
    search? haystack.toByteArray needle 0 = some (find haystack needle) ∧
    ∀ first tail, needle = first :: tail → needle.length ≤ haystack.length →
      ∃ lastStart, difference? haystack.toByteArray.size needle.length = some lastStart ∧
        lastStart + needle.length = haystack.length ∧
        let Next := GoesOn haystack.toByteArray first tail lastStart
        (∃ last, ReflTransGen Next 0 last ∧ ∀ next, ¬ Next last next) ∧
        ∀ pos, ReflTransGen Next 0 pos →
          (∀ j < pos, ¬ Occurs needle haystack j) ∧
          (∀ next, Next pos next → pos < next ∧ next ≤ lastStart + 1) ∧
          (pos ≤ lastStart → ∃ window,
            Stretch.within? haystack.toByteArray pos (lastStart + 1) = some window ∧
            ∀ start, window.index? first = some start → ∃ behind,
              Stretch.within? haystack.toByteArray (start + 1) (start + needle.length) =
                some behind) := by
  have hoctets : haystack.toByteArray.data.toList = haystack := by simp
  have hsize : haystack.toByteArray.size = haystack.length := by simp
  refine ⟨fun i => ?_, ?_, ?_, ?_⟩
  · by_cases hne : needle = []
    · simp [hne]
    · rw [find_eq_some_iff hne]
      exact (and_iff_right hne).symm
  · by_cases hne : needle = []
    · simp [hne]
    · rw [find_eq_none_iff hne]
      exact (or_iff_right hne).symm
  · rw [search?_eq, hoctets, List.drop_zero]
    simp
  · rintro first tail rfl hle
    have hroom : haystack.length - (first :: tail).length + (tail.length + 1) =
        haystack.toByteArray.size := by rw [hsize]; exact Nat.sub_add_cancel hle
    refine ⟨haystack.length - (first :: tail).length, ?_, Nat.sub_add_cancel hle,
      exists_last_turn _ _ _ _ _, fun pos hturns => ⟨fun j hj => ?_, fun next => lt_of_goOn,
        fun hpos => ?_⟩⟩
    · rw [hsize]
      exact difference?_eq hle
    · have hclear := not_occurs_of_turns hroom hturns j (Nat.zero_le j) hj
      rwa [hoctets] at hclear
    · obtain ⟨window, hwindow⟩ := exists_window hroom hpos
      obtain ⟨-, hstop⟩ := Stretch.within?_eq_some_iff.mp hwindow
      exact ⟨window, hwindow, fun start hindex => exists_behind hroom hstop hindex⟩

/-- A needle whose first octets come once more before it stands. -/
example : find [97, 97, 97, 98] [97, 97, 98] = some 1 := by decide

end Mjpeg.Bytes
