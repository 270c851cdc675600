import Mjpeg.Proofs.Pieces

/-!
# Splitting at a delimiter

A split is the leftmost cut within its limit, and its rest stands behind the pieces unless it is
empty (`split_of_isCutWithin`). There is one such cut, so a split can be computed from any cut that
is at hand: one without delimiters (`split_of_forall_not_occurs`), one without a limit
(`split_of_isCut`), or one of a single piece (`split_one_of_firstAt`).

Nothing is lost in a split. Joining the pieces at the delimiter gives the data back, but for the
delimiter behind the last piece when nothing follows it (`intercalate_split`). The views of the
pieces lie within the data and show these pieces (`splitShared?_eq`). A split with a limit begins
like the one without, which goes on with what is left (`split_none_eq`).
-/

namespace Mjpeg.Bytes

variable {d data piece rest : Bytes} {pieces : List Bytes} {limit : Option Nat} {pos : Nat}

/-! ### From cuts to splits -/

/-- The last piece, unless it is empty. -/
def unlessEmpty (rest : Bytes) : List Bytes := if rest = [] then [] else [rest]

/-- **Splitting yields the pieces of the leftmost cut within the limit**, and its rest unless that
is empty. -/
theorem split_of_isCutWithin (h : IsCutWithin limit d data pieces rest) (hne : d ≠ []) :
    split data d limit = pieces ++ unlessEmpty rest := by
  obtain ⟨rfl, rfl⟩ := h.eq (Splits.isCutWithin_toPieces data hne limit) hne
  simp only [split, unlessEmpty, List.isEmpty_iff]
  split
  · rw [List.append_nil]
  · rfl

/-- Splitting without a limit yields the pieces of the leftmost cut and a rest that is not
empty. -/
theorem split_of_isCut (h : IsCut d data pieces rest) (hne : d ≠ []) :
    split data d none = pieces ++ unlessEmpty rest :=
  split_of_isCutWithin (isCutWithin_none_iff.mpr h) hne

/-- Splitting once yields what stands before the first delimiter and what stands behind. -/
theorem split_one_of_firstAt (h : FirstAt d data pos) (hne : d ≠ []) :
    split data d (some 1) = data.take pos :: unlessEmpty (data.drop (pos + d.length)) := by
  have hcut : IsCutWithin (some 1) d data [data.take pos] (data.drop (pos + d.length)) := by
    refine ⟨?_, ?_, ?_, Or.inl rfl⟩
    · rw [closed_cons, closed_nil, List.append_nil, List.append_assoc, ← h.occurs.drop_eq,
        List.take_append_drop]
    · exact firstClosed_cons_iff.mpr ⟨h.take hne, firstClosed_nil d⟩
    · simp
  exact split_of_isCutWithin hcut hne

/-- Splitting a byte string without delimiters leaves it whole. -/
theorem split_of_forall_not_occurs (h : ∀ i, ¬ Occurs d data i) (hne : d ≠ [])
    (limit : Option Nat) : split data d limit = unlessEmpty data :=
  split_of_isCutWithin ⟨rfl, firstClosed_nil d, fun _ _ => Nat.zero_le _, Or.inr h⟩ hne

/-- A limit of no pieces leaves the data whole. -/
theorem split_zero (hne : d ≠ []) : split data d (some 0) = unlessEmpty data :=
  split_of_isCutWithin ⟨rfl, firstClosed_nil d, fun _ _ => Nat.zero_le _, Or.inl rfl⟩ hne

/-- An empty delimiter separates nothing. -/
theorem split_of_nil (h : d = []) : split data d limit = unlessEmpty data := by
  have hnext : (Splits.start data d limit).next? = none := by
    simp [Splits.next?, Splits.start, h]
  have hpieces : (Splits.start data d limit).toPieces = ([], Splits.start data d limit) := by
    rw [Splits.toPieces]
    cases (Splits.start data d limit).rest.length with
    | zero => rfl
    | succ fuel =>
      rw [Splits.takePieces, hnext]
      rfl
  simp only [split, hpieces, unlessEmpty, List.isEmpty_iff]
  rfl

/-! ### Joining -/

/-- Pieces joined at the delimiter are the pieces closed by it and the last one. -/
theorem intercalate_append_singleton (d : Bytes) (pieces : List Bytes) (rest : Bytes) :
    d.intercalate (pieces ++ [rest]) = closed d pieces ++ rest := by
  induction pieces with
  | nil => simp
  | cons piece pieces ih =>
    obtain ⟨next, later, heq⟩ := List.exists_cons_of_ne_nil (l := pieces ++ [rest]) (by simp)
    rw [List.cons_append, heq, List.intercalate_cons_cons, ← heq, ih, closed_cons]
    simp only [List.append_assoc]

/-- **Joining the pieces gives the data back**, with a delimiter behind the last one if there is
one and nothing follows it. -/
theorem intercalate_split (h : IsCutWithin limit d data pieces rest) (hne : d ≠ []) :
    d.intercalate (split data d limit) ++ (if rest = [] ∧ pieces ≠ [] then d else []) = data := by
  rw [split_of_isCutWithin h hne, unlessEmpty, h.joined]
  by_cases hrest : rest = []
  · subst hrest
    rcases List.eq_nil_or_concat pieces with rfl | ⟨init, last, rfl⟩
    · simp
    · rw [if_pos rfl, if_pos ⟨rfl, by simp⟩, List.append_nil, List.concat_eq_append,
        intercalate_append_singleton]
      simp
  · rw [if_neg hrest, if_neg fun hboth => hrest hboth.1, List.append_nil,
      intercalate_append_singleton]

/-- The joined pieces stand at the start of the data, whatever the delimiter is. -/
theorem intercalate_split_isPrefix (data d : Bytes) (limit : Option Nat) :
    d.intercalate (split data d limit) <+: data := by
  by_cases hne : d = []
  · rw [split_of_nil hne, unlessEmpty]
    split
    · exact List.nil_prefix
    · simp
  · have hcut := Splits.isCutWithin_toPieces data hne limit
    conv_rhs => rw [← intercalate_split hcut hne]
    exact List.prefix_append _ _

/-! ### Views of shared data -/

/-- A view of a piece shows it. -/
theorem read?_append (before piece after : Bytes) :
    View.read? ⟨before.length, piece.length⟩ (before ++ (piece ++ after)) = some piece := by
  have hwithin : before.length + piece.length ≤ (before ++ (piece ++ after)).length := by
    rw [List.length_append, List.length_append]
    omega
  rw [View.read?, if_pos hwithin, List.drop_left, List.take_left]

/-- Views show the pieces one behind the other. -/
theorem mapM_read?_views (d before : Bytes) (pieces : List Bytes) (after : Bytes) :
    (views d before.length pieces).mapM
      (View.read? · (before ++ (d.intercalate pieces ++ after))) = some pieces := by
  induction pieces generalizing before with
  | nil => rfl
  | cons piece pieces ih =>
    cases pieces with
    | nil =>
      rw [List.intercalate_singleton, views, views, List.mapM_cons, read?_append]
      rfl
    | cons next pieces =>
      -- the views behind the first piece are those from behind its delimiter on
      have hlater := ih (before ++ (piece ++ d))
      rw [List.length_append, List.length_append, ← Nat.add_assoc] at hlater
      rw [views, List.intercalate_cons_cons, List.mapM_cons]
      simp only [List.append_assoc] at hlater ⊢
      rw [read?_append, hlater]
      rfl

/-- **The pieces of shared data are those of the split.** -/
theorem splitShared?_eq (data d : Bytes) (limit : Option Nat) :
    splitShared? data d limit = some (split data d limit) := by
  obtain ⟨after, hafter⟩ := intercalate_split_isPrefix data d limit
  have hviews := mapM_read?_views d [] (split data d limit) after
  rwa [hafter] at hviews

/-! ### Limits -/

/-- **A split goes on behind its limit as one without.** -/
theorem split_none_eq (h : IsCutWithin limit d data pieces rest) (hne : d ≠ []) :
    split data d none = pieces ++ split rest d none := by
  have hrest := Splits.isCut_toPieces rest hne
  rw [h.joined, split_of_isCut (hrest.prepend h.first) hne, split_of_isCut hrest hne,
    List.append_assoc]

/-! ### The whole of it -/

/-- **Splitting is the leftmost cut within the limit.** At a delimiter that is not empty the data
are cut into pieces, of which there are no more than the limit allows, and a rest without
delimiters unless that many pieces were taken; there is one such cut. What is answered are the
pieces and the rest unless it is empty. They join to the data, but for the last delimiter if
nothing follows it, and a split without a limit goes on with the rest. An empty delimiter or a
limit of no pieces leave the data whole. Views of shared data show the same pieces. -/
theorem split_leftmost (data d : Bytes) (limit : Option Nat) :
    (d ≠ [] → ∃ pieces rest, IsCutWithin limit d data pieces rest ∧
      (∀ pieces' rest', IsCutWithin limit d data pieces' rest' →
        pieces' = pieces ∧ rest' = rest) ∧
      split data d limit = pieces ++ unlessEmpty rest ∧
      d.intercalate (split data d limit) ++ (if rest = [] ∧ pieces ≠ [] then d else []) = data ∧
      split data d none = pieces ++ split rest d none) ∧
    (d = [] ∨ limit = some 0 → split data d limit = unlessEmpty data) ∧
    splitShared? data d limit = some (split data d limit) := by
  refine ⟨fun hne => ?_, fun hwhole => ?_, splitShared?_eq data d limit⟩
  · have hcut := Splits.isCutWithin_toPieces data hne limit
    exact ⟨_, _, hcut, fun pieces' rest' hcut' => hcut'.eq hcut hne,
      split_of_isCutWithin hcut hne, intercalate_split hcut hne, split_none_eq hcut hne⟩
  · by_cases hne : d = []
    · exact split_of_nil hne
    · obtain rfl := hwhole.resolve_left hne
      exact split_zero hne

/-- A delimiter that overlaps itself, next to one like it, and a limit before its last
occurrence. -/
theorem split_leftmost_overlapping :
    let data : Bytes := [1, 1, 1, 2, 1, 1, 3, 1, 1]
    let d : Bytes := [1, 1]
    d ≠ [] ∧ split data d (some 2) = [[], [1, 2], [3, 1, 1]] ∧
      d.intercalate (split data d (some 2)) = data ∧
      split data d none = [[], [1, 2]] ++ split [3, 1, 1] d none ∧
      splitShared? data d (some 2) = some [[], [1, 2], [3, 1, 1]] := by
  intro data d
  have hne : d ≠ [] := by decide
  obtain ⟨hall, -, hshared⟩ := split_leftmost data d (some 2)
  obtain ⟨pieces, rest, -, hunique, hsplit, hjoined, hnone⟩ := hall hne
  have hcut : IsCutWithin (some 2) d data [[], [1, 2]] [3, 1, 1] := by
    refine ⟨rfl, ?_, by simp, Or.inl rfl⟩
    simp only [firstClosed_cons_iff, ← find_eq_some_iff hne]
    exact ⟨by decide, by decide, firstClosed_nil d⟩
  obtain ⟨rfl, rfl⟩ := hunique _ _ hcut
  rw [if_neg (by simp), List.append_nil] at hjoined
  exact ⟨hne, hsplit, hjoined, hnone, hshared.trans (congrArg some hsplit)⟩

end Mjpeg.Bytes
