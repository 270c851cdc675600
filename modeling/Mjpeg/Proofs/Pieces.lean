import Mjpeg.Body
import Mjpeg.Proofs.Occurrence

/-!
# The leftmost cut of a byte string

`IsCut d data pieces rest` says what cutting a byte string at a delimiter means, without any
scan: the pieces, each closed by `d`, and the rest make up the data; behind each piece stands
the first delimiter that one meets from its start on; and the rest holds none. There is one
such cut (`IsCut.eq`), and it goes on where it stopped when bytes are appended
(`IsCut.append`). `IsCutWithin` is a cut that may stop earlier, after as many pieces as a limit
allows; there is one such cut for each limit (`IsCutWithin.eq`).

A cursor accounts for what it takes (`Splits.Taken`), with the number of bytes passed and the
number of pieces still allowed. Run to its end it yields the leftmost cut within its limit
(`Splits.isCutWithin_toPieces`), so the segments and the remainder of a body are a leftmost cut
(`Body.isCut`).
-/

namespace Mjpeg.Bytes

variable {d data more piece rest rest' : Bytes} {pieces pieces' later : List Bytes}

/-- The pieces in order, each with the delimiter that closes it. -/
def closed (d : Bytes) (pieces : List Bytes) : Bytes := pieces.flatMap (· ++ d)

@[simp] theorem closed_nil (d : Bytes) : closed d [] = [] := rfl

@[simp] theorem closed_cons (d piece : Bytes) (pieces : List Bytes) :
    closed d (piece :: pieces) = piece ++ (d ++ closed d pieces) := by
  simp [closed]

@[simp] theorem closed_append (d : Bytes) (pieces later : List Bytes) :
    closed d (pieces ++ later) = closed d pieces ++ closed d later := by
  simp [closed]

/-- The delimiter stands behind each piece, and there for the first time. -/
def FirstClosed (d : Bytes) (pieces : List Bytes) : Prop :=
  ∀ piece ∈ pieces, FirstAt d (piece ++ d) piece.length

theorem firstClosed_nil (d : Bytes) : FirstClosed d [] := fun _ h => absurd h (by simp)

theorem firstClosed_cons_iff :
    FirstClosed d (piece :: pieces) ↔
      FirstAt d (piece ++ d) piece.length ∧ FirstClosed d pieces :=
  List.forall_mem_cons

theorem FirstClosed.append (h : FirstClosed d pieces) (h' : FirstClosed d later) :
    FirstClosed d (pieces ++ later) :=
  fun piece hmem => (List.mem_append.mp hmem).elim (h piece) (h' piece)

/-- The pieces and the rest are the leftmost cut of the data at the delimiter. -/
structure IsCut (d data : Bytes) (pieces : List Bytes) (rest : Bytes) : Prop where
  joined : data = closed d pieces ++ rest
  first : FirstClosed d pieces
  last : ∀ i, ¬ Occurs d rest i

/-- A piece taken off at the first delimiter is closed by it for the first time. -/
theorem FirstAt.take {i : Nat} (h : FirstAt d data i) (hne : d ≠ []) :
    FirstAt d (data.take i ++ d) (data.take i).length := by
  have hle := h.le_length hne
  have hlen : (data.take i).length = i := List.length_take_of_le (by omega)
  have hdata : data = data.take i ++ d ++ data.drop (i + d.length) := by
    rw [List.append_assoc, ← h.occurs.drop_eq, List.take_append_drop]
  have hfirst : FirstAt d (data.take i ++ d ++ data.drop (i + d.length)) i := by
    rwa [← hdata]
  rw [hlen]
  refine hfirst.of_append ?_
  rw [List.length_append, hlen]

theorem isCut_nil (h : ∀ i, ¬ Occurs d rest i) : IsCut d rest [] rest :=
  ⟨rfl, firstClosed_nil d, h⟩

/-- Pieces closed for the first time go before a cut. -/
theorem IsCut.prepend (h : IsCut d data later rest) (hfirst : FirstClosed d pieces) :
    IsCut d (closed d pieces ++ data) (pieces ++ later) rest where
  joined := by rw [h.joined, closed_append, List.append_assoc]
  first := hfirst.append h.first
  last := h.last

/-- **A cut goes on where it stopped when bytes are appended.** -/
theorem IsCut.append (h : IsCut d data pieces rest) (h' : IsCut d (rest ++ more) later rest') :
    IsCut d (data ++ more) (pieces ++ later) rest' := by
  rw [h.joined, List.append_assoc]
  exact h'.prepend h.first

/-! ### Cuts that stop -/

/-- The pieces and the rest are the leftmost cut of the data that stops after as many pieces as the
limit allows, if it has one. -/
structure IsCutWithin (limit : Option Nat) (d data : Bytes) (pieces : List Bytes) (rest : Bytes) :
    Prop where
  joined : data = closed d pieces ++ rest
  first : FirstClosed d pieces
  within : ∀ n ∈ limit, pieces.length ≤ n
  last : limit = some pieces.length ∨ ∀ i, ¬ Occurs d rest i

/-- A cut without a limit goes on to the last delimiter. -/
theorem isCutWithin_none_iff : IsCutWithin none d data pieces rest ↔ IsCut d data pieces rest := by
  constructor
  · intro h
    exact ⟨h.joined, h.first, h.last.resolve_left (by simp)⟩
  · intro h
    exact ⟨h.joined, h.first, by simp, Or.inr h.last⟩

variable {limit : Option Nat}

/-- The first delimiter stands behind the first piece. -/
theorem IsCutWithin.firstAt (h : IsCutWithin limit d data (piece :: pieces) rest) (hne : d ≠ []) :
    FirstAt d data piece.length := by
  have hfirst := (firstClosed_cons_iff.mp h.first).1.append hne (closed d pieces ++ rest)
  have hdata : data = piece ++ d ++ (closed d pieces ++ rest) := by
    rw [h.joined, closed_cons]
    simp only [List.append_assoc]
  rwa [hdata]

/-- Behind the first piece stands a cut that may take one piece less. -/
theorem IsCutWithin.tail (h : IsCutWithin limit d data (piece :: pieces) rest) :
    IsCutWithin (limit.map (· - 1)) d (closed d pieces ++ rest) pieces rest where
  joined := rfl
  first := (firstClosed_cons_iff.mp h.first).2
  within := fun n hn => by
    obtain ⟨m, hm, rfl⟩ := Option.map_eq_some_iff.mp hn
    have hle := h.within m hm
    rw [List.length_cons] at hle
    omega
  last := h.last.imp_left fun hlimit => by rw [hlimit, Option.map_some, List.length_cons,
    Nat.add_sub_cancel]

/-- Where no piece was taken none can be. -/
theorem IsCutWithin.eq_nil (h : IsCutWithin limit d data [] rest)
    (h' : IsCutWithin limit d data pieces' rest') (hne : d ≠ []) : pieces' = [] := by
  have hdata : data = rest := h.joined
  cases pieces' with
  | nil => rfl
  | cons piece pieces' =>
    rcases h.last with hlimit | hnone
    · exact absurd (h'.within 0 hlimit) (by simp)
    · exact absurd (h'.firstAt hne).occurs (hdata ▸ hnone _)

/-- **There is one leftmost cut within a limit.** -/
theorem IsCutWithin.eq (h : IsCutWithin limit d data pieces rest)
    (h' : IsCutWithin limit d data pieces' rest') (hne : d ≠ []) :
    pieces = pieces' ∧ rest = rest' := by
  induction pieces generalizing limit data pieces' with
  | nil =>
    obtain rfl := h.eq_nil h' hne
    exact ⟨rfl, h.joined.symm.trans h'.joined⟩
  | cons piece pieces ih =>
    cases pieces' with
    | nil => exact absurd (h'.eq_nil h hne) (by simp)
    | cons piece' pieces' =>
      -- both first pieces end at the first delimiter, so they are equal and so is what follows
      have hlen : piece.length = piece'.length := (h.firstAt hne).eq (h'.firstAt hne)
      have hboth : piece ++ (d ++ (closed d pieces ++ rest)) =
          piece' ++ (d ++ (closed d pieces' ++ rest')) := by
        have := h.joined.symm.trans h'.joined
        simpa only [closed_cons, List.append_assoc] using this
      obtain ⟨rfl, htail⟩ := List.append_inj hboth hlen
      have htail' := h'.tail
      rw [← List.append_cancel_left htail] at htail'
      obtain ⟨rfl, rfl⟩ := ih h.tail htail'
      exact ⟨rfl, rfl⟩

/-- The first delimiter stands behind the first piece of a cut. -/
theorem IsCut.firstAt (h : IsCut d data (piece :: pieces) rest) (hne : d ≠ []) :
    FirstAt d data piece.length :=
  (isCutWithin_none_iff.mpr h).firstAt hne

/-- **There is one leftmost cut.** -/
theorem IsCut.eq (h : IsCut d data pieces rest) (h' : IsCut d data pieces' rest') (hne : d ≠ []) :
    pieces = pieces' ∧ rest = rest' :=
  (isCutWithin_none_iff.mpr h).eq (isCutWithin_none_iff.mpr h') hne

/-! ### The cursor -/

namespace Splits

variable {s s' s'' : Splits}

/-- From `s` the cursor took the pieces and came to `s'`. -/
structure Taken (s : Splits) (pieces : List Bytes) (s' : Splits) : Prop where
  delimiter : s'.delimiter = s.delimiter
  rest : s.rest = closed s.delimiter pieces ++ s'.rest
  first : FirstClosed s.delimiter pieces
  remaining : s'.remaining = s.remaining.map (· - pieces.length)
  within : ∀ limit ∈ s.remaining, pieces.length ≤ limit
  consumed : s'.consumed = s.consumed + (closed s.delimiter pieces).length

theorem Taken.refl (s : Splits) : Taken s [] s where
  delimiter := rfl
  rest := rfl
  first := firstClosed_nil _
  remaining := by cases s.remaining <;> rfl
  within := fun _ _ => Nat.zero_le _
  consumed := rfl

theorem Taken.trans (h : Taken s pieces s') (h' : Taken s' later s'') :
    Taken s (pieces ++ later) s'' where
  delimiter := h'.delimiter.trans h.delimiter
  rest := by rw [h.rest, h'.rest, h.delimiter, closed_append, List.append_assoc]
  first := h.first.append (h.delimiter ▸ h'.first)
  remaining := by
    rw [h'.remaining, h.remaining, Option.map_map]
    exact congrArg (Option.map · _)
      (funext fun n => by simp only [Function.comp, List.length_append]; omega)
  within := fun limit hmem => by
    have hle := h.within limit hmem
    have hle' := h'.within (limit - pieces.length) (h.remaining ▸ Option.mem_map_of_mem _ hmem)
    rw [List.length_append]
    omega
  consumed := by
    rw [h'.consumed, h.consumed, h.delimiter, closed_append, List.length_append]
    omega

/-- Nothing is left to take exactly when the limit is reached or no delimiter is left. -/
theorem next?_eq_none_iff (hne : s.delimiter ≠ []) :
    s.next? = none ↔ s.remaining = some 0 ∨ ∀ i, ¬ Occurs s.delimiter s.rest i := by
  unfold next?
  by_cases hlimit : s.remaining = some 0
  · simp [hlimit]
  · rw [if_neg hlimit, ← find_eq_none_iff hne]
    cases hfind : find s.rest s.delimiter <;> simp [hlimit]

/-- One step of the cursor takes the bytes before the first delimiter. -/
theorem taken_of_next? (h : s.next? = some (piece, s')) : Taken s [piece] s' := by
  unfold next? at h
  split at h
  · exact absurd h (by simp)
  · rename_i hlimit
    split at h
    · exact absurd h (by simp)
    · rename_i pos hfind
      have hne : s.delimiter ≠ [] := fun hnil => by simp [hnil] at hfind
      have hfirst := (find_eq_some_iff hne).mp hfind
      have hle := hfirst.le_length hne
      simp only [Option.some.injEq, Prod.mk.injEq] at h
      obtain ⟨rfl, rfl⟩ := h
      refine ⟨rfl, ?_, ?_, rfl, ?_, ?_⟩
      · rw [closed_cons, closed_nil, List.append_nil, List.append_assoc, ← hfirst.occurs.drop_eq,
          List.take_append_drop]
      · exact firstClosed_cons_iff.mpr ⟨hfirst.take hne, firstClosed_nil _⟩
      · intro limit hmem
        have hpos : limit ≠ 0 := fun hzero => hlimit (hzero ▸ hmem)
        exact Nat.one_le_iff_ne_zero.mpr hpos
      · rw [closed_cons, closed_nil, List.append_nil, List.length_append,
          List.length_take_of_le (by omega)]

theorem length_rest_lt_of_next? (h : s.next? = some (piece, s')) :
    s'.rest.length < s.rest.length := by
  have htaken := taken_of_next? h
  have hrest := congrArg List.length htaken.rest
  have hpos : 0 < s.delimiter.length := by
    refine List.length_pos_iff.mpr fun hnil => ?_
    simp [next?, hnil] at h
  rw [closed_cons, closed_nil, List.append_nil, List.length_append, List.length_append] at hrest
  omega

/-- With enough fuel the cursor is run to its end. -/
theorem takePieces_taken (fuel : Nat) (s : Splits) (hfuel : s.rest.length ≤ fuel)
    (before : List Bytes) :
    ∃ pieces last, takePieces fuel before s = (before.reverse ++ pieces, last) ∧
      Taken s pieces last ∧ last.next? = none := by
  induction fuel generalizing s before with
  | zero =>
    have hrest : s.rest = [] := List.eq_nil_of_length_eq_zero (Nat.le_zero.mp hfuel)
    refine ⟨[], s, by simp [takePieces], Taken.refl s, ?_⟩
    simp [next?, hrest]
  | succ fuel ih =>
    rw [takePieces]
    cases hnext : s.next? with
    | none => exact ⟨[], s, by simp, Taken.refl s, hnext⟩
    | some step =>
      obtain ⟨piece, s'⟩ := step
      -- a step shortens the rest, so one unit of fuel less suffices behind it
      have hlt := length_rest_lt_of_next? hnext
      obtain ⟨pieces, last, heq, htaken, hlast⟩ := ih s' (by omega) (piece :: before)
      refine ⟨piece :: pieces, last, ?_, (taken_of_next? hnext).trans htaken, hlast⟩
      simpa using heq

/-- A cursor run to its end has taken its pieces and can take no more. -/
theorem toPieces_taken (s : Splits) :
    Taken s s.toPieces.1 s.toPieces.2 ∧ s.toPieces.2.next? = none := by
  obtain ⟨pieces, last, heq, htaken, hlast⟩ :=
    takePieces_taken s.rest.length s (Nat.le_refl _) []
  have hpieces : s.toPieces = (pieces, last) := by simpa [toPieces] using heq
  rw [hpieces]
  exact ⟨htaken, hlast⟩

/-- **The cursor yields the leftmost cut within its limit.** -/
theorem isCutWithin_toPieces (data : Bytes) (hne : d ≠ []) (limit : Option Nat) :
    IsCutWithin limit d data (start data d limit).toPieces.1
      (start data d limit).toPieces.2.rest := by
  obtain ⟨htaken, hlast⟩ := toPieces_taken (start data d limit)
  refine ⟨htaken.rest, htaken.first, htaken.within, ?_⟩
  rcases (next?_eq_none_iff (htaken.delimiter ▸ hne)).mp hlast with hlimit | hrest
  · left
    rw [htaken.remaining] at hlimit
    obtain ⟨n, hn, hzero⟩ := Option.map_eq_some_iff.mp hlimit
    obtain rfl : limit = some n := hn
    have hle := htaken.within n rfl
    rw [Option.some.injEq]
    omega
  · right
    rwa [htaken.delimiter] at hrest

/-- **Without a limit the cursor yields the leftmost cut.** -/
theorem isCut_toPieces (data : Bytes) (hne : d ≠ []) :
    IsCut d data (start data d none).toPieces.1 (start data d none).toPieces.2.rest :=
  isCutWithin_none_iff.mp (isCutWithin_toPieces data hne none)

end Splits

end Mjpeg.Bytes

/-! ### The segments of a body -/

namespace Mjpeg.Boundary

theorem delimiter_ne_nil (b : Boundary) : b.delimiter ≠ [] := List.cons_ne_nil _ _

end Mjpeg.Boundary

namespace Mjpeg.Body

open Bytes

variable {b : Boundary} {body more rest : Bytes} {pieces : List Bytes}

/-- **The segments and the remainder of a body are its leftmost cut at the delimiter.** -/
theorem isCut (b : Boundary) (body : Bytes) :
    IsCut b.delimiter body (segments b body) (remainder b body) :=
  Splits.isCut_toPieces body b.delimiter_ne_nil

theorem eq_of_isCut (h : IsCut b.delimiter body pieces rest) :
    segments b body = pieces ∧ remainder b body = rest :=
  (isCut b body).eq h b.delimiter_ne_nil

/-- Segments at the start of a body, and those of what follows. -/
theorem segments_closed_append (h : FirstClosed b.delimiter pieces) (body : Bytes) :
    segments b (closed b.delimiter pieces ++ body) = pieces ++ segments b body ∧
      remainder b (closed b.delimiter pieces ++ body) = remainder b body :=
  eq_of_isCut ((isCut b body).prepend h)

/-- **The segments of a body that goes on are those it had and those of the remainder with
what was appended.** -/
theorem segments_append (b : Boundary) (body more : Bytes) :
    segments b (body ++ more) = segments b body ++ segments b (remainder b body ++ more) ∧
      remainder b (body ++ more) = remainder b (remainder b body ++ more) :=
  eq_of_isCut ((isCut b body).append (isCut b (remainder b body ++ more)))

/-- The frames of a body that goes on begin with those it had. -/
theorem frames_append (b : Boundary) (body more : Bytes) :
    frames b (body ++ more) = frames b body ++ frames b (remainder b body ++ more) := by
  rw [frames, (segments_append b body more).1, List.filterMap_append]
  rfl

theorem length_remainder_le (b : Boundary) (body : Bytes) :
    (remainder b body).length ≤ body.length := by
  have hlength := congrArg List.length (isCut b body).joined
  rw [List.length_append] at hlength
  omega

theorem segments_eq_nil_of_forall_not_occurs (h : ∀ i, ¬ Occurs b.delimiter body i) :
    segments b body = [] ∧ remainder b body = body :=
  eq_of_isCut (isCut_nil h)

end Mjpeg.Body
