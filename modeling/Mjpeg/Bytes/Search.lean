import Mjpeg.Bytes

/-!
# The first occurrence of a byte string

`find` answers the least index at which a needle occurs in a haystack. The empty needle
occurs nowhere: a delimiter that takes no room cannot separate anything.

`search?` is the same search over packed octets, from a given index on. It is what an
accumulation buffer of many megabytes is scanned with, and answers an index of the buffer
itself. A turn of it skips to the next place where the first octet of the needle stands, and
compares what stands behind it. Every stretch of the buffer that it looks at is checked, and one
that is out of bounds ends the search with no answer at all. `findFrom` is the index it answers.
-/

namespace Mjpeg.Bytes

/-- The least `i + n` such that `needle` occurs at index `n` of the list. -/
private def findLoop (needle : Bytes) (i : Nat) : Bytes → Option Nat
  | [] => none
  | b :: bs => if needle.isPrefixOf (b :: bs) then some i else findLoop needle (i + 1) bs

/-- The index of the first occurrence of `needle`; the empty needle occurs nowhere. -/
def find (haystack needle : Bytes) : Option Nat :=
  if needle.isEmpty then none else findLoop needle 0 haystack

private theorem findLoop_eq_map (needle : Bytes) (i : Nat) (haystack : Bytes) :
    findLoop needle i haystack = (findLoop needle 0 haystack).map (· + i) := by
  induction haystack generalizing i with
  | nil => rfl
  | cons b bs ih =>
    simp only [findLoop]
    split
    · simp
    · rw [ih (i + 1), ih (0 + 1), Option.map_map]
      exact congrArg (Option.map · _) (funext fun n => by simp only [Function.comp]; omega)

@[simp] theorem find_nil_right (haystack : Bytes) : find haystack [] = none := rfl

@[simp] theorem find_nil_left (needle : Bytes) : find [] needle = none := by
  simp [find, findLoop]

theorem find_cons {needle : Bytes} (hne : needle ≠ []) (b : UInt8) (bs : Bytes) :
    find (b :: bs) needle =
      if needle.isPrefixOf (b :: bs) then some 0 else (find bs needle).map (· + 1) := by
  have hempty : needle.isEmpty = false := by simpa using hne
  simp only [find, hempty, findLoop, Bool.false_eq_true, if_false]
  rw [findLoop_eq_map needle (0 + 1) bs]

/-! ### Packed octets -/

/-- A stretch of packed octets, within their bounds. -/
structure Stretch (buffer : ByteArray) where
  start : Nat
  /-- The index behind its last octet. -/
  stop : Nat
  start_le : start ≤ stop
  stop_le : stop ≤ buffer.size

namespace Stretch

variable {buffer : ByteArray} {octet : UInt8} {i j : Nat}

/-- The stretch from `start` up to `stop`, unless these are out of order or out of bounds. -/
def within? (buffer : ByteArray) (start stop : Nat) : Option (Stretch buffer) :=
  if h : start ≤ stop ∧ stop ≤ buffer.size then some ⟨start, stop, h.1, h.2⟩ else none

/-- The octets of the stretch. -/
def octets (s : Stretch buffer) : Bytes := (buffer.extract s.start s.stop).data.toList

/-- The least index of the buffer, from `i` on and within the stretch, at which the octet
stands. -/
def indexFrom? (s : Stretch buffer) (octet : UInt8) (i : Nat) : Option Nat :=
  if h : i < s.stop then
    have := s.stop_le
    if buffer[i] = octet then some i else s.indexFrom? octet (i + 1)
  else none
termination_by s.stop - i

/-- The least index of the buffer, within the stretch, at which the octet stands. -/
def index? (s : Stretch buffer) (octet : UInt8) : Option Nat := s.indexFrom? octet s.start

theorem within?_eq_some_iff {start stop : Nat} {s : Stretch buffer} :
    within? buffer start stop = some s ↔ s.start = start ∧ s.stop = stop := by
  unfold within?
  split
  · rw [Option.some.injEq]
    constructor
    · rintro rfl
      exact ⟨rfl, rfl⟩
    · rintro ⟨rfl, rfl⟩
      rfl
  · rename_i h
    refine iff_of_false (by simp) ?_
    rintro ⟨rfl, rfl⟩
    exact h ⟨s.start_le, s.stop_le⟩

theorem bounds_of_indexFrom? {s : Stretch buffer} (h : s.indexFrom? octet i = some j) :
    i ≤ j ∧ j < s.stop := by
  fun_induction indexFrom? s octet i with
  | case1 i hi hle hocc =>
    obtain rfl := Option.some.inj h
    exact ⟨Nat.le_refl _, hi⟩
  | case2 i hi hle hocc ih =>
    have := ih h
    omega
  | case3 i hi => exact absurd h (by simp)

end Stretch

/-- What a turn of a search comes to. -/
inductive Turn where
  /-- The needle stands at the index. -/
  | found (start : Nat)
  /-- No index is left at which the needle could begin. -/
  | absent
  /-- The search goes on from the index. -/
  | goOn (next : Nat)
  deriving Repr, DecidableEq

/-- A turn of the search for the octet `first` with `tail` behind it, for which there is room up to
the index `lastStart`; none when a stretch is out of bounds. -/
def turn? (buffer : ByteArray) (first : UInt8) (tail : Bytes) (lastStart pos : Nat) :
    Option Turn :=
  if pos ≤ lastStart then do
    let window ← Stretch.within? buffer pos (lastStart + 1)
    match window.index? first with
    | none => some .absent
    | some start =>
      let behind ← Stretch.within? buffer (start + 1) (start + (tail.length + 1))
      some (if behind.octets = tail then .found start else .goOn (start + 1))
  else some .absent

variable {buffer : ByteArray} {first : UInt8} {tail : Bytes} {lastStart pos start next : Nat}

/-- All that a turn can come to: it is past the last index; or its window does not hold the first
octet; or it compares what stands behind the first place in the window that does. -/
theorem turn?_cases {t : Turn} (h : turn? buffer first tail lastStart pos = some t) :
    (lastStart < pos ∧ t = .absent) ∨
    (∃ window : Stretch buffer, window.start = pos ∧ window.stop = lastStart + 1 ∧
      window.index? first = none ∧ t = .absent) ∨
    (∃ (window behind : Stretch buffer) (start : Nat), window.start = pos ∧
      window.stop = lastStart + 1 ∧ window.index? first = some start ∧ behind.start = start + 1 ∧
      behind.stop = start + (tail.length + 1) ∧
      t = if behind.octets = tail then .found start else .goOn (start + 1)) := by
  unfold turn? at h
  split at h
  · obtain ⟨window, hwindow, h⟩ := Option.bind_eq_some_iff.mp h
    obtain ⟨hstart, hstop⟩ := Stretch.within?_eq_some_iff.mp hwindow
    cases hindex : window.index? first with
    | none =>
      rw [hindex] at h
      exact .inr (.inl ⟨window, hstart, hstop, hindex, (Option.some.inj h).symm⟩)
    | some start =>
      rw [hindex] at h
      obtain ⟨behind, hbehind, h⟩ := Option.bind_eq_some_iff.mp h
      obtain ⟨hfrom, hto⟩ := Stretch.within?_eq_some_iff.mp hbehind
      exact .inr (.inr ⟨window, behind, start, hstart, hstop, hindex, hfrom, hto,
        (Option.some.inj h).symm⟩)
  · rename_i hpos
    exact .inl ⟨Nat.lt_of_not_le hpos, (Option.some.inj h).symm⟩

/-- A search that goes on has come closer to the last index. -/
theorem lt_of_goOn (h : turn? buffer first tail lastStart pos = some (.goOn next)) :
    pos < next ∧ next ≤ lastStart + 1 := by
  obtain ⟨-, ht⟩ | ⟨_, -, -, -, ht⟩ | ⟨window, behind, start, rfl, hstop, hindex, -, -, ht⟩ :=
    turn?_cases h
  · exact absurd ht (by simp)
  · exact absurd ht (by simp)
  · have hbounds := Stretch.bounds_of_indexFrom? hindex
    split at ht
    · exact absurd ht (by simp)
    · obtain rfl := Turn.goOn.inj ht
      omega

/-- What is found lies within the buffer. -/
theorem le_size_of_found (h : turn? buffer first tail lastStart pos = some (.found start)) :
    start + (tail.length + 1) ≤ buffer.size := by
  obtain ⟨-, ht⟩ | ⟨_, -, -, -, ht⟩ | ⟨_, behind, start', -, -, -, -, hto, ht⟩ := turn?_cases h
  · exact absurd ht (by simp)
  · exact absurd ht (by simp)
  · split at ht
    · obtain rfl := Turn.found.inj ht
      exact hto ▸ behind.stop_le
    · exact absurd ht (by simp)

/-- The turns of a search from `pos` on, and what the last of them found. -/
def searchLoop? (buffer : ByteArray) (first : UInt8) (tail : Bytes) (lastStart pos : Nat) :
    Option (Option Nat) :=
  match h : turn? buffer first tail lastStart pos with
  | none => none
  | some (.found start) => some (some start)
  | some .absent => some none
  | some (.goOn next) =>
    have := lt_of_goOn h
    searchLoop? buffer first tail lastStart next
termination_by lastStart + 1 - pos

theorem le_size_of_searchLoop?
    (h : searchLoop? buffer first tail lastStart pos = some (some start)) :
    start + (tail.length + 1) ≤ buffer.size := by
  fun_induction searchLoop? buffer first tail lastStart pos with
  | case1 pos hturn => exact absurd h (by simp)
  | case2 pos start' hturn =>
    obtain rfl := Option.some.inj (Option.some.inj h)
    exact le_size_of_found hturn
  | case3 pos hturn => exact absurd h (by simp)
  | case4 pos next hturn hlt ih => exact ih h

/-- The difference, unless it would fall below zero. -/
def difference? (m n : Nat) : Option Nat := if n ≤ m then some (m - n) else none

/-- The least index from `i` on at which the needle stands in the buffer, if it does; the empty
needle stands nowhere. None when the search reaches out of bounds. -/
def search? (buffer : ByteArray) (needle : Bytes) (i : Nat) : Option (Option Nat) :=
  match needle with
  | [] => some none
  | first :: tail =>
    if i + (tail.length + 1) > buffer.size then some none
    else do
      let lastStart ← difference? buffer.size (tail.length + 1)
      searchLoop? buffer first tail lastStart i

/-- The least index from `i` on at which the needle stands in the buffer. -/
def findFrom (buffer : ByteArray) (needle : Bytes) (i : Nat) : Option Nat :=
  (search? buffer needle i).join

/-- An occurrence lies within the buffer. -/
theorem le_size_of_findFrom {needle : Bytes} {i : Nat}
    (h : findFrom buffer needle i = some pos) : pos + needle.length ≤ buffer.size := by
  have hsearch : search? buffer needle i = some (some pos) := Option.join_eq_some_iff.mp h
  cases needle with
  | nil => exact absurd hsearch (by simp [search?])
  | cons first tail =>
    simp only [search?] at hsearch
    split at hsearch
    · exact absurd hsearch (by simp)
    · obtain ⟨lastStart, -, hloop⟩ := Option.bind_eq_some_iff.mp hsearch
      exact le_size_of_searchLoop? hloop

end Mjpeg.Bytes
