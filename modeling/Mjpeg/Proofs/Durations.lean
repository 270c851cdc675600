import Mathlib.Algebra.Group.Nat.Defs
import Mjpeg.Command.Camera
import Mjpeg.Proofs.Texts

/-!
# The grammar of durations

A duration is written as a number with a unit or with none, and white space around it (`Writes`).
The number is a run of ASCII digits with an optional plus sign before it (`IsNumeral`), not zero and
of 64 bits; behind it stands `s`, `ms` or nothing.

Neither unit has a letter that a number has, so the text determines where the number ends
(`splitUnit_append`), and what is cut off is a unit (`exists_append_splitUnit`). Reading accepts
exactly the texts of the grammar, and answers the duration that they write (`parse_eq_ok_iff`). All
others are refused as a wrong use of the command line, and so are the arguments of a stream unless
both texts are durations (`duration_grammar`).
-/

namespace Mjpeg

variable {c : Char} {cs digits numeral suffix : List Char} {n size : Nat}

/-! ### Numerals -/

/-- The characters are digits, and possibly a plus sign before them, that write the number. -/
def IsNumeral (cs : List Char) (n : Nat) : Prop :=
  ∃ digits, (cs = digits ∨ cs = '+' :: digits) ∧ digits ≠ [] ∧
    (∀ c ∈ digits, c.isDigit = true) ∧ n = Nat.ofDigitChars 10 digits 0

/-- The number that digits write, when it fits 64 bits. -/
def digits? (digits : List Char) : Option Nat :=
  if digits.isEmpty || !digits.all Char.isDigit then none
  else if Nat.ofDigitChars 10 digits 0 < UInt64.size then some (Nat.ofDigitChars 10 digits 0)
  else none

theorem parseNat64?_plus (digits : List Char) : parseNat64? ('+' :: digits) = digits? digits := rfl

theorem parseNat64?_of_not_plus (h : ∀ ds, cs ≠ '+' :: ds) : parseNat64? cs = digits? cs := by
  unfold parseNat64?
  split
  · exact absurd rfl (h _)
  · rfl

theorem digits?_eq_some_iff : digits? digits = some n ↔
    digits ≠ [] ∧ (∀ c ∈ digits, c.isDigit = true) ∧ n = Nat.ofDigitChars 10 digits 0 ∧
      n < 2 ^ 64 := by
  unfold digits?
  rw [show UInt64.size = 2 ^ 64 from rfl]
  split
  · rename_i h
    refine iff_of_false (by simp) fun ⟨hne, hdigits, _⟩ => ?_
    rcases Bool.or_eq_true_iff.mp h with hempty | hother
    · exact hne (List.isEmpty_iff.mp hempty)
    · rw [List.all_eq_true.mpr hdigits] at hother
      exact absurd hother (by decide)
  · rename_i h
    obtain ⟨hne, hdigits⟩ : digits ≠ [] ∧ ∀ c ∈ digits, c.isDigit = true := by simpa using h
    split
    · rename_i hlt
      rw [Option.some.injEq]
      exact ⟨fun heq => ⟨hne, hdigits, heq.symm, heq ▸ hlt⟩, fun h => h.2.2.1.symm⟩
    · rename_i hge
      exact iff_of_false (by simp) fun ⟨_, _, heq, hlt⟩ => hge (heq ▸ hlt)

/-- **A numeral is read when its number fits 64 bits**, and nothing else is. -/
theorem parseNat64?_eq_some_iff : parseNat64? cs = some n ↔ IsNumeral cs n ∧ n < 2 ^ 64 := by
  constructor
  · intro h
    by_cases hplus : ∃ digits, cs = '+' :: digits
    · obtain ⟨digits, rfl⟩ := hplus
      rw [parseNat64?_plus, digits?_eq_some_iff] at h
      obtain ⟨hne, hdigits, heq, hlt⟩ := h
      exact ⟨⟨digits, Or.inr rfl, hne, hdigits, heq⟩, hlt⟩
    · rw [parseNat64?_of_not_plus fun ds heq => hplus ⟨ds, heq⟩, digits?_eq_some_iff] at h
      obtain ⟨hne, hdigits, heq, hlt⟩ := h
      exact ⟨⟨cs, Or.inl rfl, hne, hdigits, heq⟩, hlt⟩
  · rintro ⟨⟨digits, rfl | rfl, hne, hdigits, heq⟩, hlt⟩
    · rw [parseNat64?_of_not_plus, digits?_eq_some_iff]
      · exact ⟨hne, hdigits, heq, hlt⟩
      · rintro ds rfl
        exact absurd (hdigits '+' List.mem_cons_self) (by decide)
    · rw [parseNat64?_plus, digits?_eq_some_iff]
      exact ⟨hne, hdigits, heq, hlt⟩

/-- A numeral has digits and a plus sign only. -/
theorem IsNumeral.isDigit_or (h : IsNumeral numeral n) (hc : c ∈ numeral) :
    c.isDigit = true ∨ c = '+' := by
  obtain ⟨digits, rfl | rfl, -, hdigits, -⟩ := h
  · exact Or.inl (hdigits c hc)
  · rcases List.mem_cons.mp hc with rfl | hc
    · exact Or.inr rfl
    · exact Or.inl (hdigits c hc)

theorem IsNumeral.not_mem (h : IsNumeral numeral n) (hdigit : c.isDigit = false)
    (hplus : c ≠ '+') : c ∉ numeral := by
  intro hc
  rcases h.isDigit_or hc with hc | rfl
  · exact absurd (hdigit.symm.trans hc) (by decide)
  · exact hplus rfl

theorem IsNumeral.ne_nil (h : IsNumeral numeral n) : numeral ≠ [] := by
  obtain ⟨digits, rfl | rfl, hne, -⟩ := h
  · exact hne
  · exact List.cons_ne_nil _ _

/-- A number in decimal is a numeral. -/
theorem isNumeral_toString (n : Nat) : IsNumeral (toString n).toList n := by
  rw [Nat.toString_eq_repr, Nat.toList_repr]
  exact ⟨Nat.toDigits 10 n, Or.inl rfl, Nat.toDigits_ne_nil,
    fun _ hc => Nat.isDigit_of_mem_toDigits (by decide) (by decide) hc,
    Nat.ofDigitChars_ten_toDigits.symm⟩

namespace Duration

/-! ### Units -/

/-- What may stand behind the number of a duration, and the milliseconds in one of that unit. -/
inductive IsUnit : List Char → Nat → Prop
  | none : IsUnit [] 1000
  | seconds : IsUnit ['s'] 1000
  | millis : IsUnit ['m', 's'] 1

/-- What is cut off is a unit. -/
theorem exists_append_splitUnit (cs : List Char) :
    ∃ suffix, cs = (splitUnit cs).1 ++ suffix ∧ IsUnit suffix (splitUnit cs).2 := by
  unfold splitUnit
  split
  · rename_i h
    obtain ⟨numeral, rfl⟩ := List.isSuffixOf_iff_suffix.mp h
    refine ⟨['m', 's'], ?_, .millis⟩
    simp
  · split
    · rename_i h
      obtain ⟨numeral, rfl⟩ := List.isSuffixOf_iff_suffix.mp h
      refine ⟨['s'], ?_, .seconds⟩
      simp
    · exact ⟨[], (List.append_nil cs).symm, .none⟩

/-- A unit is cut off where the numeral before it ends. -/
theorem splitUnit_append (h : IsUnit suffix size) (hm : 'm' ∉ numeral) (hs : 's' ∉ numeral) :
    splitUnit (numeral ++ suffix) = (numeral, size) := by
  have hlast : ∀ {front : List Char}, 's' ∉ front → ¬ ['s'] <:+ front :=
    fun hnot hsuffix => hnot (hsuffix.subset List.mem_cons_self)
  unfold splitUnit
  simp only [List.isSuffixOf_iff_suffix]
  cases h with
  | none =>
    rw [List.append_nil, if_neg fun hsuffix => hs (hsuffix.subset (by simp)), if_neg (hlast hs)]
  | seconds =>
    have hnot : ¬ ['m', 's'] <:+ numeral ++ ['s'] := by
      rintro ⟨front, heq⟩
      rw [show ['m', 's'] = ['m'] ++ ['s'] from rfl, ← List.append_assoc,
        List.append_cancel_right_eq] at heq
      exact hm (heq ▸ List.mem_append_right front List.mem_cons_self)
    rw [if_neg hnot, if_pos (List.suffix_append numeral ['s'])]
    simp
  | millis =>
    rw [if_pos (List.suffix_append numeral ['m', 's'])]
    simp

theorem not_isWhiteSpace_of_isDigit (h : c.isDigit = true) : Text.isWhiteSpace c = false := by
  rw [Char.isDigit, Bool.and_eq_true, decide_eq_true_eq, decide_eq_true_eq] at h
  have hlow : 48 ≤ c.toNat := UInt32.le_iff_toNat_le.mp h.1
  have hhigh : c.toNat ≤ 57 := UInt32.le_iff_toNat_le.mp h.2
  simp only [Text.isWhiteSpace, Bool.or_eq_false_iff, Bool.and_eq_false_iff,
    decide_eq_false_iff_not, beq_eq_false_iff_ne]
  omega

/-- No white space stands in a number with its unit. -/
theorem not_isWhiteSpace_of_mem (hnumeral : IsNumeral numeral n) (hunit : IsUnit suffix size) :
    ∀ c ∈ numeral ++ suffix, Text.isWhiteSpace c = false := by
  have hletters : (suffix.all fun c => !Text.isWhiteSpace c) = true := by
    cases hunit <;> decide
  intro c hc
  rcases List.mem_append.mp hc with hc | hc
  · rcases hnumeral.isDigit_or hc with hdigit | rfl
    · exact not_isWhiteSpace_of_isDigit hdigit
    · decide
  · exact Bool.not_eq_true' _ ▸ List.all_eq_true.mp hletters c hc

/-! ### Reading -/

/-- The text writes a duration: a number from one to the greatest of 64 bits, and a unit, with white
space around them. -/
def Writes (text : String) (d : Duration) : Prop :=
  ∃ front numeral suffix back n size,
    text.toList = front ++ (numeral ++ suffix ++ back) ∧
    (∀ c ∈ front ++ back, Text.isWhiteSpace c = true) ∧
    IsNumeral numeral n ∧ IsUnit suffix size ∧ 1 ≤ n ∧ n ≤ 2 ^ 64 - 1 ∧ d = ⟨n * size⟩

/-- **A text is read as a duration exactly when it writes one**, and then as that one. -/
theorem parse_eq_ok_iff {text : String} {d : Duration} : parse text = .ok d ↔ Writes text d := by
  constructor
  · intro h
    unfold parse at h
    dsimp only at h
    split at h
    · exact absurd h nofun
    split at h
    · exact absurd h nofun
    · exact absurd h nofun
    rename_i n hread
    obtain ⟨hnumeral, hlt⟩ := parseNat64?_eq_some_iff.mp hread
    obtain ⟨front, back, htext, hwhite⟩ := Text.exists_append_trim text.toList
    obtain ⟨suffix, hcut, hunit⟩ := exists_append_splitUnit (Text.trim text.toList)
    refine ⟨front, _, suffix, back, n + 1, _, ?_, hwhite, hnumeral, hunit, Nat.le_add_left 1 n,
      Nat.le_sub_one_of_lt hlt, (Except.ok.inj h).symm⟩
    rwa [← hcut]
  · rintro ⟨front, numeral, suffix, back, n, size, htext, hwhite, hnumeral, hunit, hpos, hle, rfl⟩
    have htrim : Text.trim text.toList = numeral ++ suffix := by
      rw [htext, Text.trim_append_append hwhite,
        Text.trim_eq_self (not_isWhiteSpace_of_mem hnumeral hunit)]
    have hcut : splitUnit (numeral ++ suffix) = (numeral, size) :=
      splitUnit_append hunit (hnumeral.not_mem (by decide) (by decide))
        (hnumeral.not_mem (by decide) (by decide))
    have hread : parseNat64? numeral = some n :=
      parseNat64?_eq_some_iff.mpr ⟨hnumeral, by omega⟩
    obtain ⟨m, rfl⟩ := Nat.exists_eq_add_of_le' hpos
    have hempty : (numeral ++ suffix).isEmpty = false := by simp [hnumeral.ne_nil]
    unfold parse
    dsimp only
    rw [htrim, hcut, hempty, if_neg Bool.false_ne_true, hread]

/-- What is no duration is refused. -/
theorem exists_error_of_not_writes {text : String} (h : ∀ d, ¬ Writes text d) :
    ∃ e, parse text = .error e := by
  cases hparse : parse text with
  | error e => exact ⟨e, rfl⟩
  | ok d => exact absurd (parse_eq_ok_iff.mp hparse) (h d)

/-- A number in decimal with a unit behind it writes a duration. -/
theorem parse_toString_append (unit : String) (hpos : 1 ≤ n) (hle : n ≤ 2 ^ 64 - 1)
    (hunit : IsUnit unit.toList size) : parse (toString n ++ unit) = .ok ⟨n * size⟩ :=
  parse_eq_ok_iff.mpr ⟨[], _, _, [], n, size, by simp, by simp, isNumeral_toString n, hunit, hpos,
    hle, rfl⟩

end Duration

namespace Command

open Duration

/-- The settings of a stream are read exactly when both texts write durations. -/
theorem streamConfig_eq_ok_iff {a : StreamArguments} {config : Stream.Config} :
    streamConfig a = .ok config ↔ ∃ retryDelay idleTimeout, Writes a.retryDelay retryDelay ∧
      Writes a.idleTimeout idleTimeout ∧ config = { retryDelay, idleTimeout } := by
  simp only [← parse_eq_ok_iff]
  unfold streamConfig StreamArguments.config
  cases hretry : Duration.parse a.retryDelay with
  | error e => exact iff_of_false nofun (by simp)
  | ok retryDelay =>
    cases hidle : Duration.parse a.idleTimeout with
    | error e => exact iff_of_false nofun (by simp)
    | ok idleTimeout =>
      constructor
      · intro h
        exact ⟨_, _, rfl, rfl, (Except.ok.inj h).symm⟩
      · rintro ⟨_, _, hretry', hidle', rfl⟩
        obtain rfl := Except.ok.inj hretry'
        obtain rfl := Except.ok.inj hidle'
        rfl

/-- Texts that are no durations are a wrong use of the command line. -/
theorem exit_of_streamConfig_eq_error {a : StreamArguments} {e : CommandError}
    (h : streamConfig a = .error e) : e.exit = .usage := by
  unfold streamConfig at h
  split at h
  · obtain rfl := Except.error.inj h
    rfl
  · exact absurd h nofun

/-- **The grammar of durations.** A text is read as a duration exactly when it writes that duration,
and any other text is a wrong use of the command line. So a number of seconds or milliseconds that
is not zero and fits 64 bits is read back from its decimal digits and unit, and the arguments of a
stream are read exactly when both texts write durations. -/
theorem duration_grammar :
    (∀ text d, Duration.parse text = .ok d ↔ Writes text d) ∧
    (∀ text, (∀ d, ¬ Writes text d) →
      ∃ e, Duration.parse text = .error e ∧ (CommandError.ofDuration e).exit.code = 64) ∧
    (∀ n, 1 ≤ n → n ≤ 2 ^ 64 - 1 →
      Duration.parse (toString n) = .ok ⟨n * 1000⟩ ∧
      Duration.parse (toString n ++ "s") = .ok ⟨n * 1000⟩ ∧
      Duration.parse (toString n ++ "ms") = .ok ⟨n⟩) ∧
    (∀ a config, streamConfig a = .ok config ↔ ∃ retryDelay idleTimeout,
      Writes a.retryDelay retryDelay ∧ Writes a.idleTimeout idleTimeout ∧
        config = { retryDelay, idleTimeout }) ∧
    ∀ a, (¬ ∃ retryDelay idleTimeout,
        Writes a.retryDelay retryDelay ∧ Writes a.idleTimeout idleTimeout) →
      ∃ e, streamConfig a = .error e ∧ e.exit.code = 64 := by
  refine ⟨fun text d => parse_eq_ok_iff, fun text h => ?_, fun n hpos hle => ⟨?_, ?_, ?_⟩,
    fun a config => streamConfig_eq_ok_iff, fun a h => ?_⟩
  · obtain ⟨e, he⟩ := exists_error_of_not_writes h
    exact ⟨e, he, rfl⟩
  · simpa using parse_toString_append "" hpos hle .none
  · exact parse_toString_append "s" hpos hle .seconds
  · simpa using parse_toString_append "ms" hpos hle .millis
  · cases hconfig : streamConfig a with
    | error e => exact ⟨e, rfl, by rw [exit_of_streamConfig_eq_error hconfig]; rfl⟩
    | ok config =>
      obtain ⟨retryDelay, idleTimeout, hretry, hidle, -⟩ := streamConfig_eq_ok_iff.mp hconfig
      exact absurd ⟨retryDelay, idleTimeout, hretry, hidle⟩ h

/-- Inner blanks, a second sign, a sign alone, a unit alone and a unit twice are refused. -/
example : ["5 s", "++5s", "+", "ms", "5ss", "-5s"].all (fun text =>
    (Duration.parse text).toOption.isNone) = true := by decide

end Command

end Mjpeg
