import Mjpeg.Proofs.Texts
import Mjpeg.Text.Quoted

/-!
# Quoted texts

A quoted text determines the text (`Text.quoted_inj`), so whatever a text says can be read off a
message that quotes it. A character stands between the quotes in one of three ways
(`Text.quotedChar_cases`): as itself, as a backslash and a letter, or by its number in hexadecimal.
The first character of what is written tells the first of them from the others, the second one tells
the second from the third, and a number ends at the brace behind it.
-/

namespace Mjpeg.Text

variable {c d : Char} {cs ds : List Char} {m n : Nat}

/-! ### Numbers in hexadecimal -/

theorem digitChar_inj (hm : m < 16) (hn : n < 16) (h : m.digitChar = n.digitChar) : m = n := by
  have hall : ∀ m < 16, ∀ n < 16, m.digitChar = n.digitChar → m = n := by decide
  exact hall m hm n hn h

theorem one_lt_length_toDigits (h : 16 ≤ n) : 1 < (Nat.toDigits 16 n).length := by
  have hpos : 0 < (Nat.toDigits 16 (n / 16)).length := Nat.length_toDigits_pos
  rw [Nat.toDigits_of_base_le (by decide) h, List.length_append, List.length_singleton]
  omega

/-- A number is determined by its digits. -/
theorem toDigits_inj (h : Nat.toDigits 16 m = Nat.toDigits 16 n) : m = n := by
  induction m using Nat.strongRecOn generalizing n with
  | ind m ih =>
    have hlength := congrArg List.length h
    rcases Nat.lt_or_ge m 16 with hm | hm <;> rcases Nat.lt_or_ge n 16 with hn | hn
    · rw [Nat.toDigits_of_lt_base hm, Nat.toDigits_of_lt_base hn] at h
      exact digitChar_inj hm hn (List.cons.inj h).1
    · have hlong := one_lt_length_toDigits hn
      rw [← hlength, Nat.toDigits_of_lt_base hm] at hlong
      exact absurd hlong (Nat.lt_irrefl 1)
    · have hlong := one_lt_length_toDigits hm
      rw [hlength, Nat.toDigits_of_lt_base hn] at hlong
      exact absurd hlong (Nat.lt_irrefl 1)
    · -- the last digits are equal, and so are the numbers before them
      rw [Nat.toDigits_of_base_le (by decide) hm, Nat.toDigits_of_base_le (by decide) hn] at h
      obtain ⟨hfront, hlast⟩ := List.append_inj' h rfl
      have hquot : m / 16 = n / 16 := ih (m / 16) (by omega) hfront
      have hrem : m % 16 = n % 16 :=
        digitChar_inj (Nat.mod_lt _ (by decide)) (Nat.mod_lt _ (by decide)) (List.cons.inj hlast).1
      omega

theorem brace_not_mem_toDigits (n : Nat) : '\x7d' ∉ Nat.toDigits 16 n := by
  have hdigit : ∀ k < 16, '\x7d' ≠ k.digitChar := by decide
  induction n using Nat.strongRecOn with
  | ind n ih =>
    rcases Nat.lt_or_ge n 16 with hn | hn
    · rw [Nat.toDigits_of_lt_base hn, List.mem_singleton]
      exact hdigit n hn
    · rw [Nat.toDigits_of_base_le (by decide) hn, List.mem_append, List.mem_singleton]
      exact not_or.mpr ⟨ih (n / 16) (by omega), hdigit _ (Nat.mod_lt _ (by decide))⟩

/-! ### Characters between quotes -/

/-- The characters that stand as a backslash and a letter, each with its letter. -/
def escapes : List (Char × Char) :=
  [('\x00', '0'), ('\t', 't'), ('\n', 'n'), ('\r', 'r'), ('"', '"'), ('\\', '\\')]

/-- A character by its number. -/
def numbered (c : Char) : List Char :=
  '\\' :: 'u' :: '\x7b' :: (Nat.toDigits 16 c.toNat ++ ['\x7d'])

theorem quotedChar_of_mem : ∀ e ∈ escapes, quotedChar e.1 = ['\\', e.2] := by decide

theorem quotedChar_of_not_mem (h : ∀ e ∈ escapes, c ≠ e.1) :
    quotedChar c = if isInvisible c then numbered c else [c] := by
  simp only [escapes, List.forall_mem_cons] at h
  obtain ⟨hnul, htab, hline, hreturn, hquote, hbackslash, -⟩ := h
  rw [quotedChar, if_neg hnul, if_neg htab, if_neg hline, if_neg hreturn, if_neg hquote,
    if_neg hbackslash]
  rfl

/-- **A character stands between the quotes in one of three ways.** -/
theorem quotedChar_cases (c : Char) :
    (quotedChar c = [c] ∧ c ≠ '\\') ∨ (∃ e, (c, e) ∈ escapes ∧ quotedChar c = ['\\', e]) ∨
      quotedChar c = numbered c := by
  by_cases h : ∃ e ∈ escapes, c = e.1
  · obtain ⟨⟨_, letter⟩, hmem, rfl⟩ := h
    exact Or.inr (Or.inl ⟨letter, hmem, quotedChar_of_mem _ hmem⟩)
  · have hnot : ∀ e ∈ escapes, c ≠ e.1 := fun e hmem heq => h ⟨e, hmem, heq⟩
    rw [quotedChar_of_not_mem hnot]
    split
    · exact Or.inr (Or.inr rfl)
    · exact Or.inl ⟨rfl, hnot ('\\', '\\') (by decide)⟩

theorem numbered_append_inj (h : numbered c ++ cs = numbered d ++ ds) : c = d ∧ cs = ds := by
  simp only [numbered, List.cons_append, List.append_assoc, List.nil_append, List.cons.injEq,
    true_and] at h
  -- the number ends at the first brace
  have hcut := Text.splitOnce_append (brace_not_mem_toDigits c.toNat) cs
  rw [h, Text.splitOnce_append (brace_not_mem_toDigits d.toNat)] at hcut
  obtain ⟨hdigits, rfl⟩ := Prod.mk.inj (Option.some.inj hcut)
  exact ⟨Char.toNat_inj.mp (toDigits_inj hdigits.symm), rfl⟩

/-- What is written begins with one character only. -/
theorem quotedChar_append_inj (h : quotedChar c ++ cs = quotedChar d ++ ds) : c = d ∧ cs = ds := by
  have hletters : ∀ e ∈ escapes, ∀ e' ∈ escapes, e.2 = e'.2 → e.1 = e'.1 := by decide
  have hu : ∀ e ∈ escapes, e.2 ≠ 'u' := by decide
  rcases quotedChar_cases c with ⟨hc, hbare⟩ | ⟨e, he, hc⟩ | hc <;>
    rcases quotedChar_cases d with ⟨hd, hbare'⟩ | ⟨e', he', hd⟩ | hd <;>
    rw [hc, hd] at h
  · exact List.cons.inj h
  · exact absurd (List.cons.inj h).1 hbare
  · exact absurd (List.cons.inj h).1 hbare
  · exact absurd (List.cons.inj h).1.symm hbare'
  · obtain ⟨hletter, htail⟩ := List.cons.inj (List.cons.inj h).2
    exact ⟨hletters _ he _ he' hletter, htail⟩
  · exact absurd (List.cons.inj (List.cons.inj h).2).1 (hu _ he)
  · exact absurd (List.cons.inj h).1.symm hbare'
  · exact absurd (List.cons.inj (List.cons.inj h).2).1.symm (hu _ he')
  · exact numbered_append_inj h

theorem quotedChar_ne_nil (c : Char) : quotedChar c ≠ [] := by
  rcases quotedChar_cases c with ⟨hc, -⟩ | ⟨e, -, hc⟩ | hc <;> rw [hc] <;>
    exact List.cons_ne_nil _ _

theorem flatMap_quotedChar_inj (h : cs.flatMap quotedChar = ds.flatMap quotedChar) : cs = ds := by
  induction cs generalizing ds with
  | nil =>
    cases ds with
    | nil => rfl
    | cons d ds => simp [quotedChar_ne_nil] at h
  | cons c cs ih =>
    cases ds with
    | nil => simp [quotedChar_ne_nil] at h
    | cons d ds =>
      obtain ⟨rfl, htail⟩ := quotedChar_append_inj h
      rw [ih htail]

/-- **A quoted text determines the text.** -/
theorem quoted_inj {s t : String} (h : quoted s = quoted t) : s = t := by
  have hinner := (List.cons.inj (String.ofList_inj.mp h)).2
  exact String.toList_inj.mp (flatMap_quotedChar_inj (List.append_cancel_right hinner))

end Mjpeg.Text
