import JobNotice.Decimal.Shortest

/-!
# Numerals

A natural number is written with decimal digits alone, and a whole number with a minus sign before
them if it is negative. Different numbers have different numerals.

## Main results

* `Decimal.natText_inj`, `Decimal.intText_inj` — a numeral has one number
* `Decimal.isDigit_of_mem_natText`, `Decimal.mem_intText` — the characters of numerals
-/

namespace JobNotice.Decimal

theorem toList_natText (n : Nat) : (natText n).toList = Nat.toDigits 10 n :=
  Nat.toList_repr

theorem isDigit_of_mem_natText {n : Nat} {c : Char} (h : c ∈ (natText n).toList) :
    c.isDigit = true := by
  rw [toList_natText] at h
  exact Nat.isDigit_of_mem_toDigits (by decide) (by decide) h

theorem natText_inj {m n : Nat} : natText m = natText n ↔ m = n := by
  refine ⟨fun h => ?_, fun h => h ▸ rfl⟩
  have hdigits : Nat.toDigits 10 m = Nat.toDigits 10 n := by
    rw [← toList_natText, h, toList_natText]
  rw [← Nat.ofDigitChars_ten_toDigits (n := m), hdigits, Nat.ofDigitChars_ten_toDigits]

theorem intText_of_neg {i : Int} (h : i < 0) : intText i = "-" ++ natText i.natAbs :=
  if_pos h

theorem intText_of_nonneg {i : Int} (h : 0 ≤ i) : intText i = natText i.natAbs :=
  if_neg (by omega)

theorem mem_intText {i : Int} {c : Char} (h : c ∈ (intText i).toList) :
    c = '-' ∨ c.isDigit = true := by
  by_cases hi : i < 0
  · rw [intText_of_neg hi, String.toList_append, List.mem_append] at h
    rcases h with h | h
    · exact Or.inl (by simpa using h)
    · exact Or.inr (isDigit_of_mem_natText h)
  · rw [intText_of_nonneg (by omega)] at h
    exact Or.inr (isDigit_of_mem_natText h)

/-- No numeral of a natural number begins with a minus sign. -/
theorem natText_ne_minus (m n : Nat) : natText m ≠ "-" ++ natText n := by
  intro h
  have hminus : '-' ∈ (natText m).toList := by simp [h]
  exact absurd (isDigit_of_mem_natText hminus) (by decide)

theorem intText_inj {i j : Int} : intText i = intText j ↔ i = j := by
  refine ⟨fun h => ?_, fun h => h ▸ rfl⟩
  by_cases hi : i < 0 <;> by_cases hj : j < 0
  · rw [intText_of_neg hi, intText_of_neg hj, String.append_right_inj, natText_inj] at h
    omega
  · rw [intText_of_neg hi, intText_of_nonneg (by omega)] at h
    exact absurd h.symm (natText_ne_minus _ _)
  · rw [intText_of_nonneg (by omega), intText_of_neg hj] at h
    exact absurd h (natText_ne_minus _ _)
  · rw [intText_of_nonneg (by omega), intText_of_nonneg (by omega), natText_inj] at h
    omega

end JobNotice.Decimal
