import JobNotice.Text.Digits
import Mathlib.Algebra.Group.Nat.Defs

/-!
# Reading step by step

A reader is a chain of steps that each read something or refuse. If it comes to its end every step
has read something, which is what `exists_of_bind_eq_ok` takes out of the chain one by one. Numbers
are read digit by digit, so they are as large as they have places.

## Main results

* `exists_of_bind_eq_ok`, `bind_eq_ok_of` — chains that come to their end
* `Text.digitsNat_eq`, `Text.digitsNat_lt` — the number that digits write
-/

namespace JobNotice

/-! ### Chains -/

section Bind

variable {ε α β : Type} {x y : Except ε α} {k : α → Except ε β} {b : β}

theorem exists_of_bind_eq_ok (h : (x >>= k) = .ok b) : ∃ a, x = .ok a ∧ k a = .ok b := by
  cases x with
  | error e => cases h
  | ok a => exact ⟨a, rfl, h⟩

theorem bind_eq_ok_of (hxy : ∀ a, x = .ok a → y = .ok a) (h : (x >>= k) = .ok b) :
    (y >>= k) = .ok b := by
  obtain ⟨a, hx, hk⟩ := exists_of_bind_eq_ok h
  rw [hxy a hx]
  exact hk

end Bind

namespace Text

/-! ### Digits -/

theorem toNat_of_isDigit {c : Char} (h : c.isDigit = true) : 48 ≤ c.toNat ∧ c.toNat ≤ 57 := by
  simpa [Char.isDigit, UInt32.le_iff_toNat_le] using h

theorem digitsNat_eq {ds : List Char} (h : ∀ c ∈ ds, c.isDigit = true) (n : Nat) :
    ds.foldl (fun n c => n * 10 + (digitValue? c).getD 0) n = Nat.ofDigitChars 10 ds n := by
  induction ds generalizing n with
  | nil => rfl
  | cons c ds ih =>
    have hvalue : digitValue? c = some (c.toNat - 48) := by
      simp [digitValue?, toNat_of_isDigit (h c (by simp))]
    rw [List.foldl_cons, ih (fun d hd => h d (List.mem_cons_of_mem c hd)), hvalue, Nat.mul_comm]
    rfl

/-- Digits behind a number do not take it up to the next one with as many zeros. -/
theorem ofDigitChars_lt {ds : List Char} (h : ∀ c ∈ ds, c.isDigit = true) (n : Nat) :
    Nat.ofDigitChars 10 ds n < (n + 1) * 10 ^ ds.length := by
  induction ds generalizing n with
  | nil => simp [Nat.ofDigitChars]
  | cons c ds ih =>
    have hdigit : c.toNat - 48 ≤ 9 := by
      have := toNat_of_isDigit (h c (by simp))
      omega
    calc Nat.ofDigitChars 10 (c :: ds) n
        = Nat.ofDigitChars 10 ds (10 * n + (c.toNat - 48)) := rfl
      _ < (10 * n + (c.toNat - 48) + 1) * 10 ^ ds.length :=
        ih (fun d hd => h d (List.mem_cons_of_mem c hd)) _
      _ ≤ ((n + 1) * 10) * 10 ^ ds.length := Nat.mul_le_mul_right _ (by omega)
      _ = (n + 1) * 10 ^ (c :: ds).length := by
        rw [List.length_cons, Nat.pow_succ, Nat.mul_assoc, Nat.mul_comm 10]

theorem digitsNat_lt {ds : List Char} (h : ∀ c ∈ ds, c.isDigit = true) :
    digitsNat 10 ds < 10 ^ ds.length := by
  rw [digitsNat, digitsNat_eq h]
  simpa using ofDigitChars_lt h 0

end Text

end JobNotice
