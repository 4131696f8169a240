import JobNotice.Mail.Base64
import Mathlib.Tactic.Common

/-!
# Bytes read back from base64

The characters for six bits are told apart, and three bytes are as many bits as four characters
have, so bytes in base64 are read as those bytes. No other character than those of base64 is
written, hence no space, no line end and none of the marks around encoded words.

## Main definitions

* `Mail.Base64.isDigit` — the characters of base64

## Main results

* `Mail.Base64.decode?_encode` — bytes in base64 are read as the bytes
* `Mail.Base64.isDigit_of_mem_encode` — what base64 is made of
-/

namespace JobNotice.Mail.Base64

/-- The characters for six bits, and the equals sign that fills up. -/
def isDigit (c : Char) : Bool := (value? c).isSome || c == '='

theorem value?_digit {n : Nat} (h : n < 64) : value? (digit n) = some n := by
  have hall : ∀ i : Fin 64, value? (digit i) = some i.val := by decide
  exact hall ⟨n, h⟩

theorem digit_ne_pad {n : Nat} (h : n < 64) : digit n ≠ '=' := by
  intro hpad
  have hvalue := value?_digit h
  have hnone : value? '=' = none := by decide
  rw [hpad, hnone] at hvalue
  cases hvalue

theorem isDigit_digit (n : Nat) : isDigit (digit n) = true := by
  unfold isDigit
  by_cases h : n < 64
  · rw [value?_digit h, Option.isSome_some, Bool.true_or]
  · have hlast : digit n = '/' := by
      unfold digit
      rw [if_neg (by omega), if_neg (by omega), if_neg (by omega), if_neg (by omega)]
    rw [hlast]
    decide

theorem toNat_lt_of_isDigit {c : Char} (h : isDigit c = true) : c.toNat < 128 := by
  rw [isDigit, Bool.or_eq_true, beq_iff_eq] at h
  rcases h with h | rfl
  · unfold value? at h
    simp only at h
    split_ifs at h with hupper hlower hten hplus hslash
    · omega
    · omega
    · omega
    · rw [hplus]
      decide
    · rw [hslash]
      decide
    · cases h
  · decide

/-- **Bytes in base64 are read as the bytes.** -/
theorem decode?_encode {bytes : List Nat} (h : ∀ b ∈ bytes, b < 256) :
    decode? (encode bytes) = some bytes := by
  fun_induction encode bytes with
  | case1 => rfl
  | case2 a =>
    have ha := h a (by simp)
    have hx : a / 4 < 64 := by omega
    have hy : a % 4 * 16 < 64 := by omega
    have hfirst : a / 4 * 4 + a % 4 * 16 / 16 = a := by omega
    simp only [decode?, value?_digit hx, value?_digit hy, Option.bind_eq_bind, Option.bind_some]
    rw [if_pos (by omega), hfirst]
  | case3 a b =>
    have ha := h a (by simp)
    have hb := h b (by simp)
    have hx : a / 4 < 64 := by omega
    have hy : a % 4 * 16 + b / 16 < 64 := by omega
    have hz : b % 16 * 4 < 64 := by omega
    have hfirst : a / 4 * 4 + (a % 4 * 16 + b / 16) / 16 = a := by omega
    have hsecond : (a % 4 * 16 + b / 16) % 16 * 16 + b % 16 * 4 / 4 = b := by omega
    rw [decode?]
    · simp only [value?_digit hx, value?_digit hy, value?_digit hz, Option.bind_eq_bind,
        Option.bind_some]
      rw [if_pos (by omega), hfirst, hsecond]
    · exact digit_ne_pad hz
  | case4 a b c r ih =>
    have ha := h a (by simp)
    have hb := h b (by simp)
    have hc := h c (by simp)
    have hrest := ih fun x hx => h x (by simp [hx])
    have hx : a / 4 < 64 := by omega
    have hy : a % 4 * 16 + b / 16 < 64 := by omega
    have hz : b % 16 * 4 + c / 64 < 64 := by omega
    have hw : c % 64 < 64 := by omega
    have hfirst : a / 4 * 4 + (a % 4 * 16 + b / 16) / 16 = a := by omega
    have hsecond : (a % 4 * 16 + b / 16) % 16 * 16 + (b % 16 * 4 + c / 64) / 4 = b := by omega
    have hthird : (b % 16 * 4 + c / 64) % 4 * 64 + c % 64 = c := by omega
    -- four digits are not filled up
    rw [decode?]
    · simp only [value?_digit hx, value?_digit hy, value?_digit hz, value?_digit hw, hrest,
        Option.bind_eq_bind, Option.bind_some, hfirst, hsecond, hthird]
    · exact fun _ hpad _ => digit_ne_pad hw hpad
    · exact fun hpad _ => digit_ne_pad hw hpad

/-- Three bytes, or what is left of them at the end, are written as four characters. -/
theorem length_encode (bytes : List Nat) :
    (encode bytes).length = 4 * ((bytes.length + 2) / 3) := by
  fun_induction encode bytes with
  | case1 => rfl
  | case2 a => simp
  | case3 a b => simp
  | case4 a b c r ih =>
    simp only [List.length_cons, ih]
    omega

/-- **Base64 is made of its digits.** -/
theorem isDigit_of_mem_encode {bytes : List Nat} {c : Char} (h : c ∈ encode bytes) :
    isDigit c = true := by
  have hpad : isDigit '=' = true := by decide
  fun_induction encode bytes with
  | case1 => simp at h
  | case2 a =>
    simp only [List.mem_cons, List.not_mem_nil, or_false] at h
    rcases h with rfl | rfl | rfl | rfl <;> first | exact isDigit_digit _ | exact hpad
  | case3 a b =>
    simp only [List.mem_cons, List.not_mem_nil, or_false] at h
    rcases h with rfl | rfl | rfl | rfl <;> first | exact isDigit_digit _ | exact hpad
  | case4 a b d r ih =>
    simp only [List.mem_cons] at h
    rcases h with rfl | rfl | rfl | rfl | h
    · exact isDigit_digit _
    · exact isDigit_digit _
    · exact isDigit_digit _
    · exact isDigit_digit _
    · exact ih h

end JobNotice.Mail.Base64
