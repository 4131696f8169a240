import JobNotice.Proofs.Calendar.Duration
import Mathlib.Data.List.Forall2

/-!
# The words of a duration are canonical

What the words of a duration have to look like is said here without dividing anything: hours,
minutes below sixty and seconds below sixty that add up to the duration, each of them that is not
zero with its numeral and its unit, joined in this order. One text alone is of that form for each
duration, and it is the one that is written. Together with the reader of such words this tells that
different durations have different words.

## Main definitions

* `Calendar.IsNumeral` — decimal numerals without zeros in front
* `Calendar.IsPhrase` — the words that say a duration

## Main results

* `Calendar.isNumeral_iff` — a number has one numeral
* `Calendar.isPhrase_iff` — a duration has one phrase
* `Calendar.phrase_is_canonical` — which phrase is written, and that it is read back
-/

namespace JobNotice.Calendar

/-! ### Numerals -/

/-- The decimal digits of a number, with a zero in front only if that is all. -/
structure IsNumeral (n : Nat) (s : String) : Prop where
  nonempty : s.toList ≠ []
  digits : ∀ c ∈ s.toList, c.isDigit = true
  value : Text.digitsNat 10 s.toList = n
  head : s.toList.head? = some '0' → s.toList = ['0']

theorem toDigits_sub_of_isDigit {c : Char} (h : c.isDigit = true) :
    Nat.toDigits 10 (c.toNat - 48) = [c] := by
  obtain ⟨hlow, hhigh⟩ := Text.toNat_of_isDigit h
  rw [Nat.toDigits_of_lt_base (by omega)]
  have hvalue : (Nat.digitChar (c.toNat - 48)).toNat = c.toNat := by
    rw [Nat.toNat_digitChar_of_lt_ten (by omega)]
    omega
  rw [Char.toNat_inj.mp hvalue]

/-- Digits after a number that is not zero go on with its numeral. -/
theorem toDigits_append {cs : List Char} (hdigits : ∀ c ∈ cs, c.isDigit = true) {n : Nat}
    (hn : 0 < n) : Nat.toDigits 10 n ++ cs = Nat.toDigits 10 (Nat.ofDigitChars 10 cs n) := by
  induction cs generalizing n with
  | nil => simp
  | cons c cs ih =>
    have hc : c.isDigit = true := hdigits c (by simp)
    have hdigit : c.toNat - 48 < 10 := by
      have := Text.toNat_of_isDigit hc
      omega
    calc Nat.toDigits 10 n ++ c :: cs
        = (Nat.toDigits 10 n ++ [c]) ++ cs := by simp
      _ = Nat.toDigits 10 (10 * n + (c.toNat - 48)) ++ cs := by
          rw [← Nat.toDigits_append_toDigits (by decide) hn hdigit, toDigits_sub_of_isDigit hc]
      _ = Nat.toDigits 10 (Nat.ofDigitChars 10 (c :: cs) n) := by
          rw [ih (fun d hd => hdigits d (List.mem_cons_of_mem c hd)) (by omega),
            Nat.ofDigitChars_cons]
          rfl

/-- Only the numeral of zero begins with a zero. -/
theorem toDigits_of_head_zero {n : Nat} (h : (Nat.toDigits 10 n).head? = some '0') :
    Nat.toDigits 10 n = ['0'] := by
  induction n using Nat.strongRecOn with
  | ind n ih =>
    by_cases hn : n < 10
    · rw [Nat.toDigits_of_lt_base hn] at h ⊢
      simpa using h
    · rw [Nat.toDigits_of_base_le (by decide) (by omega),
        List.head?_append_of_ne_nil _ Nat.toDigits_ne_nil] at h
      have hfront := ih (n / 10) (by omega) h
      have hzero : n / 10 = 0 := by
        rw [← Nat.ofDigitChars_ten_toDigits (n := n / 10), hfront]
        rfl
      omega

/-- **A number has one numeral.** -/
theorem isNumeral_iff {n : Nat} {s : String} : IsNumeral n s ↔ s = Decimal.natText n := by
  constructor
  · rintro ⟨hne, hdigits, hvalue, hhead⟩
    rw [Text.digitsNat, Text.digitsNat_eq hdigits] at hvalue
    rw [← String.toList_inj, Decimal.toList_natText, ← hvalue]
    generalize s.toList = ds at hne hdigits hhead
    cases ds with
    | nil => exact absurd rfl hne
    | cons c cs =>
      have hc : c.isDigit = true := hdigits c (by simp)
      by_cases hzero : c.toNat - 48 = 0
      · have hc0 : c = '0' := by
          rw [← Char.toNat_inj]
          have := Text.toNat_of_isDigit hc
          have : '0'.toNat = 48 := rfl
          omega
        rw [hhead (by rw [hc0]; rfl)]
        rfl
      · rw [Nat.ofDigitChars_cons, Nat.mul_zero, Nat.zero_add]
        have hrest := toDigits_append (fun d hd => hdigits d (List.mem_cons_of_mem c hd))
          (Nat.pos_of_ne_zero hzero)
        rw [toDigits_sub_of_isDigit hc] at hrest
        exact hrest
  · rintro rfl
    refine ⟨?_, fun c hc => Decimal.isDigit_of_mem_natText hc, ?_, ?_⟩
    · rw [Decimal.toList_natText]
      exact Nat.toDigits_ne_nil
    · rw [← padded_zero, digitsNat_padded]
    · rw [Decimal.toList_natText]
      exact toDigits_of_head_zero

/-! ### Phrases -/

/-- The words of a count: its numeral and the unit, which is singular for one alone. -/
def IsCounted (p : Nat × String) (s : String) : Prop :=
  ∃ numeral, IsNumeral p.1 numeral ∧
    s = numeral ++ " " ++ if p.1 = 1 then p.2 else p.2 ++ "s"

/-- The words that say a duration. -/
inductive IsPhrase : Nat → String → Prop
  | zero : IsPhrase 0 "0 seconds"
  | parts (hours minutes seconds : Nat) (texts : List String) (hminutes : minutes < 60)
      (hseconds : seconds < 60) (hne : texts ≠ [])
      (h : List.Forall₂ IsCounted
        ([(hours, "hour"), (minutes, "minute"), (seconds, "second")].filter fun p => p.1 > 0)
        texts) :
      IsPhrase (hours * 3600 + minutes * 60 + seconds) (", ".intercalate texts)

theorem isCounted_iff {p : Nat × String} {s : String} : IsCounted p s ↔ s = counted p.1 p.2 := by
  have hunit : (if p.1 = 1 then p.2 else p.2 ++ "s") = p.2 ++ if p.1 = 1 then "" else "s" := by
    split <;> simp
  simp only [IsCounted, isNumeral_iff, exists_eq_left, hunit, counted, String.append_assoc]

theorem forall₂_isCounted_iff {parts : List (Nat × String)} {texts : List String} :
    List.Forall₂ IsCounted parts texts ↔ texts = parts.map fun p => counted p.1 p.2 := by
  induction parts generalizing texts with
  | nil => simp
  | cons p rest ih =>
    simp only [List.forall₂_cons_left_iff, isCounted_iff, ih, List.map_cons]
    constructor
    · rintro ⟨_, _, rfl, rfl, rfl⟩
      rfl
    · rintro rfl
      exact ⟨_, _, rfl, rfl, rfl⟩

/-- The parts of a duration are those hours, minutes and seconds that make it. -/
theorem components_eq {hours minutes seconds : Nat} (hminutes : minutes < 60)
    (hseconds : seconds < 60) : components (hours * 3600 + minutes * 60 + seconds)
      = [(hours, "hour"), (minutes, "minute"), (seconds, "second")] := by
  have hh : (hours * 3600 + minutes * 60 + seconds) / 3600 = hours := by omega
  have hm : (hours * 3600 + minutes * 60 + seconds) % 3600 / 60 = minutes := by omega
  have hs : (hours * 3600 + minutes * 60 + seconds) % 60 = seconds := by omega
  rw [components, hh, hm, hs]

theorem phrase_eq {total : Nat} {parts : List (Nat × String)}
    (h : ((components total).filter fun p => p.1 > 0) = parts) (hne : parts ≠ []) :
    phrase total = ", ".intercalate (parts.map fun p => counted p.1 p.2) := by
  rw [phrase, h]
  cases parts with
  | nil => exact absurd rfl hne
  | cons p rest => rfl

theorem filter_components_eq_nil {total : Nat} :
    ((components total).filter fun p => p.1 > 0) = [] ↔ total = 0 := by
  simp only [components, List.filter_eq_nil_iff, List.forall_mem_cons, List.not_mem_nil,
    decide_eq_true_eq]
  constructor
  · rintro ⟨hh, hm, hs, -⟩
    omega
  · rintro rfl
    simp

theorem isPhrase_phrase (n : Nat) : IsPhrase n (phrase n) := by
  by_cases hn : n = 0
  · subst hn
    exact IsPhrase.zero
  · have hparts := mt filter_components_eq_nil.mp hn
    have hsum : n / 3600 * 3600 + n % 3600 / 60 * 60 + n % 60 = n := by omega
    have h := IsPhrase.parts (n / 3600) (n % 3600 / 60) (n % 60) _ (by omega) (by omega)
      (fun hnil => hparts (List.map_eq_nil_iff.mp hnil)) (forall₂_isCounted_iff.mpr rfl)
    rwa [hsum, ← phrase_eq rfl hparts] at h

/-- **A duration has one phrase.** -/
theorem isPhrase_iff {n : Nat} {s : String} : IsPhrase n s ↔ s = phrase n := by
  constructor
  · rintro (_ | ⟨hours, minutes, seconds, texts, hminutes, hseconds, hne, h⟩)
    · rfl
    · rw [forall₂_isCounted_iff, ← components_eq hminutes hseconds] at h
      rw [phrase_eq rfl (fun hnil => hne (by rw [h, hnil, List.map_nil])), h]
  · rintro rfl
    exact isPhrase_phrase n

/-- **The words of a duration are its only phrase and are read back**, so that different durations
never look alike. -/
theorem phrase_is_canonical (m n : Nat) (s : String) :
    ofPhrase? (phrase n) = some n ∧ (IsPhrase n s ↔ s = phrase n) ∧
      (phrase m = phrase n ↔ m = n) := by
  refine ⟨ofPhrase?_phrase n, isPhrase_iff, fun h => ?_, fun h => h ▸ rfl⟩
  have hread := ofPhrase?_phrase m
  rw [h, ofPhrase?_phrase] at hread
  exact (Option.some.inj hread).symm

end JobNotice.Calendar
