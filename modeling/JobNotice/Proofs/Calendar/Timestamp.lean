import JobNotice.Calendar.Rfc3339
import JobNotice.Proofs.Calendar.DayNumber
import JobNotice.Proofs.Text.Reading
import Mathlib.Algebra.Group.Nat.Defs
import Mathlib.Data.List.TakeWhile

/-!
# Timestamps are read back

A timestamp is written without blanks, with as many digits as the reader takes for a number or with
a separator behind the last one. So the reader, lenient as it is, stops at each number and separator
where the writer did, and gets the parts that were written. The parts make the same instant, a leap
second included: it is written as a 60th second, and stands for the second before it with a fraction
of one second more. A leap second behind any other second is written as the second after that. So the
text of any instant is read as the settled one, and it is only regular instants that are read back.

## Main results

* `Calendar.readDigits_padded`, `Calendar.readDigits_of_stop` — numbers are read back
* `Calendar.readWritten_append` — the parts of a timestamp are read back
* `Calendar.Instant.text_settled` — settling does not change the text
* `Calendar.Instant.ofText_text` — what the text of an instant is read as
-/

namespace JobNotice.Calendar

/-! ### Numbers -/

/-- A text that goes on with something that is no digit, or ends. -/
def NoDigit (s : List Char) : Prop := s.head?.any Char.isDigit = false

theorem natChars_eq (n : Nat) : Decimal.natChars n = Nat.toDigits 10 n := Nat.toList_repr

section Padded

variable (w n : Nat)

theorem isDigit_of_mem_padded {c : Char} (h : c ∈ padded w n) : c.isDigit = true := by
  rw [padded, natChars_eq] at h
  rcases List.mem_append.mp h with h | h
  · rw [List.eq_of_mem_replicate h]
    rfl
  · exact Nat.isDigit_of_mem_toDigits (by decide) (by decide) h

theorem padded_ne_nil : padded w n ≠ [] := by
  simp [padded, natChars_eq, Nat.toDigits_ne_nil]

/-- Zeros in front do not count. -/
theorem digitsNat_padded : Text.digitsNat 10 (padded w n) = n := by
  have hzeros : ∀ k, Nat.ofDigitChars 10 (List.replicate k '0') 0 = 0 := by
    intro k
    induction k with
    | zero => rfl
    | succ k ih => simpa [List.replicate_succ, Nat.ofDigitChars] using ih
  rw [Text.digitsNat, Text.digitsNat_eq fun c hc => isDigit_of_mem_padded w n hc, padded, natChars_eq,
    Nat.ofDigitChars, List.foldl_append]
  have h := hzeros (w - (Nat.toDigits 10 n).length)
  rw [Nat.ofDigitChars] at h
  rw [h]
  exact Nat.ofDigitChars_ten_toDigits

end Padded

theorem length_padded {w n : Nat} (hw : 0 < w) (hn : n < 10 ^ w) : (padded w n).length = w := by
  have h := (Nat.length_toDigits_le_iff (by decide) hw).mpr hn
  simp only [padded, natChars_eq, List.length_append, List.length_replicate]
  omega

/-! ### Reading numbers and separators -/

theorem readDigits_eq {width : Option Nat} {ds rest : List Char} (hne : ds ≠ [])
    (h : (match width with
      | some w => (ds ++ rest).take w
      | none => ds ++ rest).takeWhile Char.isDigit = ds) :
    readDigits width (ds ++ rest) = .ok (Text.digitsNat 10 ds, rest) := by
  cases width <;> simp [readDigits, h, hne]

/-- A number with all the digits that the reader takes. -/
theorem readDigits_padded {w n : Nat} (hw : 0 < w) (hn : n < 10 ^ w) (rest : List Char) :
    readDigits (some w) (padded w n ++ rest) = .ok (n, rest) := by
  have htake : (padded w n ++ rest).take w = padded w n := List.take_left' (length_padded hw hn)
  rw [readDigits_eq (padded_ne_nil w n), digitsNat_padded]
  simp only [htake]
  exact List.takeWhile_eq_self_iff.mpr fun c hc => isDigit_of_mem_padded w n hc

/-- A number with something else behind it. -/
theorem readDigits_of_stop {width : Option Nat} {w n : Nat}
    (hwidth : ∀ k, width = some k → (padded w n).length ≤ k) {rest : List Char}
    (hrest : NoDigit rest) : readDigits width (padded w n ++ rest) = .ok (n, rest) := by
  have hdigits : ∀ c ∈ padded w n, c.isDigit = true := fun c hc => isDigit_of_mem_padded w n hc
  have hstop : ∀ k, (rest.take k).takeWhile Char.isDigit = [] := by
    intro k
    cases k with
    | zero => rfl
    | succ k =>
      cases rest with
      | nil => rfl
      | cons c r =>
        have hc : c.isDigit = false := by simpa [NoDigit] using hrest
        simp [hc]
  rw [readDigits_eq (padded_ne_nil w n), digitsNat_padded]
  cases width with
  | none =>
    have hall : rest.takeWhile Char.isDigit = [] := by
      simpa using hstop rest.length
    simp [List.takeWhile_append_of_pos hdigits, hall]
  | some k =>
    simp only [List.take_append, List.take_of_length_le (hwidth k rfl)]
    rw [List.takeWhile_append_of_pos hdigits, hstop, List.append_nil]

theorem skipBlanks_cons {c : Char} (hc : Text.isBlank c = false) (r : List Char) :
    skipBlanks (c :: r) = c :: r := by
  simp [skipBlanks, hc]

theorem not_isBlank_of_isDigit {c : Char} (h : c.isDigit = true) : Text.isBlank c = false := by
  have hc := Text.toNat_of_isDigit h
  simp only [Text.isBlank, Bool.or_eq_false_iff, Bool.and_eq_false_iff, decide_eq_false_iff_not,
    beq_eq_false_iff_ne]
  omega

theorem exists_padded (w n : Nat) : ∃ c r, padded w n = c :: r ∧ c.isDigit = true := by
  cases h : padded w n with
  | nil => exact absurd h (padded_ne_nil w n)
  | cons c r => exact ⟨c, r, rfl, isDigit_of_mem_padded w n (by simp [h])⟩

/-- No blanks are skipped before a number. -/
theorem skipBlanks_padded (w n : Nat) (rest : List Char) :
    skipBlanks (padded w n ++ rest) = padded w n ++ rest := by
  obtain ⟨c, r, h, hc⟩ := exists_padded w n
  rw [h, List.cons_append, skipBlanks_cons (not_isBlank_of_isDigit hc)]

theorem readField_padded {low high n : Nat} (hlow : low ≤ n) (hhigh : n ≤ high)
    (h : high < 100) (rest : List Char) :
    readField low high (padded 2 n ++ rest) = .ok (n, rest) := by
  have hread : readDigits (some 2) (padded 2 n ++ rest) = .ok (n, rest) :=
    readDigits_padded (by decide) (by omega) rest
  simp [readField, skipBlanks_padded, hread, hlow, hhigh, bind, Except.bind]

theorem readSeparator_cons {sep : Char} (hsep : Text.isBlank sep = false) (r : List Char) :
    readSeparator sep (sep :: r) = .ok r := by
  simp [readSeparator, skipBlanks_cons hsep]

/-- A year is followed by a separator, so any number of digits is read. -/
theorem readYear_yearChars {year : Int} (hlow : -2147483648 ≤ year) (hhigh : year ≤ 2147483647)
    (rest : List Char) :
    readYear (yearChars year ++ '-' :: rest) = .ok (year, '-' :: rest) := by
  have hsigned : readDigits none (padded 4 year.natAbs ++ '-' :: rest)
      = .ok (year.natAbs, '-' :: rest) := readDigits_of_stop (by simp) rfl
  by_cases hplain : 0 ≤ year ∧ year ≤ 9999
  · have hread : readDigits (some 4) (padded 4 year.toNat ++ '-' :: rest)
        = .ok (year.toNat, '-' :: rest) := readDigits_padded (by decide) (by omega) _
    obtain ⟨c, r, hc, hdigit⟩ := exists_padded 4 year.toNat
    have hminus : c ≠ '-' := by rintro rfl; simp at hdigit
    have hplus : c ≠ '+' := by rintro rfl; simp at hdigit
    have hskip := skipBlanks_padded 4 year.toNat ('-' :: rest)
    rw [hc, List.cons_append] at hread hskip
    simp only [readYear, yearChars, if_pos hplain, hc, List.cons_append, hskip]
    split
    · next h => exact absurd (List.cons.inj h).1 hminus
    · next h => exact absurd (List.cons.inj h).1 hplus
    · have hyear : ((year.toNat : Nat) : Int) = year := by omega
      simp only [hread, bind, Except.bind, hyear]
      rw [if_pos ⟨hlow, hhigh⟩]
  · by_cases hneg : year < 0
    · have hyear : -((year.natAbs : Nat) : Int) = year := by omega
      simp only [readYear, yearChars, if_neg hplain, if_pos hneg, List.cons_append,
        skipBlanks_cons (show Text.isBlank '-' = false by decide), hsigned, bind, Except.bind,
        hyear]
      rw [if_pos ⟨hlow, hhigh⟩]
    · have hyear : ((year.natAbs : Nat) : Int) = year := by omega
      simp only [readYear, yearChars, if_neg hplain, if_neg hneg, List.cons_append,
        skipBlanks_cons (show Text.isBlank '+' = false by decide), hsigned, bind, Except.bind,
        hyear]
      rw [if_pos ⟨hlow, hhigh⟩]

/-- A fraction with `w` digits counts in units of as many places. -/
theorem readFraction_padded {w n : Nat} (hw : 0 < w) (hw9 : w ≤ 9) (hn : n < 10 ^ w)
    {rest : List Char} (hrest : NoDigit rest) :
    readFraction ('.' :: (padded w n ++ rest)) = .ok (n * 10 ^ (9 - w), rest) := by
  have hlength := length_padded hw hn
  have hread : readDigits (some 9) (padded w n ++ rest) = .ok (n, rest) :=
    readDigits_of_stop (fun k hk => by obtain rfl := Option.some.inj hk; omega) hrest
  have hdrop : rest.dropWhile Char.isDigit = rest := by
    cases rest with
    | nil => rfl
    | cons c r =>
      have hc : c.isDigit = false := by simpa [NoDigit] using hrest
      simp [hc]
  simp [readFraction, hread, hdrop, hlength, bind, Except.bind]

/-- A fraction is read back, with whichever of the three lengths it is written. -/
theorem readFraction_fractionChars {nanos : Nat} (h : nanos < nanosPerSecond) {rest : List Char}
    (hrest : NoDigit rest) (hpoint : rest.head? ≠ some '.') :
    readFraction (fractionChars nanos ++ rest) = .ok (nanos, rest) := by
  have hnanos : nanos < 1000000000 := h
  by_cases hzero : nanos = 0
  · cases rest with
    | nil => simp [fractionChars, hzero, readFraction]
    | cons c r =>
      have hc : c ≠ '.' := by simpa using hpoint
      simp [fractionChars, hzero, readFraction, hc]
  · by_cases hmilli : nanos % 1000000 = 0
    · have hback : nanos / 1000000 * 10 ^ (9 - 3) = nanos := by omega
      simp only [fractionChars, if_neg hzero, if_pos hmilli, List.cons_append]
      rw [readFraction_padded (by decide) (by decide) (by omega) hrest, hback]
    · by_cases hmicro : nanos % 1000 = 0
      · have hback : nanos / 1000 * 10 ^ (9 - 6) = nanos := by omega
        simp only [fractionChars, if_neg hzero, if_neg hmilli, if_pos hmicro, List.cons_append]
        rw [readFraction_padded (by decide) (by decide) (by omega) hrest, hback]
      · have hback : nanos * 10 ^ (9 - 9) = nanos := by omega
        simp only [fractionChars, if_neg hzero, if_neg hmilli, if_neg hmicro, List.cons_append]
        rw [readFraction_padded (by decide) (by decide) (by omega) hrest, hback]

/-! ### Timestamps -/

theorem daysInMonth_le (year : Int) (month : Nat) : daysInMonth year month ≤ 31 := by
  simp only [daysInMonth]
  split
  · split <;> decide
  · split <;> decide

/-- **The parts of a timestamp are read back.** -/
theorem readWritten_append {d : Date} (hvalid : d.Valid) (hyear : yearInRange d.year = true)
    {second nanos : Nat} (hsecond : second < 86400) (leap : Bool)
    (hnanos : nanos < nanosPerSecond) :
    readWritten (dateChars d ++ 'T' :: (clockChars second leap ++ (fractionChars nanos ++ ['Z'])))
      = .ok ⟨d, second / 3600, second / 60 % 60, second % 60 + if leap then 1 else 0, nanos,
        0⟩ := by
  obtain ⟨hmonth, hmonth', hday, hlength⟩ := hvalid
  have hday' : d.day ≤ 31 := Nat.le_trans hlength (daysInMonth_le _ _)
  have hyears : -262143 ≤ d.year ∧ d.year ≤ 262142 := by
    simpa [yearInRange] using hyear
  have hsixty : (second % 60 + if leap then 1 else 0) ≤ 60 := by
    split <;> omega
  have hfraction : readFraction (fractionChars nanos ++ ['Z']) = .ok (nanos, ['Z']) :=
    readFraction_fractionChars hnanos rfl (by decide)
  have hmark : ∀ r, readMark ('T' :: r) = .ok r := fun _ => rfl
  have hoffset : readOffset (skipBlanks ['Z']) = .ok (0, []) := rfl
  simp only [readWritten, dateChars, clockChars, List.append_assoc, List.cons_append,
    readYear_yearChars (show -2147483648 ≤ d.year by omega) (show d.year ≤ 2147483647 by omega),
    readSeparator_cons (show Text.isBlank '-' = false by decide),
    readSeparator_cons (show Text.isBlank ':' = false by decide),
    readField_padded hmonth hmonth' (by decide), readField_padded hday hday' (by decide), hmark,
    readField_padded (Nat.zero_le (second / 3600)) (show second / 3600 ≤ 23 by omega) (by decide),
    readField_padded (Nat.zero_le (second / 60 % 60)) (show second / 60 % 60 ≤ 59 by omega)
      (by decide),
    readField_padded (Nat.zero_le _) hsixty (by decide), hfraction, hoffset, bind, Except.bind]
  rfl

theorem Instant.ofParts?_self (t : Instant) :
    Instant.ofParts? t.day t.second t.nanos = some t := by
  rw [Instant.ofParts?, dif_pos ⟨t.first_le_day, t.day_le_last, t.second_lt, t.nanos_lt⟩]

/-- The parts of a regular instant make that instant again. -/
theorem Written.instant_of_parts {t : Instant} (hregular : t.IsRegular)
    (hyear : yearInRange (Date.ofDay t.day).year = true) :
    Written.instant ⟨.ofDay t.day, t.second / 3600, t.second / 60 % 60,
      t.second % 60 + (if t.inLeapSecond then 1 else 0), t.nanos % nanosPerSecond, 0⟩ = .ok t := by
  have hsecond := t.second_lt
  have hnanos := t.nanos_lt
  -- a leap second is written as the 60th, and only a leap second is
  have hsixty : (t.second % 60 + (if t.inLeapSecond then 1 else 0) = 60 ↔
      nanosPerSecond ≤ t.nanos) ∧
      min (t.second % 60 + (if t.inLeapSecond then 1 else 0)) 59 = t.second % 60 := by
    by_cases h : nanosPerSecond ≤ t.nanos
    · have := hregular h
      simp [Instant.inLeapSecond, h, this]
    · simp only [Instant.inLeapSecond, h, decide_false, Bool.false_eq_true, if_false, iff_false]
      omega
  have hlocal : (t.second / 3600 : Nat) * 3600 + (t.second / 60 % 60 : Nat) * 60 +
      ((t.second % 60 : Nat) : Int) = t.second := by omega
  have hday : (t.day * 86400 + (t.second : Int)) / 86400 = t.day := by omega
  have hclock : ((t.day * 86400 + (t.second : Int)) % 86400).toNat = t.second := by omega
  have hback : (if nanosPerSecond ≤ t.nanos then nanosPerSecond + t.nanos % nanosPerSecond
      else t.nanos % nanosPerSecond) = t.nanos := by
    simp only [nanosPerSecond] at hnanos ⊢
    split <;> omega
  have hutc : ¬ ((0 : Int) ≤ -86400 ∨ (86400 : Int) ≤ 0) := by decide
  have hpossible : (!(decide (Date.ofDay t.day).Valid && true)) = false := by
    simp [Date.valid_ofDay]
  simp only [Written.instant, Written.localSecond, Date.toDay_ofDay, hyear, hpossible, hsixty.1,
    hsixty.2, hback, hlocal, Int.sub_zero, hday, hclock, if_neg hutc, Bool.false_eq_true, if_false,
    Instant.ofParts?_self]

namespace Instant

theorem settled_of_isRegular {t : Instant} (h : t.IsRegular) : t.settled = t := dif_pos h

variable (t : Instant)

/-- What is left of a fraction is less than a second. -/
theorem isRegular_settled : t.settled.IsRegular := by
  by_cases h : t.IsRegular
  · rwa [settled_of_isRegular h]
  · intro hleap
    have hnanos := t.nanos_lt
    rw [settled, dif_neg h] at hleap
    dsimp only at hleap
    omega

theorem settled_eq_iff : t.settled = t ↔ t.IsRegular :=
  ⟨fun h => h ▸ t.isRegular_settled, settled_of_isRegular⟩

/-- A leap second is written as the second after the one that it follows. -/
theorem clockChars_succ {second : Nat} (h : second % 60 ≠ 59) :
    clockChars (second + 1) false = clockChars second true := by
  have hhour : (second + 1) / 3600 = second / 3600 := by omega
  have hminute : (second + 1) / 60 % 60 = second / 60 % 60 := by omega
  have hsecond : (second + 1) % 60 = second % 60 + 1 := by omega
  simp [clockChars, hhour, hminute, hsecond]

theorem text_settled : t.settled.text = t.text := by
  by_cases h : t.IsRegular
  · rw [settled_of_isRegular h]
  · obtain ⟨hleap, hlast⟩ : nanosPerSecond ≤ t.nanos ∧ t.second % 60 ≠ 59 := by
      simpa [IsRegular] using h
    have hnanos := t.nanos_lt
    have hrest : (t.nanos - nanosPerSecond) % nanosPerSecond = t.nanos % nanosPerSecond :=
      (Nat.mod_eq_sub_mod hleap).symm
    have hbefore : decide (nanosPerSecond ≤ t.nanos) = true := decide_eq_true hleap
    have hafter : decide (nanosPerSecond ≤ t.nanos - nanosPerSecond) = false := by
      simp only [decide_eq_false_iff_not]
      omega
    rw [settled, dif_neg h]
    simp only [text, chars, hbefore, hrest, inLeapSecond, hafter, clockChars_succ hlast]

variable {t}

/-- A regular instant is read back from its text. -/
theorem ofText_text_of_isRegular (h : t.IsRegular) : Instant.ofText t.text = .ok t := by
  have hyear : yearInRange (Date.ofDay t.day).year = true := by
    simpa [yearInRange, Instant.year] using t.year_bounds
  have hnanos : t.nanos % nanosPerSecond < nanosPerSecond := Nat.mod_lt _ (by decide)
  have hread := readWritten_append (Date.valid_ofDay t.day) hyear t.second_lt t.inLeapSecond hnanos
  rw [Instant.ofText, Instant.text, String.toList_ofList, Instant.chars, hread]
  exact Written.instant_of_parts h hyear

/-- **The text of an instant is read as the settled instant.** -/
theorem ofText_text (t : Instant) : Instant.ofText t.text = .ok t.settled := by
  rw [← text_settled]
  exact ofText_text_of_isRegular t.isRegular_settled

end Instant

end JobNotice.Calendar
