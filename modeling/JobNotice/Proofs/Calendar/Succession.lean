import JobNotice.Proofs.Calendar.DayNumber
import Mathlib.Tactic.IntervalCases

/-!
# Dates one after the other

The calendar itself only says how long a month is, and so which date follows which. Counting days
along that rule, forwards and backwards from 1 January 1970, gives every date its number. The
arithmetic of day numbers, with its cycles of 400 years that begin in March, computes this count.

## Main definitions

* `Calendar.Date.next` — the date after a date
* `Calendar.Date.IsDay` — the numbers of dates as they are counted

## Main results

* `Calendar.Date.toDay_next` — the number of the next date is the next number
* `Calendar.Date.ofDay_toDay` — a date that exists is the date of its number
* `Calendar.Date.isDay_iff` — day numbers count the days
-/

namespace JobNotice.Calendar.Date

/-- The date after a date: in the same month, or else the first of the next one. -/
def next (d : Date) : Date :=
  if d.day < daysInMonth d.year d.month then { d with day := d.day + 1 }
  else if d.month < 12 then ⟨d.year, d.month + 1, 1⟩
  else ⟨d.year + 1, 1, 1⟩

/-- The number of a date, counted from 1 January 1970. -/
inductive IsDay : Date → Int → Prop
  | epoch : IsDay ⟨1970, 1, 1⟩ 0
  | next {d : Date} {n : Int} (h : IsDay d n) : IsDay d.next (n + 1)
  | previous {d : Date} {n : Int} (hvalid : d.Valid) (h : IsDay d.next (n + 1)) : IsDay d n

/-! ### The next date -/

theorem isLeapYear_iff (year : Int) :
    isLeapYear year = true ↔ year % 4 = 0 ∧ (year % 100 ≠ 0 ∨ year % 400 = 0) := by
  simp [isLeapYear]

theorem one_le_daysInMonth (year : Int) (month : Nat) : 1 ≤ daysInMonth year month := by
  simp only [daysInMonth]
  split
  · split <;> decide
  · split <;> decide

/-- February ends the year that began in March before it. -/
theorem daysInMonth_february (year : Int) :
    (daysInMonth year 2 : Int) = daysBeforeYear (year % 400) - daysBeforeYear ((year - 1) % 400) +
      (year / 400 - (year - 1) / 400) * 146097 - 337 := by
  simp only [daysInMonth, if_true, daysBeforeYear]
  split
  · have := (isLeapYear_iff year).mp ‹_›
    omega
  · have := mt (isLeapYear_iff year).mpr ‹_›
    omega

theorem valid_next {d : Date} (h : d.Valid) : d.next.Valid := by
  obtain ⟨hmonth, hmonth', hday, hlength⟩ := h
  rw [next]
  split
  · exact ⟨hmonth, hmonth', by simp only; omega, by simp only; omega⟩
  · split
    · exact ⟨by simp only; omega, by simp only; omega, Nat.le_refl 1, one_le_daysInMonth _ _⟩
    · exact ⟨Nat.le_refl 1, by simp only; omega, Nat.le_refl 1, one_le_daysInMonth _ _⟩

/-- **The number of the next date is the next number.** -/
theorem toDay_next {d : Date} (h : d.Valid) : d.next.toDay = d.toDay + 1 := by
  obtain ⟨year, month, day⟩ := d
  obtain ⟨hmonth, hmonth', hday, hlength⟩ := h
  simp only at hmonth hmonth' hday hlength
  rw [next]
  split
  · simp only [toDay]
    omega
  · obtain rfl : day = daysInMonth year month := by simp only at *; omega
    have hfebruary := daysInMonth_february year
    split
    · interval_cases month <;> simp [toDay, daysInMonth, daysBeforeMonth] at hfebruary ⊢ <;> omega
    · obtain rfl : month = 12 := by simp only at *; omega
      simp [toDay, daysInMonth, daysBeforeMonth]
      omega

/-! ### From a date to its number and back -/

theorem daysBeforeYear_mono {y y' : Int} (h : y ≤ y') :
    daysBeforeYear y + 365 * (y' - y) ≤ daysBeforeYear y' := by
  have hspan : y / 4 = 25 * (y / 100) + y % 100 / 4 := by omega
  have hspan' : y' / 4 = 25 * (y' / 100) + y' % 100 / 4 := by omega
  simp only [daysBeforeYear]
  by_cases hcentury : y / 100 = y' / 100
  · omega
  · have : y / 100 < y' / 100 := by omega
    omega

/-- A year of the cycle that ends with a leap day has one day more. -/
theorem daysBeforeYear_succ {cycle y : Int} (h0 : 0 ≤ y) (h1 : y + 1 < 400)
    (h : isLeapYear (y + cycle * 400 + 1) = true) :
    daysBeforeYear (y + 1) = daysBeforeYear y + 366 := by
  rw [isLeapYear_iff] at h
  simp only [daysBeforeYear]
  omega

section Unique

variable {cycle cycle' y y' r r' : Int}

/-- A day number lies in one cycle only. -/
theorem cycle_unique (hy : 0 ≤ y ∧ y < 400) (hy' : 0 ≤ y' ∧ y' < 400) (hr : 0 ≤ r ∧ r ≤ 365)
    (hr' : 0 ≤ r' ∧ r' ≤ 365)
    (h : cycle * 146097 + daysBeforeYear y + r = cycle' * 146097 + daysBeforeYear y' + r') :
    cycle = cycle' := by
  simp only [daysBeforeYear] at h
  omega

/-- A day of a year lies in no later year. -/
theorem year_le (hy : 0 ≤ y) (hy' : y' < 400) (hr : r ≤ 365) (hr' : 0 ≤ r')
    (hleap : r = 365 → isLeapYear (y + cycle * 400 + 1) = true)
    (h : daysBeforeYear y + r = daysBeforeYear y' + r') : y' ≤ y := by
  by_contra hlater
  by_cases hlast : r = 365
  · have hmono := daysBeforeYear_mono (show y + 1 ≤ y' by omega)
    rw [daysBeforeYear_succ hy (by omega) (hleap hlast)] at hmono
    omega
  · have hmono := daysBeforeYear_mono (show y ≤ y' by omega)
    omega

end Unique

/-- The month of a day of a year that begins in March. -/
theorem month_unique {m r : Int} {day : Nat} (hm : 0 ≤ m ∧ m ≤ 11) (hday : 1 ≤ day)
    (hend : m ≤ 10 → (day : Int) ≤ daysBeforeMonth (m + 1) - daysBeforeMonth m)
    (hlast : m = 11 → day ≤ 29) (hr : r = daysBeforeMonth m + ((day : Int) - 1)) :
    (5 * r + 2) / 153 = m := by
  simp only [daysBeforeMonth] at hend hr
  omega

theorem isLeapYear_of_day {year : Int} {day : Nat} (hday : 29 ≤ day)
    (h : day ≤ daysInMonth year 2) : isLeapYear year = true := by
  by_contra hcommon
  rw [daysInMonth, if_pos rfl, if_neg hcommon] at h
  omega

/-- The parts of a date: its cycle, the year and month that count from March, and its day. -/
theorem exists_parts {d : Date} (h : d.Valid) : ∃ cycle y r m : Int,
    d.toDay + 719468 = cycle * 146097 + daysBeforeYear y + r ∧ (0 ≤ y ∧ y < 400) ∧
      (0 ≤ r ∧ r ≤ 365) ∧ (r = 365 → isLeapYear (y + cycle * 400 + 1) = true) ∧
      m = (5 * r + 2) / 153 ∧
      d = ⟨y + cycle * 400 + (if m < 10 then 0 else 1),
        (if m < 10 then m + 3 else m - 9).toNat, (r - daysBeforeMonth m + 1).toNat⟩ := by
  obtain ⟨year, month, day⟩ := d
  obtain ⟨hmonth, hmonth', hday, hlength⟩ := h
  simp only at hmonth hmonth' hday hlength
  -- the year and the month as they count from March
  obtain ⟨y, m, hm, hyear, hcount, hnumber⟩ : ∃ y m : Int, (0 ≤ m ∧ m ≤ 11) ∧
      year = y + (if m < 10 then 0 else 1) ∧ month = (if m < 10 then m + 3 else m - 9).toNat ∧
      (⟨year, month, day⟩ : Date).toDay = y / 400 * 146097 + daysBeforeYear (y % 400) +
        daysBeforeMonth m + ((day : Int) - 1) - 719468 := by
    by_cases hearly : month ≤ 2
    · have hlate : ¬ (month : Int) + 9 < 10 := by omega
      exact ⟨year - 1, month + 9, by omega, by rw [if_neg hlate]; omega,
        by rw [if_neg hlate]; omega, by simp only [toDay, if_pos hearly]⟩
    · have hlate : (month : Int) - 3 < 10 := by omega
      exact ⟨year, month - 3, by omega, by rw [if_pos hlate]; omega,
        by rw [if_pos hlate]; omega, by simp only [toDay, if_neg hearly]⟩
  have hend : m ≤ 10 → (day : Int) ≤ daysBeforeMonth (m + 1) - daysBeforeMonth m := by
    intro h10
    rw [← daysInMonth_eq year hm.1 h10, ← hcount]
    exact_mod_cast hlength
  have hlast : m = 11 → day ≤ daysInMonth (y + 1) 2 := by
    rintro rfl
    rw [hyear, hcount] at hlength
    exact hlength
  have hlast' : m = 11 → day ≤ 29 := by
    intro h11
    have := hlast h11
    have : daysInMonth (y + 1) 2 ≤ 29 := by
      rw [daysInMonth, if_pos rfl]
      split <;> decide
    omega
  have hmonthOf := month_unique hm hday hend hlast' rfl
  have hstart : 0 ≤ daysBeforeMonth m := by
    simp only [daysBeforeMonth]
    omega
  have hbound : daysBeforeMonth m + ((day : Int) - 1) ≤ 365 := by
    simp only [daysBeforeMonth] at hend ⊢
    omega
  refine ⟨y / 400, y % 400, daysBeforeMonth m + ((day : Int) - 1), m, by omega, by omega,
    ⟨by omega, hbound⟩, ?_, hmonthOf.symm, ?_⟩
  · intro hleap
    obtain rfl : m = 11 := by omega
    have hbefore : daysBeforeMonth 11 = 337 := rfl
    have hsame : y % 400 + y / 400 * 400 + 1 = y + 1 := by omega
    rw [hsame]
    exact isLeapYear_of_day (by omega) (hlast rfl)
  · have hsame : y % 400 + y / 400 * 400 = y := by omega
    have hback : (daysBeforeMonth m + ((day : Int) - 1) - daysBeforeMonth m + 1).toNat = day := by
      omega
    rw [hsame, hback, ← hyear, ← hcount]

/-- **A date that exists is the date of its number.** -/
theorem ofDay_toDay {d : Date} (h : d.Valid) : ofDay d.toDay = d := by
  obtain ⟨cycle, y, r, m, hnumber, hy, hr, hleap, rfl, hdate⟩ := exists_parts h
  obtain ⟨cycle', y', r', m', hnumber', hy', hr', hleap', rfl, hdate'⟩ := ofDay_eq d.toDay
  have hsum := hnumber.symm.trans hnumber'
  obtain rfl : cycle = cycle' := cycle_unique hy hy' hr hr' hsum
  obtain rfl : y = y' := by
    have hle := year_le hy.1 hy'.2 hr.2 hr'.1 hleap (by omega)
    have hle' := year_le hy'.1 hy.2 hr'.2 hr.1 hleap' (by omega)
    omega
  obtain rfl : r = r' := by omega
  rw [hdate', ← hdate]

theorem ofDay_succ (n : Int) : ofDay (n + 1) = (ofDay n).next := by
  have hnext := toDay_next (valid_ofDay n)
  rw [toDay_ofDay] at hnext
  rw [← hnext, ofDay_toDay (valid_next (valid_ofDay n))]

/-- **Day numbers count the days.** -/
theorem isDay_iff {d : Date} {n : Int} : IsDay d n ↔ d.Valid ∧ d.toDay = n := by
  constructor
  · intro h
    induction h with
    | epoch => decide
    | next h ih => exact ⟨valid_next ih.1, by rw [toDay_next ih.1, ih.2]⟩
    | previous hvalid h ih =>
      rw [toDay_next hvalid] at ih
      exact ⟨hvalid, by omega⟩
  · rintro ⟨hvalid, rfl⟩
    have hcount : ∀ n, IsDay (ofDay n) n := by
      intro n
      induction n using Int.induction_on with
      | zero => exact .epoch
      | succ n ih => exact ofDay_succ n ▸ ih.next
      | pred n ih =>
        refine .previous (valid_ofDay _) ?_
        rwa [← ofDay_succ, Int.sub_add_cancel]
    have h := hcount d.toDay
    rwa [ofDay_toDay hvalid] at h

end JobNotice.Calendar.Date
