import JobNotice.Calendar.Instant

/-!
# Day numbers and their dates

The date of a day number is found by counting days as if no year had a leap day. That this gives the
right year is seen from the place of a day in its cycle of 400 years: three centuries of 36524 days
and one of 36525, each of 24 spans of 1461 days and a last one that is a day shorter, but for the
last of all. From there on everything is counted in months of a year that begins in March.

## Main definitions

* `Calendar.Date.CyclePlace` — the place of a day in its cycle

## Main results

* `Calendar.Date.toDay_ofDay` — a day number is the number of its date
* `Calendar.Date.valid_ofDay` — the date of a day number exists
* `Calendar.Date.year_ofDay_bounds`, `Calendar.Instant.year_bounds` — the years that instants lie in
-/

namespace JobNotice.Calendar

namespace Date

/-! ### The cycle of 400 years -/

/-- A day of the 400-year cycle, taken apart into centuries, spans of four years, years and days of
the year. Only the last year of a span has 366 days, and of the last spans of centuries only the
last one. -/
structure CyclePlace (c a k j r : Int) : Prop where
  eq : c = 36524 * a + 1461 * k + 365 * j + r
  century : 0 ≤ a ∧ a ≤ 3
  span : 0 ≤ k ∧ k ≤ 24
  year : 0 ≤ j ∧ j ≤ 3
  day : 0 ≤ r ∧ r ≤ 365
  leap : r = 365 → j = 3 ∧ (k < 24 ∨ a = 3)

theorem exists_cyclePlace {c : Int} (h0 : 0 ≤ c) (h1 : c < 146097) :
    ∃ a k j r, CyclePlace c a k j r := by
  obtain ⟨a, e, hc, ha, he⟩ : ∃ a e : Int, c = 36524 * a + e ∧ (0 ≤ a ∧ a ≤ 3) ∧
      0 ≤ e ∧ (e < 36524 ∨ e = 36524 ∧ a = 3) :=
    ⟨min (c / 36524) 3, c - 36524 * min (c / 36524) 3, by omega, by omega, by omega, by omega⟩
  obtain ⟨k, f, hk, hk', hf⟩ : ∃ k f : Int, e = 1461 * k + f ∧ (0 ≤ k ∧ k ≤ 24) ∧
      0 ≤ f ∧ (f < 1460 ∨ f = 1460 ∧ (k < 24 ∨ a = 3)) :=
    ⟨min (e / 1461) 24, e - 1461 * min (e / 1461) 24, by omega, by omega, by omega, by omega⟩
  obtain ⟨j, r, hj, hj', hr⟩ : ∃ j r : Int, f = 365 * j + r ∧ (0 ≤ j ∧ j ≤ 3) ∧
      0 ≤ r ∧ (r < 365 ∨ r = 365 ∧ f = 1460 ∧ j = 3) :=
    ⟨min (f / 365) 3, f - 365 * min (f / 365) 3, by omega, by omega, by omega, by omega⟩
  exact ⟨a, k, j, r, by omega, ha, hk', hj', by omega, by omega⟩

section Place

variable {c a k j r : Int}

theorem CyclePlace.daysBeforeYear (h : CyclePlace c a k j r) :
    daysBeforeYear (100 * a + 4 * k + j) = 36524 * a + 1461 * k + 365 * j := by
  have := h.year
  have := h.span
  unfold Date.daysBeforeYear
  omega

/-- The year of a day of the cycle: days are counted as if no year had a leap day. -/
theorem CyclePlace.year_eq (h : CyclePlace c a k j r) :
    (c - c / 1460 + c / 36524 - c / 146096) / 365 = 100 * a + 4 * k + j := by
  obtain ⟨rfl, ha, hk, hj, hr, hleap⟩ := h
  have hspan : (36524 * a + 1461 * k + 365 * j + r) / 1460
      = 25 * a + k + (24 * a + k + 365 * j + r) / 1460 := by omega
  have hcentury : (36524 * a + 1461 * k + 365 * j + r) / 36524
      = a + (1461 * k + 365 * j + r) / 36524 := by omega
  have hcycle : (36524 * a + 1461 * k + 365 * j + r) / 146096
      = (36524 * a + 1461 * k + 365 * j + r) / 36524 / 4 := by omega
  have hcarry : (24 * a + k + 365 * j + r) / 1460 = 0 ∨ (24 * a + k + 365 * j + r) / 1460 = 1 := by
    omega
  have hlast : (1461 * k + 365 * j + r) / 36524 = 0 ∨
      (1461 * k + 365 * j + r) / 36524 = 1 ∧ a = 3 ∧ k = 24 ∧ j = 3 ∧ r = 365 := by omega
  rw [hspan, hcycle, hcentury]
  rcases hcarry with hcarry | hcarry <;> rcases hlast with hlast | ⟨hlast, rfl, rfl, rfl, rfl⟩ <;>
    rw [hcarry, hlast] <;> omega

end Place

/-! ### Dates -/

/-- What the date of a day number is made of. -/
theorem ofDay_eq (n : Int) : ∃ cycle y r m : Int,
    n + 719468 = cycle * 146097 + daysBeforeYear y + r ∧ (0 ≤ y ∧ y < 400) ∧ (0 ≤ r ∧ r ≤ 365) ∧
      (r = 365 → isLeapYear (y + cycle * 400 + 1) = true) ∧ m = (5 * r + 2) / 153 ∧
      ofDay n = ⟨y + cycle * 400 + (if m < 10 then 0 else 1),
        (if m < 10 then m + 3 else m - 9).toNat, (r - daysBeforeMonth m + 1).toNat⟩ := by
  obtain ⟨a, k, j, r, h⟩ := exists_cyclePlace (c := (n + 719468) % 146097) (by omega) (by omega)
  have hr : (n + 719468) % 146097 - daysBeforeYear (100 * a + 4 * k + j) = r := by
    have := h.eq
    rw [h.daysBeforeYear]
    omega
  refine ⟨(n + 719468) / 146097, 100 * a + 4 * k + j, r, _, ?_, ?_, h.day, ?_, rfl, ?_⟩
  · omega
  · have := h.century
    have := h.span
    have := h.year
    omega
  · intro hlast
    have := h.leap hlast
    have := h.span
    simp only [isLeapYear, Bool.and_eq_true, Bool.or_eq_true, beq_iff_eq, bne_iff_ne]
    omega
  · simp only [ofDay, h.year_eq, hr]
    have hm : 0 ≤ (5 * r + 2) / 153 ∧ (5 * r + 2) / 153 ≤ 11 := by
      have := h.day
      omega
    by_cases h10 : (5 * r + 2) / 153 < 10
    · have : ¬ ((5 * r + 2) / 153 + 3 ≤ 2) := by omega
      simp [h10, this]
    · have : (5 * r + 2) / 153 - 9 ≤ 2 := by omega
      simp [h10, this]

/-- **A day number is the number of its date.** -/
theorem toDay_ofDay (n : Int) : (ofDay n).toDay = n := by
  obtain ⟨cycle, y, r, m, hn, hy, hr, -, hm, hdate⟩ := ofDay_eq n
  have hmonth : 0 ≤ m ∧ m ≤ 11 := by omega
  have hday : 0 ≤ r - daysBeforeMonth m := by
    unfold daysBeforeMonth
    omega
  have hyear : (y + cycle * 400) / 400 = cycle ∧ (y + cycle * 400) % 400 = y := by omega
  rw [hdate, toDay]
  by_cases h10 : m < 10
  · have hlate : ¬ (m + 3).toNat ≤ 2 := by omega
    have hsame : ((m + 3).toNat : Int) - 3 = m := by omega
    simp only [h10, if_true, hlate, if_false, hsame, Int.add_zero, hyear]
    omega
  · have hearly : (m - 9).toNat ≤ 2 := by omega
    have hsame : ((m - 9).toNat : Int) + 9 = m := by omega
    simp only [h10, if_false, hearly, if_true, hsame, Int.add_sub_cancel, hyear]
    omega

/-- The months of a year that begins in March, but for its last one, have the same days in every
year. -/
theorem daysInMonth_eq (year : Int) {m : Int} (h0 : 0 ≤ m) (h1 : m ≤ 10) :
    (daysInMonth year (if m < 10 then m + 3 else m - 9).toNat : Int)
      = daysBeforeMonth (m + 1) - daysBeforeMonth m := by
  have hmonths : m = 0 ∨ m = 1 ∨ m = 2 ∨ m = 3 ∨ m = 4 ∨ m = 5 ∨ m = 6 ∨ m = 7 ∨ m = 8 ∨ m = 9 ∨
      m = 10 := by omega
  rcases hmonths with rfl | rfl | rfl | rfl | rfl | rfl | rfl | rfl | rfl | rfl | rfl <;> rfl

/-- **The date of a day number exists.** -/
theorem valid_ofDay (n : Int) : (ofDay n).Valid := by
  obtain ⟨cycle, y, r, m, -, hy, hr, hleap, hm, hdate⟩ := ofDay_eq n
  have hstart : 0 ≤ r - daysBeforeMonth m := by
    unfold daysBeforeMonth
    omega
  have hmonth : 0 ≤ m ∧ m ≤ 11 := by omega
  have hbounds : 1 ≤ (if m < 10 then m + 3 else m - 9).toNat ∧
      (if m < 10 then m + 3 else m - 9).toNat ≤ 12 := by
    split <;> omega
  have hend : (r - daysBeforeMonth m + 1).toNat
      ≤ daysInMonth (ofDay n).year (if m < 10 then m + 3 else m - 9).toNat := by
    by_cases hlast : m = 11
    · subst hlast
      have hyear : (ofDay n).year = y + cycle * 400 + 1 := by rw [hdate]; rfl
      have hbefore : daysBeforeMonth 11 = 337 := rfl
      rw [hyear, hbefore]
      by_cases hday : r = 365
      · simp [hday, daysInMonth, hleap hday]
      · have hlength : 28 ≤ daysInMonth (y + cycle * 400 + 1) 2 := by
          simp only [daysInMonth, if_true]
          split <;> omega
        have : (r - 337 + 1).toNat ≤ 28 := by omega
        exact Nat.le_trans this hlength
    · have hlength := daysInMonth_eq (ofDay n).year hmonth.1 (by omega)
      have hnext : r < daysBeforeMonth (m + 1) := by
        unfold daysBeforeMonth
        omega
      omega
  rw [hdate] at hend ⊢
  exact ⟨hbounds.1, hbounds.2, by simp only; omega, hend⟩

/-- The first and the last day that an instant can lie in begin and end a year. -/
theorem year_ofDay_bounds {n : Int} (h0 : firstDay ≤ n) (h1 : n ≤ lastDay) :
    -262143 ≤ (ofDay n).year ∧ (ofDay n).year ≤ 262142 := by
  obtain ⟨cycle, y, r, m, hn, hy, hr, -, hm, hdate⟩ := ofDay_eq n
  have hfirst : -96465292 ≤ n := h0
  have hlast : n ≤ 95026236 := h1
  have hcarry : (if m < 10 then 0 else 1 : Int) = 0 ∧ m < 10 ∨
      (if m < 10 then 0 else 1 : Int) = 1 ∧ 10 ≤ m := by
    split <;> omega
  unfold daysBeforeYear at hn
  -- only the first cycle and the last one are cut off
  have hcycle : cycle = -656 ∨ -655 ≤ cycle ∧ cycle ≤ 654 ∨ cycle = 655 := by omega
  rw [hdate]
  rcases hcycle with rfl | hcycle | rfl
  · have hyear : 257 ≤ y ∨ y = 256 ∧ 306 ≤ r := by omega
    simp only
    omega
  · simp only
    omega
  · have hyear : y ≤ 141 ∨ y = 142 ∧ r ≤ 305 := by omega
    simp only
    omega

end Date

theorem Instant.year_bounds (t : Instant) : -262143 ≤ t.year ∧ t.year ≤ 262142 :=
  Date.year_ofDay_bounds t.first_le_day t.day_le_last

end JobNotice.Calendar
