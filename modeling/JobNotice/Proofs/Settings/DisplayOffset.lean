import JobNotice.Settings.Basic
import Mathlib.Algebra.Group.Int.Defs

/-!
# Which display offsets are accepted

The offset in which times are shown is set in minutes and kept in seconds. The seconds are computed
in 32 bits, and their range is judged afterwards. The numbers of minutes are those of less than a
day, and each is accepted as what it is. The others are reported as out of range as long as there
are seconds to judge: from `35791395` minutes on the product takes more than 32 bits, and the program
stops before it comes to the judgement.

## Main results

* `Settings.checkedMul_eq_some`, `Settings.checkedMul_eq_none` — products that fit 32 bits
* `Calendar.Offset.ofSeconds?_eq_some` — an offset is accepted with the seconds it has
* `Settings.defaults_eq_ok`, `Settings.defaults_eq_error` — what all notifications share, or why not
* `Settings.defaults_offset` — what becomes of every number of minutes
-/

namespace JobNotice

theorem Calendar.Offset.ofSeconds?_eq_some {n : Int} {offset : Calendar.Offset} :
    Calendar.Offset.ofSeconds? n = some offset ↔ offset.seconds = n := by
  rw [Calendar.Offset.ofSeconds?]
  constructor
  · intro h
    split at h
    · rw [← Option.some.inj h]
    · simp at h
  · rintro rfl
    rw [dif_pos ⟨offset.west, offset.east⟩]

theorem Calendar.Offset.ofSeconds?_eq_none {n : Int} :
    Calendar.Offset.ofSeconds? n = none ↔ ¬ (-86400 < n ∧ n < 86400) := by
  rw [Calendar.Offset.ofSeconds?]
  split <;> simp_all

namespace Settings

/-! ### Products in 32 bits -/

/-- A product that fits is the product of the numbers. -/
theorem checkedMul_eq_some {a b c : Int32} :
    checkedMul a b = some c ↔ c.toInt = a.toInt * b.toInt := by
  have hlow := Int32.le_toInt c
  have hhigh := Int32.toInt_lt c
  have hmin : Int32.minValue.toInt = -2 ^ 31 := by decide
  have hmax : Int32.maxValue.toInt = 2 ^ 31 - 1 := by decide
  simp only [checkedMul, hmin, hmax]
  constructor
  · intro h
    split at h
    · rename_i hfits
      rw [← Option.some.inj h, Int32.toInt_ofInt_of_le (by omega) (by omega)]
    · simp at h
  · intro h
    rw [if_pos (by omega), ← h, Int32.ofInt_toInt]

theorem checkedMul_eq_none {a b : Int32} :
    checkedMul a b = none ↔ ¬ (-2 ^ 31 ≤ a.toInt * b.toInt ∧ a.toInt * b.toInt < 2 ^ 31) := by
  have hmin : Int32.minValue.toInt = -2 ^ 31 := by decide
  have hmax : Int32.maxValue.toInt = 2 ^ 31 - 1 := by decide
  simp only [checkedMul, hmin, hmax]
  split
  · simp only [reduceCtorEq, false_iff]
    omega
  · simp only [true_iff]
    omega

/-! ### Settings -/

variable {s : Settings}

/-- What all notifications share comes from the settings, the offset with 60 seconds a minute. -/
theorem defaults_eq_ok {d : Job.Defaults} :
    s.defaults = .ok d ↔ d.links = s.links ∧ d.logoUrl = s.branding.logoUrl ∧
      d.label = s.display.label ∧ d.offset.seconds = s.display.offsetMinutes.toInt * 60 := by
  obtain ⟨links, logoUrl, offset, label⟩ := d
  have hsixty : (60 : Int32).toInt = 60 := by decide
  rw [defaults]
  cases hproduct : checkedMul s.display.offsetMinutes 60 with
  | none =>
    -- an offset of less than a day is far from what 32 bits hold
    rw [checkedMul_eq_none, hsixty] at hproduct
    have hwest := offset.west
    have heast := offset.east
    simp only [reduceCtorEq, false_iff]
    rintro ⟨-, -, -, h⟩
    omega
  | some seconds =>
    rw [checkedMul_eq_some, hsixty] at hproduct
    dsimp only
    rw [← hproduct, ← Calendar.Offset.ofSeconds?_eq_some]
    cases Calendar.Offset.ofSeconds? seconds.toInt with
    | none => simp
    | some offset' =>
      simp only [Except.ok.injEq, Job.Defaults.mk.injEq, Option.some.injEq]
      constructor
      · rintro ⟨rfl, rfl, rfl, rfl⟩
        exact ⟨rfl, rfl, rfl, rfl⟩
      · rintro ⟨rfl, rfl, rfl, rfl⟩
        exact ⟨rfl, rfl, rfl, rfl⟩

/-- An offset is reported if there are seconds of it that come to a day or more. Without them the
program stops. -/
theorem defaults_eq_error {e : OffsetError} :
    let minutes := s.display.offsetMinutes.toInt
    let fits := -35791394 ≤ minutes ∧ minutes ≤ 35791394
    s.defaults = .error e ↔
      (e = .outOfRange s.display.offsetMinutes ∧ fits ∧ ¬ (-1440 < minutes ∧ minutes < 1440)) ∨
        (e = .overflow s.display.offsetMinutes ∧ ¬ fits) := by
  intro minutes fits
  have hsixty : (60 : Int32).toInt = 60 := by decide
  rw [defaults]
  cases hproduct : checkedMul s.display.offsetMinutes 60 with
  | none =>
    rw [checkedMul_eq_none, hsixty] at hproduct
    have hnot : ¬ fits := by
      simp only [fits, minutes]
      omega
    simp only [hnot, false_and, and_false, not_false_eq_true, and_true, false_or,
      Except.error.injEq]
    exact eq_comm
  | some seconds =>
    rw [checkedMul_eq_some, hsixty] at hproduct
    have hlow := Int32.le_toInt seconds
    have hhigh := Int32.toInt_lt seconds
    have hfits : fits := by
      simp only [fits, minutes]
      omega
    have hday : ¬ (-1440 < minutes ∧ minutes < 1440) ↔
        Calendar.Offset.ofSeconds? seconds.toInt = none := by
      rw [Calendar.Offset.ofSeconds?_eq_none, hproduct]
      simp only [minutes]
      omega
    rw [hday]
    dsimp only
    cases Calendar.Offset.ofSeconds? seconds.toInt with
    | none =>
      simp only [hfits, and_true, not_true_eq_false, and_false, or_false,
        Except.error.injEq]
      exact eq_comm
    | some offset => simp [hfits]

/-- **What becomes of every number of minutes.** An offset is accepted if and only if it is less
than a day, and is then 60 seconds for each of its minutes. Any other offset is reported as out of
range if its seconds fit 32 bits. If they do not, the program stops and reports nothing. -/
theorem defaults_offset (s : Settings) :
    let minutes := s.display.offsetMinutes.toInt
    (∀ d, s.defaults = .ok d ↔ d.links = s.links ∧ d.logoUrl = s.branding.logoUrl ∧
      d.label = s.display.label ∧ d.offset.seconds = minutes * 60) ∧
    ((∃ d, s.defaults = .ok d) ↔ -1440 < minutes ∧ minutes < 1440) ∧
    (s.defaults = .error (.outOfRange s.display.offsetMinutes) ↔
      ¬ (-1440 < minutes ∧ minutes < 1440) ∧ -35791394 ≤ minutes ∧ minutes ≤ 35791394) ∧
    (s.defaults = .error (.overflow s.display.offsetMinutes) ↔
      ¬ (-35791394 ≤ minutes ∧ minutes ≤ 35791394)) := by
  intro minutes
  refine ⟨fun d => defaults_eq_ok, ⟨?_, ?_⟩, ?_, ?_⟩
  · rintro ⟨d, hd⟩
    obtain ⟨-, -, -, hseconds⟩ := defaults_eq_ok.mp hd
    have hwest := d.offset.west
    have heast := d.offset.east
    omega
  · intro hday
    refine ⟨⟨s.links, s.branding.logoUrl, ⟨minutes * 60, ?_, ?_⟩, s.display.label⟩, ?_⟩
    · omega
    · omega
    · exact defaults_eq_ok.mpr ⟨rfl, rfl, rfl, rfl⟩
  · simp [defaults_eq_error, minutes, and_comm]
  · simp [defaults_eq_error, minutes]

/-- More than 136 years are neither accepted nor reported. -/
theorem defaults_of_years :
    let s : Settings := { display := { offsetMinutes := 71582788 } }
    ¬ (-1440 < s.display.offsetMinutes.toInt ∧ s.display.offsetMinutes.toInt < 1440) ∧
      s.defaults = .error (.overflow 71582788) ∧
      s.defaults ≠ .error (.outOfRange s.display.offsetMinutes) := by
  intro s
  have hstops : s.defaults = .error (.overflow 71582788) :=
    defaults_eq_error.mpr (.inr ⟨rfl, by decide⟩)
  refine ⟨by decide, hstops, ?_⟩
  rw [hstops]
  exact fun h => nomatch h

end Settings

end JobNotice
