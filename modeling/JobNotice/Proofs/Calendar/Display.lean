import JobNotice.Proofs.Calendar.Succession
import JobNotice.Proofs.Calendar.Timeline
import JobNotice.Proofs.Calendar.Timestamp

/-!
# Displayed instants are read back

What people are shown of an instant is a local date and time without a fraction, and a label. The
local time is a valid one, it is read back from the text, and without the offset it is the instant
rounded down to a second. So nothing but the fraction is lost: two instants are shown alike, at one
offset and with one label, exactly when they lie in the same second.

Instants near the ends of their range are shown in years beyond it, and times before 1970 are
rounded down as later ones are. A leap second is shown as a 60th second and is left out here.

## Main definitions

* `Calendar.LocalTime` — a date and a time of day
* `Calendar.LocalTime.chars`, `Calendar.readLocalTime` — its text, and how it is read

## Main results

* `Calendar.readLocalTime_chars` — local times are read back
* `Calendar.Instant.toList_display` — a displayed instant is the text of its local time
* `Calendar.Instant.display_reads_back` — what a displayed instant says, and when two are alike
-/

namespace JobNotice.Calendar

/-- A date and a time of day. -/
structure LocalTime where
  date : Date
  hour : Nat
  minute : Nat
  second : Nat
  deriving DecidableEq

/-- The two digits of a number below a hundred. -/
def twoDigits (n : Nat) : List Char := [Nat.digitChar (n / 10), Nat.digitChar (n % 10)]

namespace LocalTime

/-- A date that exists and a time of its day. -/
def Valid (l : LocalTime) : Prop := l.date.Valid ∧ l.hour < 24 ∧ l.minute < 60 ∧ l.second < 60

/-- The second of the day. -/
def clock (l : LocalTime) : Nat := l.hour * 3600 + l.minute * 60 + l.second

/-- `<year>-MM-DD HH:MM:SS`. -/
def chars (l : LocalTime) : List Char :=
  yearChars l.date.year ++ '-' :: (twoDigits l.date.month ++ '-' :: (twoDigits l.date.day ++
    ' ' :: (twoDigits l.hour ++ ':' :: (twoDigits l.minute ++ ':' :: twoDigits l.second))))

/-- The seconds from the start of 1970, at the same offset. -/
def seconds (l : LocalTime) : Int := l.date.toDay * 86400 + l.clock

/-- The local time that comes `n` seconds after the start of 1970. -/
def ofSeconds (n : Int) : LocalTime where
  date := .ofDay (n / 86400)
  hour := (n % 86400).toNat / 3600
  minute := (n % 86400).toNat / 60 % 60
  second := (n % 86400).toNat % 60

end LocalTime

/-- A local time at the head of a text, and what follows it. -/
def readLocalTime (s : List Char) : Scan (LocalTime × List Char) := do
  let (year, s) ← readYear s
  let s ← readSeparator '-' s
  let (month, s) ← readField 1 12 s
  let s ← readSeparator '-' s
  let (day, s) ← readField 1 31 s
  let s ← readMark s
  let (hour, s) ← readField 0 23 s
  let s ← readSeparator ':' s
  let (minute, s) ← readField 0 59 s
  let s ← readSeparator ':' s
  let (second, s) ← readField 0 59 s
  .ok (⟨⟨year, month, day⟩, hour, minute, second⟩, s)

/-! ### Local times -/

theorem padded_two : ∀ {n : Nat}, n < 100 → padded 2 n = twoDigits n := by
  intro n hn
  rw [padded, natChars_eq]
  revert n
  decide

namespace LocalTime

theorem valid_ofSeconds (n : Int) : (ofSeconds n).Valid := by
  refine ⟨Date.valid_ofDay _, ?_, ?_, ?_⟩ <;> simp only [ofSeconds] <;> omega

theorem clock_ofSeconds (n : Int) : ((ofSeconds n).clock : Int) = n % 86400 := by
  simp only [ofSeconds, clock]
  omega

theorem seconds_ofSeconds (n : Int) : (ofSeconds n).seconds = n := by
  have hday : (ofSeconds n).date.toDay = n / 86400 := Date.toDay_ofDay _
  rw [seconds, hday, clock_ofSeconds]
  omega

theorem chars_eq {l : LocalTime} (h : l.Valid) :
    l.chars = dateChars l.date ++ ' ' :: clockChars l.clock false := by
  obtain ⟨⟨-, hmonth, -, hday⟩, hhour, hminute, hsecond⟩ := h
  have hday' := Nat.le_trans hday (daysInMonth_le _ _)
  have hclock : l.clock / 3600 = l.hour ∧ l.clock / 60 % 60 = l.minute ∧
      l.clock % 60 = l.second := by
    rw [clock]
    omega
  simp only [chars, dateChars, clockChars, hclock, Bool.false_eq_true, if_false, Nat.add_zero,
    padded_two (show l.date.month < 100 by omega), padded_two (show l.date.day < 100 by omega),
    padded_two (show l.hour < 100 by omega), padded_two (show l.minute < 100 by omega),
    padded_two (show l.second < 100 by omega), List.append_assoc, List.cons_append]

end LocalTime

/-- **A local time is read back**, whatever follows it. -/
theorem readLocalTime_chars {l : LocalTime} (h : l.Valid) (hlow : -2147483648 ≤ l.date.year)
    (hhigh : l.date.year ≤ 2147483647) (rest : List Char) :
    readLocalTime (l.chars ++ rest) = .ok (l, rest) := by
  obtain ⟨⟨hmonth, hmonth', hday, hlength⟩, hhour, hminute, hsecond⟩ := h
  have hday' := Nat.le_trans hlength (daysInMonth_le _ _)
  have hmark : ∀ r, readMark (' ' :: r) = .ok r := fun _ => rfl
  simp only [readLocalTime, LocalTime.chars,
    ← padded_two (show l.date.month < 100 by omega), ← padded_two (show l.date.day < 100 by omega),
    ← padded_two (show l.hour < 100 by omega), ← padded_two (show l.minute < 100 by omega),
    ← padded_two (show l.second < 100 by omega), List.append_assoc, List.cons_append,
    readYear_yearChars hlow hhigh, readSeparator_cons (show Text.isBlank '-' = false by decide),
    readSeparator_cons (show Text.isBlank ':' = false by decide),
    readField_padded hmonth hmonth' (by decide), readField_padded hday hday' (by decide), hmark,
    readField_padded (Nat.zero_le l.hour) (show l.hour ≤ 23 by omega) (by decide),
    readField_padded (Nat.zero_le l.minute) (show l.minute ≤ 59 by omega) (by decide),
    readField_padded (Nat.zero_le l.second) (show l.second ≤ 59 by omega) (by decide), bind,
    Except.bind]

/-! ### Displayed instants -/

/-- A bound on the years of days up to one beyond those of instants. -/
theorem Date.year_ofDay_le {n : Int} (h0 : firstDay - 1 ≤ n) (h1 : n ≤ lastDay + 1) :
    -2147483648 ≤ (ofDay n).year ∧ (ofDay n).year ≤ 2147483647 := by
  obtain ⟨cycle, y, r, m, hn, hy, hr, -, hm, hdate⟩ := ofDay_eq n
  rw [hdate]
  simp only [daysBeforeYear] at hn
  simp only [firstDay, lastDay] at h0 h1
  simp only
  split <;> omega

namespace Instant

/-- What is shown after a local time. -/
def labelChars (label : String) : List Char := if label = "" then [] else ' ' :: label.toList

variable {t : Instant}

theorem toList_display (ht : t.inLeapSecond = false) (offset : Offset) (label : String) :
    (t.display offset label).toList
      = (LocalTime.ofSeconds (t.seconds + offset.seconds)).chars ++ labelChars label := by
  have hclock : ((t.seconds + offset.seconds) % 86400).toNat
      = (LocalTime.ofSeconds (t.seconds + offset.seconds)).clock := by
    have := LocalTime.clock_ofSeconds (t.seconds + offset.seconds)
    omega
  rw [display, String.toList_ofList, LocalTime.chars_eq (LocalTime.valid_ofSeconds _), localChars,
    labelChars, ht, hclock]
  simp [LocalTime.ofSeconds, String.isEmpty_iff]

/-- The local time of an instant is read back. -/
theorem readLocalTime_display (ht : t.inLeapSecond = false) (offset : Offset) (label : String) :
    readLocalTime (t.display offset label).toList
      = .ok (.ofSeconds (t.seconds + offset.seconds), labelChars label) := by
  have hfirst := t.first_le_day
  have hlast := t.day_le_last
  have hsecond := t.second_lt
  have hwest := offset.west
  have heast := offset.east
  obtain ⟨hlow, hhigh⟩ := Date.year_ofDay_le (n := (t.seconds + offset.seconds) / 86400)
    (by rw [seconds]; omega) (by rw [seconds]; omega)
  rw [toList_display ht]
  exact readLocalTime_chars (LocalTime.valid_ofSeconds _) hlow hhigh _

/-- **What a displayed instant says.** The text is a valid local time with the label after it, and
is read back as that. The date is the one that the calendar counts to, and without the offset the
local time is the instant rounded down to a second. So two instants are shown alike exactly when
they lie in the same second. -/
theorem display_reads_back (ht : t.inLeapSecond = false) (offset : Offset) (label : String) :
    (∃ (l : LocalTime) (day : Int), l.Valid ∧ l.date.IsDay day ∧
      day * 86400 + l.clock - offset.seconds = t.nanoseconds / nanosPerSecond ∧
      (t.display offset label).toList = l.chars ++ labelChars label ∧
      readLocalTime (t.display offset label).toList = .ok (l, labelChars label)) ∧
    ∀ t' : Instant, t'.inLeapSecond = false →
      (t.display offset label = t'.display offset label ↔
        t.nanoseconds / nanosPerSecond = t'.nanoseconds / nanosPerSecond) := by
  constructor
  · refine ⟨.ofSeconds (t.seconds + offset.seconds), (t.seconds + offset.seconds) / 86400,
      LocalTime.valid_ofSeconds _, Date.isDay_iff.mpr ⟨Date.valid_ofDay _, Date.toDay_ofDay _⟩, ?_,
      toList_display ht offset label, readLocalTime_display ht offset label⟩
    rw [LocalTime.clock_ofSeconds, ← seconds_eq ht]
    omega
  · intro t' ht'
    rw [← seconds_eq ht, ← seconds_eq ht']
    constructor
    · intro heq
      have hread := readLocalTime_display ht offset label
      rw [heq, readLocalTime_display ht' offset label] at hread
      simp only [Except.ok.injEq, Prod.mk.injEq, and_true] at hread
      have hsame : t'.seconds + offset.seconds = t.seconds + offset.seconds := by
        rw [← LocalTime.seconds_ofSeconds (t'.seconds + offset.seconds), hread,
          LocalTime.seconds_ofSeconds]
      omega
    · intro heq
      rw [← String.toList_inj, toList_display ht, toList_display ht', heq]

/-- Half an hour and three quarters of a second into the year 0, shown an hour to the west. -/
theorem display_reads_back_of_year_zero :
    let t : Instant := ⟨-719528, 1800, 750000000, by decide, by decide, by decide, by decide⟩
    let t' : Instant := ⟨-719528, 1800, 0, by decide, by decide, by decide, by decide⟩
    let offset : Offset := ⟨-3600, by decide, by decide⟩
    t.inLeapSecond = false ∧ t'.inLeapSecond = false ∧
      t.display offset "EST" = "-0001-12-31 23:30:00 EST" ∧
      (∃ (l : LocalTime) (day : Int), l.Valid ∧ l.date.IsDay day ∧
        day * 86400 + l.clock - offset.seconds = t.nanoseconds / nanosPerSecond ∧
        (t.display offset "EST").toList = l.chars ++ labelChars "EST" ∧
        readLocalTime (t.display offset "EST").toList = .ok (l, labelChars "EST")) ∧
      (t.display offset "EST" = t'.display offset "EST" ↔
        t.nanoseconds / nanosPerSecond = t'.nanoseconds / nanosPerSecond) := by
  intro t t' offset
  have ht : t.inLeapSecond = false := by decide
  have ht' : t'.inLeapSecond = false := by decide
  have h := display_reads_back ht offset "EST"
  exact ⟨ht, ht', by decide +kernel, h.1, h.2 t' ht'⟩

end Instant

end JobNotice.Calendar
