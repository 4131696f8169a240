import JobNotice.Calendar.Rfc3339
import JobNotice.Proofs.Text.Reading
import Mathlib.Data.List.TakeWhile

/-!
# What is read as a timestamp

The reader is lenient about how a timestamp is written, not about what it says: a fraction is less
than a second, and an offset is a number of whole minutes. So a second has the same place in its
minute in every offset, and only a 60th second makes a leap second. Whatever the text, the instant
that it is read as is regular.

## Main definitions

* `Calendar.Written.InBounds` — the bounds of a fraction and an offset

## Main results

* `Calendar.inBounds_of_readWritten` — what is read keeps to its bounds
* `Calendar.Instant.isRegular_of_ofText` — instants that have been read are regular
-/

namespace JobNotice.Calendar

variable {s r : List Char}

/-! ### Numbers -/

/-- A number has as many digits as have been read, and no more than it may have. -/
theorem readDigits_lt {w n : Nat} (h : readDigits (some w) s = .ok (n, r)) :
    n < 10 ^ (s.length - r.length) ∧ s.length - r.length ≤ w := by
  unfold readDigits at h
  dsimp only at h
  have hdigits : ∀ c ∈ (s.take w).takeWhile Char.isDigit, c.isDigit = true :=
    fun c hc => List.mem_takeWhile_imp hc
  have hlength : ((s.take w).takeWhile Char.isDigit).length ≤ (s.take w).length :=
    (List.takeWhile_sublist _).length_le
  generalize (s.take w).takeWhile Char.isDigit = ds at h hdigits hlength
  rw [List.length_take] at hlength
  split at h
  · cases h
  · cases h
    have hread : s.length - (s.drop ds.length).length = ds.length := by
      rw [List.length_drop]
      omega
    rw [hread]
    exact ⟨Text.digitsNat_lt hdigits, by omega⟩

/-- A fraction is less than a second. -/
theorem readFraction_lt {n : Nat} (h : readFraction s = .ok (n, r)) : n < nanosPerSecond := by
  unfold readFraction at h
  split at h
  · next s =>
    obtain ⟨⟨m, r'⟩, hread, h⟩ := exists_of_bind_eq_ok h
    cases h
    obtain ⟨hm, hle⟩ := readDigits_lt hread
    generalize s.length - r'.length = k at hm hle
    calc m * 10 ^ (9 - k)
        < 10 ^ k * 10 ^ (9 - k) := Nat.mul_lt_mul_of_pos_right hm (Nat.pow_pos (by decide))
      _ = 10 ^ 9 := by rw [← Nat.pow_add, Nat.add_sub_cancel' hle]
  · cases h
    decide

/-! ### Offsets -/

theorem readSignedOffset_mod {negative : Bool} {offset : Int}
    (h : readSignedOffset negative s = .ok (offset, r)) : offset % 60 = 0 := by
  obtain ⟨⟨hours, r'⟩, -, h⟩ := exists_of_bind_eq_ok h
  obtain ⟨⟨minutes, r''⟩, -, h⟩ := exists_of_bind_eq_ok h
  dsimp only at h
  cases h
  split <;> omega

/-- An offset is a number of whole minutes. -/
theorem readOffset_mod {offset : Int} (h : readOffset s = .ok (offset, r)) : offset % 60 = 0 := by
  unfold readOffset at h
  split at h
  · cases h
  · split at h
    · cases h
      rfl
    · split at h
      · cases h
        rfl
      · split at h
        · exact readSignedOffset_mod h
        · split at h
          · exact readSignedOffset_mod h
          · cases h

/-! ### Timestamps -/

/-- The bounds of a fraction and an offset. -/
structure Written.InBounds (w : Written) : Prop where
  nanos_lt : w.nanos < nanosPerSecond
  offset_mod : w.offset % 60 = 0

/-- What is read keeps to its bounds. -/
theorem inBounds_of_readWritten {w : Written} (h : readWritten s = .ok w) : w.InBounds := by
  obtain ⟨⟨year, s⟩, -, h⟩ := exists_of_bind_eq_ok h
  obtain ⟨s, -, h⟩ := exists_of_bind_eq_ok h
  obtain ⟨⟨month, s⟩, -, h⟩ := exists_of_bind_eq_ok h
  obtain ⟨s, -, h⟩ := exists_of_bind_eq_ok h
  obtain ⟨⟨day, s⟩, -, h⟩ := exists_of_bind_eq_ok h
  obtain ⟨s, -, h⟩ := exists_of_bind_eq_ok h
  obtain ⟨⟨hour, s⟩, -, h⟩ := exists_of_bind_eq_ok h
  obtain ⟨s, -, h⟩ := exists_of_bind_eq_ok h
  obtain ⟨⟨minute, s⟩, -, h⟩ := exists_of_bind_eq_ok h
  obtain ⟨s, -, h⟩ := exists_of_bind_eq_ok h
  obtain ⟨⟨second, s⟩, -, h⟩ := exists_of_bind_eq_ok h
  obtain ⟨⟨nanos, s⟩, hnanos, h⟩ := exists_of_bind_eq_ok h
  obtain ⟨⟨offset, s⟩, hoffset, h⟩ := exists_of_bind_eq_ok h
  dsimp only at h
  split at h
  · cases h
  · cases h
    exact ⟨readFraction_lt hnanos, readOffset_mod hoffset⟩

theorem Instant.parts_of_ofParts? {day : Int} {second nanos : Nat} {t : Instant}
    (h : Instant.ofParts? day second nanos = some t) :
    t.day = day ∧ t.second = second ∧ t.nanos = nanos := by
  unfold Instant.ofParts? at h
  split at h
  · cases h
    exact ⟨rfl, rfl, rfl⟩
  · cases h

/-- The parts of the instant that a timestamp denotes. -/
theorem Written.parts_of_instant {w : Written} {t : Instant} (h : w.instant = .ok t) :
    t.second = ((w.date.toDay * 86400 + w.localSecond - w.offset) % 86400).toNat ∧
      t.nanos = if w.second = 60 then nanosPerSecond + w.nanos else w.nanos := by
  unfold instant at h
  split at h
  · cases h
  · split at h
    · cases h
    · dsimp only at h
      generalize hparts : Instant.ofParts? _ _ _ = parts at h
      cases parts with
      | none => cases h
      | some t' =>
        cases h
        exact (Instant.parts_of_ofParts? hparts).2

/-- A second keeps its place in the minute, whatever the date and the offset. -/
theorem Written.isRegular_of_instant {w : Written} (hw : w.InBounds) {t : Instant}
    (h : w.instant = .ok t) : t.IsRegular := by
  obtain ⟨hnanos, hoffset⟩ := hw
  obtain ⟨hsecond, hfraction⟩ := parts_of_instant h
  intro hleap
  rw [hfraction] at hleap
  have hsixty : w.second = 60 := by
    split at hleap
    · assumption
    · omega
  rw [hsecond, localSecond, hsixty]
  omega

/-- **Instants that have been read are regular.** -/
theorem Instant.isRegular_of_ofText {text : String} {t : Instant}
    (h : Instant.ofText text = .ok t) : t.IsRegular := by
  obtain ⟨w, hread, h⟩ := exists_of_bind_eq_ok h
  exact Written.isRegular_of_instant (inBounds_of_readWritten hread) h

end JobNotice.Calendar
