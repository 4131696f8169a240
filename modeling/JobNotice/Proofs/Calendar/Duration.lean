import JobNotice.Calendar.Phrase
import JobNotice.Proofs.Calendar.Timestamp
import JobNotice.Proofs.Decimal.Numeral
import Mathlib.Algebra.Ring.Nat
import Mathlib.Data.List.Basic

/-!
# Durations are read back from their words

A part of a duration is a numeral, a blank and a unit, and holds no comma. So the words are taken
apart where they were joined, and each part is read as what it was written from. The parts that are
left out are worth nothing.

## Main definitions

* `Calendar.units` — the units and their seconds
* `Calendar.partSeconds` — the seconds of a part

## Main results

* `Calendar.readPart?_counted` — a part is read back
* `Calendar.splitParts_intercalate` — joined parts are taken apart again
* `Calendar.ofPhrase?_phrase` — durations are read back
-/

namespace JobNotice.Calendar

/-! ### Parts -/

/-- The units and their seconds. -/
def units : List (String × Nat) := [("hour", 3600), ("minute", 60), ("second", 1)]

theorem padded_zero (n : Nat) : padded 0 n = (Decimal.natText n).toList := by
  simp [padded, Decimal.natChars, Decimal.natText]

/-- A numeral is read up to something that is no digit. -/
theorem readCount_natText (n : Nat) {rest : List Char} (hrest : NoDigit rest) :
    readCount ((Decimal.natText n).toList ++ rest) = (n, rest) := by
  have hdigits : ∀ c ∈ (Decimal.natText n).toList, c.isDigit = true :=
    fun c hc => Decimal.isDigit_of_mem_natText hc
  have hstop : rest.takeWhile Char.isDigit = [] ∧ rest.dropWhile Char.isDigit = rest := by
    cases rest with
    | nil => exact ⟨rfl, rfl⟩
    | cons c r =>
      have hc : c.isDigit = false := by simpa [NoDigit] using hrest
      simp [hc]
  rw [readCount, List.takeWhile_append_of_pos hdigits, List.dropWhile_append_of_pos hdigits,
    hstop.1, hstop.2, List.append_nil, ← padded_zero, digitsNat_padded]

/-- The unit of a count, in the singular or the plural. -/
theorem unitSeconds?_plural {unit : String} {seconds : Nat}
    (h : (unit, seconds) ∈ units) (n : Nat) :
    unitSeconds? (unit ++ if n = 1 then "" else "s").toList = some seconds ∧
      ',' ∉ (unit ++ if n = 1 then "" else "s").toList := by
  simp only [units, List.mem_cons, Prod.mk.injEq, List.not_mem_nil, or_false] at h
  rcases h with ⟨rfl, rfl⟩ | ⟨rfl, rfl⟩ | ⟨rfl, rfl⟩ <;> split <;> decide

theorem toList_counted (n : Nat) (unit : String) :
    (counted n unit).toList
      = (Decimal.natText n).toList ++ ' ' :: (unit ++ if n = 1 then "" else "s").toList := by
  simp [counted, String.append_assoc]

section Part

variable {unit : String} {seconds : Nat}

/-- **A count of a unit is read back.** -/
theorem readPart?_counted
    (h : (unit, seconds) ∈ units) (n : Nat) :
    readPart? (counted n unit).toList = some (n * seconds) := by
  have hblank : NoDigit (' ' :: (unit ++ if n = 1 then "" else "s").toList) := rfl
  rw [readPart?, toList_counted, readCount_natText n hblank]
  simp only [(unitSeconds?_plural h n).1, Option.map_some]

theorem comma_not_mem_counted
    (h : (unit, seconds) ∈ units) (n : Nat) :
    ',' ∉ (counted n unit).toList := by
  intro hmem
  rw [toList_counted, List.mem_append, List.mem_cons] at hmem
  rcases hmem with hmem | hmem | hmem
  · exact absurd (Decimal.isDigit_of_mem_natText hmem) (by decide)
  · exact absurd hmem (by decide)
  · exact (unitSeconds?_plural h n).2 hmem

end Part

/-! ### Parts that are joined -/

theorem splitParts_of_not_mem {p : List Char} (h : ',' ∉ p) : splitParts p = [p] := by
  induction p with
  | nil => rfl
  | cons c p ih =>
    simp only [List.mem_cons, not_or] at h
    have hc : c ≠ ',' := Ne.symm h.1
    simp [splitParts, hc, ih h.2]

theorem splitParts_append {p : List Char} (h : ',' ∉ p) (rest : List Char) :
    splitParts (p ++ ',' :: ' ' :: rest) = p :: splitParts rest := by
  induction p with
  | nil => rfl
  | cons c p ih =>
    simp only [List.mem_cons, not_or] at h
    have hc : c ≠ ',' := Ne.symm h.1
    simp [splitParts, hc, ih h.2]

/-- **Joined parts are taken apart again.** -/
theorem splitParts_intercalate {parts : List (List Char)} (hne : parts ≠ [])
    (h : ∀ p ∈ parts, ',' ∉ p) : splitParts ([',', ' '].intercalate parts) = parts := by
  induction parts with
  | nil => exact absurd rfl hne
  | cons p rest ih =>
    cases rest with
    | nil =>
      rw [List.intercalate_singleton]
      exact splitParts_of_not_mem (h p (by simp))
    | cons q rest =>
      rw [List.intercalate_cons_cons, List.append_assoc, List.cons_append, List.cons_append,
        List.nil_append, splitParts_append (h p (by simp)),
        ih (by simp) fun r hr => h r (List.mem_cons_of_mem p hr)]

/-- Parts that are read say their sum. -/
theorem readParts?_map {α : Type} {text : α → List Char} {value : α → Nat} {parts : List α}
    (h : ∀ a ∈ parts, readPart? (text a) = some (value a)) :
    readParts? (parts.map text) = some (parts.map value).sum := by
  induction parts with
  | nil => rfl
  | cons a rest ih =>
    have hrest := ih fun b hb => h b (List.mem_cons_of_mem a hb)
    simp [readParts?, h a (by simp), hrest]

/-! ### Durations -/

/-- The seconds of a part. -/
def partSeconds (p : Nat × String) : Nat := p.1 * (unitSeconds? p.2.toList).getD 0

/-- Parts that are zero can be left out of a sum. -/
theorem sum_filter_partSeconds (parts : List (Nat × String)) :
    ((parts.filter fun p => p.1 > 0).map partSeconds).sum = (parts.map partSeconds).sum := by
  induction parts with
  | nil => rfl
  | cons p rest ih =>
    by_cases hp : p.1 > 0
    · simp [hp, ih]
    · have hzero : partSeconds p = 0 := by simp [partSeconds, show p.1 = 0 by omega]
      simp [hp, ih, hzero]

theorem partSeconds_eq {p : Nat × String} {n : Nat} (h : (p.2, n) ∈ units) :
    partSeconds p = p.1 * n := by
  have hunit : unitSeconds? p.2.toList = some n := by
    simp only [units, List.mem_cons, Prod.mk.injEq, List.not_mem_nil, or_false] at h
    rcases h with ⟨h, rfl⟩ | ⟨h, rfl⟩ | ⟨h, rfl⟩ <;> rw [h] <;> decide
  rw [partSeconds, hunit, Option.getD_some]

theorem sum_components (total : Nat) : ((components total).map partSeconds).sum = total := by
  simp only [components, List.map_cons, List.map_nil, List.sum_cons, List.sum_nil,
    partSeconds_eq (p := (total / 3600, "hour")) (n := 3600) (by simp [units]),
    partSeconds_eq (p := (total % 3600 / 60, "minute")) (n := 60) (by simp [units]),
    partSeconds_eq (p := (total % 60, "second")) (n := 1) (by simp [units])]
  omega

theorem mem_units_of_mem_components {total : Nat} {p : Nat × String} (h : p ∈ components total) :
    ∃ seconds, (p.2, seconds) ∈ units := by
  simp only [components, List.mem_cons, List.not_mem_nil, or_false] at h
  rcases h with rfl | rfl | rfl
  · exact ⟨3600, by simp [units]⟩
  · exact ⟨60, by simp [units]⟩
  · exact ⟨1, by simp [units]⟩

/-- **A duration is read back from its words.** -/
theorem ofPhrase?_phrase (total : Nat) : ofPhrase? (phrase total) = some total := by
  have hsum := sum_filter_partSeconds (components total)
  rw [sum_components] at hsum
  have hunit : ∀ p ∈ (components total).filter fun p => p.1 > 0,
      ∃ seconds, (p.2, seconds) ∈ units :=
    fun p hp => mem_units_of_mem_components (List.mem_of_mem_filter hp)
  rw [phrase]
  generalize (components total).filter (fun p => p.1 > 0) = parts at hsum hunit
  cases parts with
  | nil =>
    rw [← hsum]
    decide +kernel
  | cons p rest =>
    have hread : ∀ q ∈ p :: rest, readPart? (counted q.1 q.2).toList = some (partSeconds q) := by
      intro q hq
      obtain ⟨seconds, hunits⟩ := hunit q hq
      rw [partSeconds_eq hunits, readPart?_counted hunits]
    have hcomma : ∀ part ∈ (p :: rest).map fun q => (counted q.1 q.2).toList, ',' ∉ part := by
      intro part hpart
      obtain ⟨q, hq, rfl⟩ := List.mem_map.mp hpart
      obtain ⟨seconds, hunits⟩ := hunit q hq
      exact comma_not_mem_counted hunits q.1
    have hlist : (", ".intercalate ((p :: rest).map fun q => counted q.1 q.2)).toList
        = [',', ' '].intercalate ((p :: rest).map fun q => (counted q.1 q.2).toList) := by
      rw [String.toList_intercalate, List.map_map]
      rfl
    rw [ofPhrase?, hlist, splitParts_intercalate (by simp) hcomma, readParts?_map hread, hsum]

end JobNotice.Calendar
