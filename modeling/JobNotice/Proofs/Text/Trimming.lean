import JobNotice.Text.Blank
import Mathlib.Data.List.DropRight

/-!
# Trimming and blank strings

Trimming takes away nothing but blanks, so it neither makes a string blank nor fills it. It takes
away all of them at either end, so it changes nothing a second time, and blanks put around a string
do not matter.

## Main results

* `Text.isBlankString_trim` — a trimmed string is blank exactly when the string is
* `Text.trim_trim` — trimming twice is trimming once
* `Text.trim_padded` — blanks around a string do not matter
* `Text.isTrimmed_trimChars` — what is left has no blanks at its ends
-/

namespace JobNotice.Text

/-- What is dropped at the start has the property that is dropped. -/
theorem mem_dropWhile_of_not {p : Char → Bool} {c : Char} {s : List Char} (hc : c ∈ s)
    (hp : p c = false) : c ∈ s.dropWhile p := by
  rw [← List.takeWhile_append_dropWhile (p := p) (l := s), List.mem_append] at hc
  rcases hc with hc | hc
  · have htrue := List.all_eq_true.mp (List.all_takeWhile (p := p) (l := s)) c hc
    rw [hp] at htrue
    exact absurd htrue (by decide)
  · exact hc

/-- What is dropped at the end has the property that is dropped. -/
theorem exists_dropEndWhile_append (p : Char → Bool) (s : List Char) :
    ∃ dropped, s = dropEndWhile p s ++ dropped ∧ ∀ c ∈ dropped, p c = true := by
  refine ⟨(s.reverse.takeWhile p).reverse, ?_, fun c hc => ?_⟩
  · rw [dropEndWhile, ← List.reverse_append, List.takeWhile_append_dropWhile, List.reverse_reverse]
  · exact List.mem_takeWhile_imp (List.mem_reverse.mp hc)

theorem mem_trimChars_of_not {c : Char} {s : List Char} (hc : c ∈ s) (hblank : isBlank c = false) :
    c ∈ trimChars s := by
  rw [trimChars, dropEndWhile, List.mem_reverse]
  exact mem_dropWhile_of_not (List.mem_reverse.mpr (mem_dropWhile_of_not hc hblank)) hblank

theorem isBlankString_trim (s : String) : isBlankString (trim s) = isBlankString s := by
  rw [isBlankString, isBlankString, trim, String.toList_ofList]
  by_cases h : s.toList.all isBlank = true
  · rw [(trimChars_eq_nil_iff s.toList).mpr h, h]
    rfl
  · rw [Bool.not_eq_true] at h
    obtain ⟨c, hc, hblank⟩ := List.all_eq_false.mp h
    rw [h, List.all_eq_false]
    exact ⟨c, mem_trimChars_of_not hc (by simpa using hblank), hblank⟩

theorem isBlankString_append (s t : String) :
    isBlankString (s ++ t) = (isBlankString s && isBlankString t) := by
  simp [isBlankString]

/-- Nothing is left of a blank string. -/
theorem trim_eq_empty {s : String} (h : isBlankString s = true) : trim s = "" := by
  rw [trim, (trimChars_eq_nil_iff s.toList).mpr h, String.ofList_nil]

/-! ### Trimming twice -/

/-- Dropping at the end does not uncover anything at the start. -/
theorem dropWhile_dropEndWhile (p : Char → Bool) (s : List Char) :
    (dropEndWhile p (s.dropWhile p)).dropWhile p = dropEndWhile p (s.dropWhile p) := by
  rw [List.dropWhile_eq_self_iff]
  intro hpos
  have hbegins : dropEndWhile p (s.dropWhile p) <+: s.dropWhile p := List.rdropWhile_prefix p _
  rw [hbegins.getElem hpos]
  exact List.dropWhile_get_zero_not p s (Nat.lt_of_lt_of_le hpos hbegins.length_le)

theorem trimChars_trimChars (s : List Char) : trimChars (trimChars s) = trimChars s := by
  rw [trimChars, trimChars, dropWhile_dropEndWhile]
  exact List.rdropWhile_idempotent isBlank _

/-- Trimming a second time takes nothing away. -/
theorem trim_trim (s : String) : trim (trim s) = trim s := by
  rw [trim, trim, String.toList_ofList, trimChars_trimChars]

/-! ### Blanks around a string -/

theorem trimChars_padded {before after : List Char} (hbefore : ∀ c ∈ before, isBlank c = true)
    (hafter : ∀ c ∈ after, isBlank c = true) (s : List Char) :
    trimChars (before ++ s ++ after) = trimChars s := by
  rw [trimChars, List.append_assoc, List.dropWhile_append_of_pos hbefore]
  by_cases hblank : ∀ c ∈ s, isBlank c = true
  · rw [List.dropWhile_append_of_pos hblank, dropWhile_eq_nil_of_all hafter, trimChars,
      dropWhile_eq_nil_of_all hblank]
  · have hne : s.dropWhile isBlank ≠ [] := fun hnil => hblank (all_of_dropWhile_eq_nil hnil)
    rw [List.dropWhile_append, if_neg (by simpa using hne), trimChars, dropEndWhile,
      List.reverse_append, List.dropWhile_append_of_pos (by simpa using hafter), dropEndWhile]

/-- Blanks around a string do not matter. -/
theorem trim_padded {before after : String} (hbefore : isBlankString before = true)
    (hafter : isBlankString after = true) (s : String) :
    trim (before ++ s ++ after) = trim s := by
  rw [trim, trim, String.toList_append, String.toList_append,
    trimChars_padded (List.all_eq_true.mp hbefore) (List.all_eq_true.mp hafter)]

theorem isBlankString_padded {before after : String} (hbefore : isBlankString before = true)
    (hafter : isBlankString after = true) (s : String) :
    isBlankString (before ++ s ++ after) = isBlankString s := by
  rw [isBlankString_append, isBlankString_append, hbefore, hafter, Bool.true_and, Bool.and_true]

/-! ### What is left -/

/-- A text without blanks at its ends. -/
structure IsTrimmed (s : List Char) : Prop where
  ne_nil : s ≠ []
  head : ∀ c ∈ s.head?, isBlank c = false
  last : ∀ c ∈ s.getLast?, isBlank c = false

theorem dropWhile_ne_nil {p : Char → Bool} {s : List Char} (h : s.all p = false) :
    s.dropWhile p ≠ [] := by
  intro hnil
  rw [List.all_eq_true.mpr (all_of_dropWhile_eq_nil hnil)] at h
  cases h

/-- What is left first when characters are dropped does not have the property that is dropped. -/
theorem not_of_mem_head?_dropWhile {p : Char → Bool} {c : Char} {s : List Char}
    (h : c ∈ (s.dropWhile p).head?) : p c = false := by
  have hnot := List.head?_dropWhile_not p s
  rw [Option.mem_def.mp h] at hnot
  exact hnot

theorem mem_of_mem_trimChars {c : Char} {s : List Char} (hc : c ∈ trimChars s) : c ∈ s :=
  mem_of_mem_dropWhile ((List.rdropWhile_prefix isBlank _).subset hc)

theorem isTrimmed_trimChars {s : List Char} (h : s.all isBlank = false) :
    IsTrimmed (trimChars s) where
  ne_nil hnil := by
    rw [(trimChars_eq_nil_iff s).mp hnil] at h
    cases h
  head c hc := by
    rw [trimChars, ← dropWhile_dropEndWhile] at hc
    exact not_of_mem_head?_dropWhile hc
  last c hc := by
    rw [trimChars, dropEndWhile, List.getLast?_reverse] at hc
    exact not_of_mem_head?_dropWhile hc

end JobNotice.Text
