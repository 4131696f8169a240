import JobNotice.Text.Blank
import JobNotice.Text.Search
import Mathlib.Data.List.Infix

/-!
# Texts and their words

The words of a text are what stands between the occurrences of a character, empty words included.
They hold no such character, and joined by it they are the text.

## Main results

* `Text.joinWith_splitChars` — the words of a text, joined
* `Text.splitChars_append` — the words before an occurrence and those after it
* `Text.not_mem_of_mem_splitChars`, `Text.infix_of_mem_splitChars` — what words are
-/

namespace JobNotice.Text

variable {sep : Char} {s t w : List Char}

/-! ### Words of a text -/

theorem exists_splitChars (sep : Char) (s : List Char) :
    ∃ first rest, splitChars sep s = first :: rest := by
  cases s with
  | nil => exact ⟨[], [], rfl⟩
  | cons c r =>
    unfold splitChars
    split
    · exact ⟨_, _, rfl⟩
    · split <;> exact ⟨_, _, rfl⟩

/-- The separator is a word's end. -/
@[simp]
theorem splitChars_separator (sep : Char) (s : List Char) :
    splitChars sep (sep :: s) = [] :: splitChars sep s := by
  rw [splitChars, if_pos rfl]

/-- Every other character belongs to the first word. -/
theorem splitChars_cons {c : Char} (hc : c ≠ sep) {first : List Char} {rest : List (List Char)}
    (hs : splitChars sep s = first :: rest) : splitChars sep (c :: s) = (c :: first) :: rest := by
  rw [splitChars, if_neg hc, hs]

/-- **The words before a separator and those after it.** -/
theorem splitChars_append (sep : Char) (s t : List Char) :
    splitChars sep (s ++ sep :: t) = splitChars sep s ++ splitChars sep t := by
  induction s with
  | nil => simp [splitChars]
  | cons c s ih =>
    by_cases hc : c = sep
    · subst hc
      rw [List.cons_append, splitChars_separator, splitChars_separator, ih, List.cons_append]
    · obtain ⟨first, rest, hs⟩ := exists_splitChars sep s
      rw [hs, List.cons_append] at ih
      rw [List.cons_append, splitChars_cons hc ih, splitChars_cons hc hs, List.cons_append]

/-- A text without separators is one word. -/
theorem splitChars_eq_singleton (h : sep ∉ s) : splitChars sep s = [s] := by
  induction s with
  | nil => rfl
  | cons c s ih =>
    rw [List.mem_cons, not_or] at h
    exact splitChars_cons (Ne.symm h.1) (ih h.2)

theorem splitChars_word_append (h : sep ∉ w) (t : List Char) :
    splitChars sep (w ++ sep :: t) = w :: splitChars sep t := by
  rw [splitChars_append, splitChars_eq_singleton h, List.singleton_append]

/-! ### Joined words -/

theorem joinWith_cons (first : List Char) (rest : List (List Char)) :
    joinWith [sep] (first :: rest) = first ++ rest.flatMap (sep :: ·) := by
  induction rest generalizing first with
  | nil => simp [joinWith]
  | cons second rest ih =>
    rw [joinWith, ih, List.flatMap_cons]
    · simp
    · exact List.cons_ne_nil second rest

/-- Words that each have a separator after them, and a last word. -/
theorem joinWith_concat (words : List (List Char)) (last : List Char) :
    joinWith [sep] (words ++ [last]) = words.flatMap (· ++ [sep]) ++ last := by
  induction words with
  | nil => rfl
  | cons w words ih =>
    rw [List.cons_append, joinWith, ih, List.flatMap_cons, List.append_assoc, List.append_assoc,
      List.append_assoc]
    simp

/-- **The words of a text, joined, are the text.** -/
theorem joinWith_splitChars (sep : Char) (s : List Char) :
    joinWith [sep] (splitChars sep s) = s := by
  induction s with
  | nil => rfl
  | cons c s ih =>
    obtain ⟨first, rest, hs⟩ := exists_splitChars sep s
    rw [hs, joinWith_cons] at ih
    by_cases hc : c = sep
    · subst hc
      rw [splitChars_separator, hs, joinWith_cons, List.flatMap_cons, List.nil_append,
        List.cons_append, ih]
    · rw [splitChars_cons hc hs, joinWith_cons, List.cons_append, ih]

/-- Words hold no separators. -/
theorem not_mem_of_mem_splitChars (h : w ∈ splitChars sep s) : sep ∉ w := by
  induction s generalizing w with
  | nil => simp_all [splitChars]
  | cons c s ih =>
    by_cases hc : c = sep
    · subst hc
      rw [splitChars_separator, List.mem_cons] at h
      rcases h with rfl | h
      · exact List.not_mem_nil
      · exact ih h
    · obtain ⟨first, rest, hs⟩ := exists_splitChars sep s
      rw [splitChars_cons hc hs, List.mem_cons] at h
      rw [hs] at ih
      rcases h with rfl | h
      · rw [List.mem_cons, not_or]
        exact ⟨Ne.symm hc, ih (List.mem_cons_self ..)⟩
      · exact ih (List.mem_cons_of_mem first h)

/-- Words are parts of the text. -/
theorem infix_of_mem_splitChars (h : w ∈ splitChars sep s) : w <:+: s := by
  obtain ⟨first, rest, hs⟩ := exists_splitChars sep s
  rw [← joinWith_splitChars sep s, hs, joinWith_cons]
  rw [hs, List.mem_cons] at h
  rcases h with rfl | h
  · exact (List.prefix_append _ _).isInfix
  · obtain ⟨before, after, rfl⟩ := List.append_of_mem h
    rw [List.flatMap_append, List.flatMap_cons]
    exact ⟨first ++ before.flatMap (sep :: ·) ++ [sep], after.flatMap (sep :: ·), by simp⟩

/-! ### Spaces at the end -/

theorem dropEndWhile_append_of_pos {p : Char → Bool} {c : Char} (hc : p c = true) (s : List Char) :
    dropEndWhile p (s ++ [c]) = dropEndWhile p s := by
  simp [dropEndWhile, hc]

theorem dropEndWhile_append_of_neg {p : Char → Bool} (hw : w ≠ []) (h : ∀ c ∈ w, p c = false)
    (s : List Char) : dropEndWhile p (s ++ w) = s ++ w := by
  rcases List.eq_nil_or_concat w with rfl | ⟨init, c, rfl⟩
  · exact absurd rfl hw
  · have hc := h c (by simp)
    simp [dropEndWhile, hc]

end JobNotice.Text
