import JobNotice.Proofs.Text.Splitting
import Mathlib.Data.List.Infix

/-!
# How often a text occurs

The occurrences of a text are the places of another one at which it begins. They are counted here in
texts that are woven from literals and values, where the values hold no markup and the text that is
looked for begins with markup.

No occurrence begins in a value, so each of them begins in a literal. Where a literal has room for
the whole text, it decides by itself. Otherwise a part of the text stands at the end of the literal,
and the rest of it would have to go through the value: its first character of markup would be the
first one of the next literal, and what follows there tells that it is not.

## Main definitions

* `Text.occurrences` — how often a text occurs
* `Text.Counts` — a text that adds a number of occurrences, whatever follows
* `Text.Woven` — literals with values between them
* `Text.tally`, `Text.tallyAll` — the occurrences that literals tell of

## Main results

* `Text.Counts.woven` — the occurrences in a woven text
* `Text.occurrences_le_of_infix` — a text does not occur more often than its parts
-/

namespace JobNotice.Text

/-- The number of places at which a text occurs. -/
def occurrences (needle s : List Char) : Nat := s.tails.countP (needle.isPrefixOf ·)

theorem occurrences_cons (needle : List Char) (c : Char) (s : List Char) :
    occurrences needle (c :: s)
      = occurrences needle s + if needle.isPrefixOf (c :: s) then 1 else 0 := by
  rw [occurrences, List.tails_cons, List.countP_cons, occurrences]

theorem occurrences_nil {needle : List Char} (h : needle ≠ []) : occurrences needle [] = 0 := by
  cases needle with
  | nil => exact absurd rfl h
  | cons c needle => rfl

/-! ### Longer and shorter texts -/

/-- A text that occurs where a longer one does. -/
theorem occurrences_append_le (needle t s : List Char) :
    occurrences (needle ++ t) s ≤ occurrences needle s := by
  refine List.countP_mono_left fun u _ hu => ?_
  rw [List.isPrefixOf_iff_prefix] at hu ⊢
  exact (List.prefix_append needle t).trans hu

/-- Behind each occurrence of a text with a character before it there is one without, and the text
may also occur at the very beginning. -/
theorem occurrences_cons_add_le (c : Char) (needle s : List Char) :
    occurrences (c :: needle) s + (if needle.isPrefixOf s then 1 else 0)
      ≤ occurrences needle s := by
  induction s with
  | nil => cases needle <;> simp [occurrences]
  | cons d s ih =>
    rw [occurrences_cons, occurrences_cons needle]
    have hfirst : (if (c :: needle).isPrefixOf (d :: s) then 1 else 0)
        ≤ if needle.isPrefixOf s then 1 else 0 := by
      by_cases h : needle.isPrefixOf s <;> by_cases hc : c = d <;> simp [List.isPrefixOf, h, hc]
    omega

theorem occurrences_append_left_le (t needle s : List Char) :
    occurrences (t ++ needle) s ≤ occurrences needle s := by
  induction t with
  | nil => exact Nat.le_refl _
  | cons c t ih =>
    have hstep := occurrences_cons_add_le c (t ++ needle) s
    rw [List.cons_append]
    omega

/-- **A text does not occur more often than its parts.** -/
theorem occurrences_le_of_infix {needle longer : List Char} (h : needle <:+: longer)
    (s : List Char) : occurrences longer s ≤ occurrences needle s := by
  obtain ⟨t, u, rfl⟩ := h
  exact Nat.le_trans (occurrences_append_le _ u s) (occurrences_append_left_le t needle s)

theorem occurrences_pos_of_infix {needle s : List Char} (h : needle <:+: s) :
    0 < occurrences needle s := by
  obtain ⟨t, u, rfl⟩ := h
  rw [occurrences, List.countP_pos_iff]
  refine ⟨needle ++ u, ?_, by simp⟩
  rw [List.mem_tails, List.append_assoc]
  exact List.suffix_append t _

/-! ### Parts of a text -/

/-- A text that adds `k` occurrences to those in what follows it. -/
def Counts (needle s : List Char) (k : Nat) : Prop :=
  ∀ r, occurrences needle (s ++ r) = k + occurrences needle r

namespace Counts

variable {needle s t : List Char} {k l : Nat}

theorem nil (needle : List Char) : Counts needle [] 0 := fun r => by simp

theorem append (hs : Counts needle s k) (ht : Counts needle t l) :
    Counts needle (s ++ t) (k + l) := by
  intro r
  rw [List.append_assoc, hs, ht, Nat.add_assoc]

theorem congr (h : Counts needle s k) (hst : s = t) (hkl : k = l) : Counts needle t l :=
  hst ▸ hkl ▸ h

/-- The occurrences in the whole text. -/
theorem occurrences_eq (h : Counts needle s k) (hne : needle ≠ []) : occurrences needle s = k := by
  have htotal := h []
  rwa [List.append_nil, occurrences_nil hne, Nat.add_zero] at htotal

/-- No occurrence begins in a text without the character with which occurrences begin. -/
theorem of_not_mem {c : Char} (h : c ∉ s) : Counts (c :: needle) s 0 := by
  intro r
  induction s with
  | nil => simp
  | cons d s ih =>
    rw [List.mem_cons, not_or] at h
    have hhead : (c :: needle).isPrefixOf (d :: (s ++ r)) = false := by
      simp [List.isPrefixOf, h.1]
    rw [List.cons_append, occurrences_cons, hhead, ih h.2]
    rfl

end Counts

/-! ### Literals and values -/

/-- The text after what stands before the first character of markup. -/
def fromMarkup (s : List Char) : List Char := s.dropWhile (!isMarkup ·)

/-- Texts that begin with a literal and go on with values, each with a literal after it. The
literals are given; values hold no markup. -/
inductive Woven : List (List Char) → List Char → Prop
  | last (literal : List Char) : Woven [literal] literal
  | cons (literal : List Char) {value next t : List Char} {rest : List (List Char)} :
    (∀ c ∈ value, isMarkup c = false) → Woven (next :: rest) t →
      Woven (literal :: next :: rest) (literal ++ (value ++ t))

/-- The occurrences that begin in a literal before a value and a text with the markup `next`, none
when this cannot be told. -/
def tally (needle next : List Char) : List Char → Option Nat
  | [] => some 0
  | c :: r =>
    if needle.isPrefixOf (c :: r) then (tally needle next r).map (· + 1)
    else if differ needle (c :: r) ||
        ((c :: r).isPrefixOf needle &&
          differ (fromMarkup (needle.drop (r.length + 1))) next) then
      tally needle next r
    else none

/-- The occurrences in literals that have values between them. -/
def tallyAll (needle : List Char) : List (List Char) → Option Nat
  | [] => some 0
  | [last] => tally needle [] last
  | first :: next :: rest => do
    let k ← tally needle (fromMarkup next) first
    let l ← tallyAll needle (next :: rest)
    some (k + l)

theorem fromMarkup_append {s : List Char} (h : fromMarkup s ≠ []) (t : List Char) :
    fromMarkup (s ++ t) = fromMarkup s ++ t := by
  induction s with
  | nil => exact absurd rfl h
  | cons c s ih =>
    unfold fromMarkup at h ih ⊢
    rw [List.dropWhile_cons] at h
    rw [List.cons_append, List.dropWhile_cons, List.dropWhile_cons]
    split
    · rename_i hc
      rw [if_pos hc] at h
      exact ih h
    · rfl

theorem fromMarkup_value {value : List Char} (h : ∀ c ∈ value, isMarkup c = false) (s : List Char) :
    fromMarkup (value ++ s) = fromMarkup s := by
  unfold fromMarkup
  rw [List.dropWhile_append_of_pos fun c hc => by simp [h c hc]]

/-- The first markup of a text is that of every text it begins. -/
theorem fromMarkup_prefix {s t : List Char} (h : s <+: t) (hne : fromMarkup s ≠ []) :
    fromMarkup s <+: fromMarkup t := by
  obtain ⟨u, rfl⟩ := h
  exact ⟨u, (fromMarkup_append hne u).symm⟩

theorem ne_nil_of_differ {s t : List Char} (h : differ s t = true) : s ≠ [] ∧ t ≠ [] := by
  cases s <;> cases t <;> simp [differ] at h ⊢

/-- Texts that differ do not begin the same text. -/
theorem not_prefix_of_differ {s t u : List Char} (h : differ s t = true) (ht : t <+: u) :
    ¬ s <+: u := by
  rintro ⟨v, hv⟩
  obtain ⟨w, rfl⟩ := ht
  exact append_ne_append_of_differ h v w hv

/-- A text that begins with a value goes on with the markup of the text after the value. -/
theorem not_prefix_of_fromMarkup {rest next value t : List Char}
    (h : differ (fromMarkup rest) next = true) (hvalue : ∀ c ∈ value, isMarkup c = false)
    (hnext : next <+: fromMarkup t) : ¬ rest <+: value ++ t := by
  intro hprefix
  have hmarkup := fromMarkup_prefix hprefix (ne_nil_of_differ h).1
  rw [fromMarkup_value hvalue] at hmarkup
  exact not_prefix_of_differ h hnext hmarkup

theorem differ_append {s t : List Char} (h : differ s t = true) (u : List Char) :
    ¬ s <+: t ++ u :=
  not_prefix_of_differ h (List.prefix_append t u)

namespace Woven

variable {literals : List (List Char)} {first s t : List Char}

/-- The first markup of a woven text is that of its first literal. -/
theorem fromMarkup_prefix (h : Woven (first :: literals) s) :
    fromMarkup first <+: fromMarkup s := by
  by_cases hne : fromMarkup first = []
  · rw [hne]
    exact List.nil_prefix
  · refine Text.fromMarkup_prefix ?_ hne
    cases h with
    | last => exact List.prefix_rfl
    | cons => exact List.prefix_append first _

/-- A text before the first literal. -/
theorem append {u : List Char} (h : Woven (first :: literals) s) :
    Woven ((u ++ first) :: literals) (u ++ s) := by
  cases h with
  | last => exact last _
  | cons _ hvalue hnext =>
    rw [← List.append_assoc]
    exact cons _ hvalue hnext

/-- A string that is a literal. -/
theorem string {l : List Char} : Woven [l] (String.ofList l).toList := by
  rw [String.toList_ofList]
  exact last l

/-- A string before the first literal. -/
theorem string_append {l : List Char} (h : Woven (first :: literals) s) :
    Woven ((l ++ first) :: literals) ((String.ofList l).toList ++ s) := by
  rw [String.toList_ofList]
  exact h.append

/-- A value before the first literal. -/
theorem value_append {value : List Char} (hvalue : ∀ c ∈ value, isMarkup c = false)
    (h : Woven (first :: literals) s) : Woven ([] :: first :: literals) (value ++ s) :=
  cons [] hvalue h

/-- An escaped text before the first literal. -/
theorem escaped_append (a : String) (h : Woven (first :: literals) s) :
    Woven ([] :: first :: literals) (escapeHtml a.toList ++ s) :=
  h.value_append fun _ => not_isMarkup_of_mem_escapeHtml

end Woven

namespace Counts

variable {needle next s t : List Char} {k l : Nat}

/-- A literal before a value. -/
theorem literal_append {value : List Char} (h : tally needle next s = some k)
    (hvalue : ∀ c ∈ value, isMarkup c = false) (hnext : next <+: fromMarkup t)
    (ht : Counts needle (value ++ t) l) : Counts needle (s ++ (value ++ t)) (k + l) := by
  induction s generalizing k with
  | nil =>
    obtain rfl : 0 = k := by simpa [tally] using h
    simpa using ht
  | cons c s ih =>
    rw [tally] at h
    split at h
    · -- the literal holds the whole text
      rename_i hhere
      obtain ⟨j, hj, rfl⟩ := Option.map_eq_some_iff.mp h
      intro r
      have hprefix : needle.isPrefixOf (c :: (s ++ (value ++ t) ++ r)) = true := by
        rw [List.isPrefixOf_iff_prefix] at hhere ⊢
        rw [List.append_assoc]
        exact hhere.trans (List.prefix_append (c :: s) _)
      rw [List.cons_append, List.cons_append, occurrences_cons, hprefix, ih hj r]
      simp only [if_true]
      omega
    · split at h
      · rename_i hnot
        intro r
        have hprefix : needle.isPrefixOf (c :: (s ++ (value ++ t) ++ r)) = false := by
          rw [Bool.eq_false_iff, Ne, List.isPrefixOf_iff_prefix]
          rw [Bool.or_eq_true, Bool.and_eq_true, List.isPrefixOf_iff_prefix] at hnot
          rcases hnot with hdiffer | ⟨⟨rest, hrest⟩, hdiffer⟩
          · -- the literal holds something else
            rw [List.append_assoc]
            exact differ_append (t := c :: s) hdiffer _
          · -- the rest would go through the value
            rw [← hrest, ← List.length_cons, List.drop_left] at hdiffer
            rw [← hrest, ← List.cons_append, ← List.cons_append, List.append_assoc,
              List.prefix_append_right_inj, List.append_assoc]
            refine not_prefix_of_fromMarkup hdiffer hvalue (hnext.trans ?_)
            refine fromMarkup_prefix (List.prefix_append t r) ?_
            exact fun hnil => (ne_nil_of_differ hdiffer).2 (List.prefix_nil.mp (hnil ▸ hnext))
        rw [List.cons_append, List.cons_append, occurrences_cons, hprefix, ih h r]
        simp
      · simp at h

/-- A literal that decides by itself. -/
theorem literal (h : tally needle [] s = some k) : Counts needle s k := by
  have hnil : Counts needle (s ++ ([] ++ [])) (k + 0) :=
    literal_append h (by simp) List.nil_prefix (nil needle)
  simpa using hnil

/-- A text without markup. -/
theorem value {c : Char} (hc : isMarkup c = true) (h : ∀ d ∈ s, isMarkup d = false) :
    Counts (c :: needle) s 0 :=
  of_not_mem fun hmem => by simp [h c hmem] at hc

/-- **The occurrences in a woven text** are those that its literals tell of. -/
theorem woven {c : Char} (hc : isMarkup c = true) {literals : List (List Char)}
    (hs : Woven literals s) (h : tallyAll (c :: needle) literals = some k) :
    Counts (c :: needle) s k := by
  induction hs generalizing k with
  | last literal => exact Counts.literal h
  | cons first hvalue hnext ih =>
    rw [tallyAll] at h
    obtain ⟨j, hj, h⟩ := Option.bind_eq_some_iff.mp h
    obtain ⟨l, hl, h⟩ := Option.bind_eq_some_iff.mp h
    obtain rfl : j + l = k := Option.some.inj h
    refine literal_append hj hvalue (Woven.fromMarkup_prefix hnext) ?_
    exact ((Counts.value hc hvalue).append (ih hl)).congr rfl (Nat.zero_add l)

end Counts

end JobNotice.Text
