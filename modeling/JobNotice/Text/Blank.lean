/-!
# Blank characters and trimming

A character is *blank* when Unicode gives it the property `White_Space`. Required strings of a
notification must hold something that is not blank, and links are trimmed before they are judged.

## Main definitions

* `Text.isBlank` — the property `White_Space`
* `Text.trimStart`, `Text.trimEnd`, `Text.trim` — dropping blanks at the ends
* `Text.isBlankString` — nothing but blanks
* `Text.isControl` — the general category `Cc`

## Main results

* `Text.trimChars_eq_nil_iff` — trimming leaves nothing exactly when every character is blank
-/

namespace JobNotice.Text

/-- The property `White_Space`: 25 code points in ten ranges. -/
def isBlank (c : Char) : Bool :=
  let n := c.toNat
  (9 ≤ n && n ≤ 13) || n == 0x20 || n == 0x85 || n == 0xA0 || n == 0x1680 ||
    (0x2000 ≤ n && n ≤ 0x200A) || n == 0x2028 || n == 0x2029 || n == 0x202F || n == 0x205F ||
    n == 0x3000

/-- The general category `Cc`: the C0 and C1 controls and DEL. -/
def isControl (c : Char) : Bool :=
  c.toNat < 0x20 || (0x7F ≤ c.toNat && c.toNat ≤ 0x9F)

/-! ### Trimming lists of characters -/

/-- Drops the longest run of `p` at the end. -/
def dropEndWhile (p : Char → Bool) (s : List Char) : List Char :=
  (s.reverse.dropWhile p).reverse

/-- Drops blanks at both ends. -/
def trimChars (s : List Char) : List Char :=
  dropEndWhile isBlank (s.dropWhile isBlank)

/-! ### Trimming strings -/

/-- Drops blanks at the start. -/
def trimStart (s : String) : String := String.ofList (s.toList.dropWhile isBlank)

/-- Drops blanks at the end. -/
def trimEnd (s : String) : String := String.ofList (dropEndWhile isBlank s.toList)

/-- Drops blanks at both ends. -/
def trim (s : String) : String := String.ofList (trimChars s.toList)

/-- Whether a string holds nothing but blanks. -/
def isBlankString (s : String) : Bool := s.toList.all isBlank

/-! ### Lemmas -/

theorem mem_of_mem_dropWhile {p : Char → Bool} {c : Char} {s : List Char}
    (h : c ∈ s.dropWhile p) : c ∈ s :=
  (List.dropWhile_sublist p).subset h

theorem dropWhile_eq_nil_of_all {p : Char → Bool} {s : List Char} (h : ∀ c ∈ s, p c = true) :
    s.dropWhile p = [] := by
  induction s with
  | nil => rfl
  | cons c r ih =>
    rw [List.dropWhile_cons, h c (by simp), if_pos rfl]
    exact ih fun d hd => h d (by simp [hd])

theorem all_of_dropWhile_eq_nil {p : Char → Bool} {s : List Char} (h : s.dropWhile p = []) :
    ∀ c ∈ s, p c = true := by
  induction s with
  | nil => simp
  | cons c r ih =>
    rw [List.dropWhile_cons] at h
    split at h
    · rename_i hc
      intro d hd
      rcases List.mem_cons.1 hd with rfl | hd
      · exact hc
      · exact ih h d hd
    · simp at h

/-- Trimming leaves nothing exactly when every character is blank. -/
theorem trimChars_eq_nil_iff (s : List Char) :
    trimChars s = [] ↔ s.all isBlank = true := by
  rw [List.all_eq_true, trimChars, dropEndWhile, List.reverse_eq_nil_iff]
  constructor
  · intro h
    have hr := all_of_dropWhile_eq_nil h
    refine all_of_dropWhile_eq_nil (p := isBlank) ?_
    cases hd : s.dropWhile isBlank with
    | nil => rfl
    | cons d r =>
      have hb : isBlank d = true := hr d (by simp [hd])
      have hn := List.head?_dropWhile_not isBlank s
      simp [hd, hb] at hn
  · intro h
    simp [dropWhile_eq_nil_of_all h]

end JobNotice.Text
