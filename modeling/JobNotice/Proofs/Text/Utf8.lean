import JobNotice.Text.Utf8
import Mathlib.Data.List.Infix

/-!
# Text read back from its bytes

The bytes of a character tell how many there are and which character they stand for, so the bytes of
a text are read as that text. A byte below 128 is a character by itself wherever it stands, and
ASCII that is found among the bytes is found in the text.

## Main results

* `Text.ofUtf8?_utf8Bytes` — the bytes of a text are read as the text
* `Text.infix_of_utf8Bytes` — ASCII among the bytes of a text stands in the text
-/

namespace JobNotice.Text

/-! ### Reading -/

/-- Characters are below the end of Unicode and not in the gap for surrogates. -/
theorem toNat_scalar (c : Char) :
    c.toNat < 0xD800 ∨ (0xE000 ≤ c.toNat ∧ c.toNat < 0x110000) := by
  have hvalid : c.toNat.isValidChar := c.valid
  unfold Nat.isValidChar at hvalid
  omega

theorem utf8Char_lt (c : Char) : ∀ b ∈ utf8Char c, b < 256 := by
  have hscalar := toNat_scalar c
  intro b hb
  unfold utf8Char at hb
  simp only at hb
  split_ifs at hb <;> simp only [List.mem_cons, List.not_mem_nil, or_false] at hb <;> omega

/-- The bytes of a text are bytes. -/
theorem utf8Bytes_lt (s : List Char) : ∀ b ∈ utf8Bytes s, b < 256 := by
  intro b hb
  obtain ⟨c, -, hc⟩ := List.mem_flatMap.mp hb
  exact utf8Char_lt c b hc

/-- The bytes of a character are read as the character. -/
theorem ofUtf8?_utf8Char_append (c : Char) (r : List Nat) :
    ofUtf8? (utf8Char c ++ r) = (ofUtf8? r).map (c :: ·) := by
  have hscalar := toNat_scalar c
  have hchar {n : Nat} (h : n = c.toNat) : Char.ofNat n = c := by rw [h, Char.ofNat_toNat]
  have hcontinuation (k : Nat) : isContinuation (0x80 + k % 64) = true := by
    rw [isContinuation, Bool.and_eq_true, decide_eq_true_iff, decide_eq_true_iff]
    omega
  unfold utf8Char
  simp only
  split_ifs with hone htwo hthree <;> simp only [List.cons_append, List.nil_append] <;>
    rw [ofUtf8?.eq_def] <;> simp only
  · rw [if_pos hone, hchar rfl]
  · rw [if_neg (by omega), if_pos (by omega)]
    simp only [hcontinuation, if_true]
    rw [hchar (by omega)]
  · rw [if_neg (by omega), if_neg (by omega), if_pos (by omega)]
    simp only [hcontinuation, Bool.true_and]
    rw [hchar (by omega), if_pos]
    simp only [Bool.and_eq_true, decide_eq_true_iff, Bool.not_eq_true', Bool.and_eq_false_iff,
      decide_eq_false_iff_not]
    omega
  · rw [if_neg (by omega), if_neg (by omega), if_neg (by omega), if_pos (by omega)]
    simp only [hcontinuation, Bool.true_and]
    rw [hchar (by omega), if_pos]
    simp only [Bool.and_eq_true, decide_eq_true_iff]
    omega

theorem utf8Bytes_cons (c : Char) (s : List Char) :
    utf8Bytes (c :: s) = utf8Char c ++ utf8Bytes s :=
  List.flatMap_cons

/-- **The bytes of a text are read as the text.** -/
@[simp]
theorem ofUtf8?_utf8Bytes (s : List Char) : ofUtf8? (utf8Bytes s) = some s := by
  induction s with
  | nil => rfl
  | cons c s ih =>
    rw [utf8Bytes_cons, ofUtf8?_utf8Char_append, ih, Option.map_some]

/-! ### Lengths -/

theorem length_utf8Char (c : Char) : (utf8Char c).length = c.utf8Size := by
  unfold utf8Char Char.utf8Size
  simp only [UInt32.le_iff_toNat_le, UInt32.toNat_ofNatLT, Char.toNat_val]
  split_ifs <;> first | rfl | omega

/-- The length of a text is the number of its bytes. -/
theorem length_utf8Bytes (s : List Char) : (utf8Bytes s).length = utf8Length s := by
  induction s with
  | nil => rfl
  | cons c s ih =>
    rw [utf8Bytes_cons, List.length_append, length_utf8Char, ih, utf8Length]

theorem utf8Length_append (s t : List Char) :
    utf8Length (s ++ t) = utf8Length s + utf8Length t := by
  rw [← length_utf8Bytes, ← length_utf8Bytes, ← length_utf8Bytes, utf8Bytes, List.flatMap_append,
    List.length_append, utf8Bytes, utf8Bytes]

theorem utf8Size_bounds (c : Char) : 1 ≤ c.utf8Size ∧ c.utf8Size ≤ 4 := by
  rw [← length_utf8Char]
  unfold utf8Char
  simp only
  split_ifs <;> simp

/-! ### ASCII among bytes -/

/-- A character that passes a test is none that fails it. -/
theorem ne_of_test {p : Char → Bool} {c d : Char} (h : p c = true) (hd : p d = false) : c ≠ d := by
  rintro rfl
  rw [h] at hd
  cases hd

/-- Letters and digits are ASCII. -/
theorem toNat_lt_of_isAlphanum {c : Char} (h : c.isAlphanum = true) : c.toNat < 128 := by
  unfold Char.isAlphanum Char.isAlpha Char.isUpper Char.isLower Char.isDigit at h
  simp only [Bool.or_eq_true, Bool.and_eq_true, decide_eq_true_eq, ge_iff_le,
    UInt32.le_iff_toNat_le] at h
  simp at h
  omega

/-- A character is one byte, or all its bytes are above ASCII. -/
theorem utf8Char_cases (c : Char) :
    (c.toNat < 128 ∧ utf8Char c = [c.toNat]) ∨ (128 ≤ c.toNat ∧ ∀ b ∈ utf8Char c, 128 ≤ b) := by
  unfold utf8Char
  simp only
  split_ifs with h
  · exact .inl ⟨h, rfl⟩
  all_goals
    refine .inr ⟨by omega, fun b hb => ?_⟩
    simp only [List.mem_cons, List.not_mem_nil, or_false] at hb
    omega

theorem utf8Char_ne_nil (c : Char) : utf8Char c ≠ [] := by
  unfold utf8Char
  simp only
  split_ifs <;> simp

variable {s t : List Char}

theorem utf8Length_ascii (h : ∀ c ∈ s, c.toNat < 128) : utf8Length s = s.length := by
  induction s with
  | nil => rfl
  | cons c s ih =>
    have hc := h c (List.mem_cons_self ..)
    have hsize : c.utf8Size = 1 := by
      rcases utf8Char_cases c with ⟨-, hbyte⟩ | ⟨habove, -⟩
      · rw [← length_utf8Char, hbyte, List.length_singleton]
      · omega
    rw [utf8Length, hsize, ih fun d hd => h d (List.mem_cons_of_mem c hd), List.length_cons,
      Nat.add_comm]

theorem prefix_of_utf8Bytes (ht : ∀ c ∈ t, c.toNat < 128)
    (h : t.map Char.toNat <+: utf8Bytes s) : t <+: s := by
  induction t generalizing s with
  | nil => exact List.nil_prefix
  | cons c t ih =>
    have hc := ht c (List.mem_cons_self ..)
    cases s with
    | nil => simp [utf8Bytes] at h
    | cons d s =>
      rw [utf8Bytes_cons, List.map_cons] at h
      rcases utf8Char_cases d with ⟨-, hd⟩ | ⟨-, hd⟩
      · rw [hd, List.singleton_append, List.cons_prefix_cons] at h
        obtain rfl : c = d := Char.toNat_inj.mp h.1
        exact List.cons_prefix_cons.mpr ⟨rfl, ih (fun x hx => ht x (List.mem_cons_of_mem c hx)) h.2⟩
      · cases hbytes : utf8Char d with
        | nil => exact absurd hbytes (utf8Char_ne_nil d)
        | cons b rest =>
          rw [hbytes, List.cons_append, List.cons_prefix_cons] at h
          have hb := hd b (by simp [hbytes])
          omega

/-- ASCII does not begin in bytes above it. -/
theorem infix_of_append {n : Nat} {ns bytes rest : List Nat} (hn : n < 128)
    (hbytes : ∀ b ∈ bytes, 128 ≤ b) (h : n :: ns <:+: bytes ++ rest) : n :: ns <:+: rest := by
  induction bytes with
  | nil => exact h
  | cons b bytes ih =>
    rw [List.cons_append, List.infix_cons_iff, List.cons_prefix_cons] at h
    have hb := hbytes b (List.mem_cons_self ..)
    rcases h with ⟨rfl, -⟩ | h
    · omega
    · exact ih (fun x hx => hbytes x (List.mem_cons_of_mem b hx)) h

/-- **ASCII among the bytes of a text stands in the text.** -/
theorem infix_of_utf8Bytes (ht : ∀ c ∈ t, c.toNat < 128)
    (h : t.map Char.toNat <:+: utf8Bytes s) : t <:+: s := by
  cases t with
  | nil => exact List.nil_infix
  | cons c t =>
    have hc := ht c (List.mem_cons_self ..)
    induction s with
    | nil => simp [utf8Bytes] at h
    | cons d s ih =>
      rw [List.infix_cons_iff]
      rcases utf8Char_cases d with ⟨-, hd⟩ | ⟨-, hd⟩
      · have hcons := h
        rw [utf8Bytes_cons, hd, List.singleton_append, List.infix_cons_iff] at hcons
        rcases hcons with hbegins | hpart
        · refine .inl (prefix_of_utf8Bytes ht ?_)
          rwa [utf8Bytes_cons, hd]
        · exact .inr (ih hpart)
      · rw [utf8Bytes_cons, List.map_cons] at h
        exact .inr (ih (infix_of_append hc hd h))

end JobNotice.Text
