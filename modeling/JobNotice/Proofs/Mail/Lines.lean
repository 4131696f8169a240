import JobNotice.Mail.Message
import Mathlib.Data.List.Infix

/-!
# Lines of messages

The lines of a text, joined again, are the text. A text with a line end in it has the lines before
the line end and those after it.

## Main results

* `Mail.joinLines_linesOf` — the lines of a text, joined again
* `Mail.linesOf_append_lineEnd` — the lines before a line end and those after it
* `Mail.infix_of_mem_linesOf` — a line is a part of the text
-/

namespace JobNotice.Mail

variable {s t first line : List Char} {rest lines : List (List Char)}

/-! ### Lines of a text -/

theorem linesOf_ne_nil (s : List Char) : linesOf s ≠ [] := by
  unfold linesOf
  split <;> simp
  split <;> simp

theorem exists_linesOf (s : List Char) : ∃ first rest, linesOf s = first :: rest :=
  List.exists_cons_of_ne_nil (linesOf_ne_nil s)

/-- A character that does not begin a line end belongs to the first line. -/
theorem linesOf_cons {c : Char} (hc : ∀ r, c = '\r' → s = '\n' :: r → False)
    (hs : linesOf s = first :: rest) : linesOf (c :: s) = (c :: first) :: rest := by
  rw [linesOf.eq_3 c s hc, hs]

/-- **The lines before a line end and those after it.** -/
theorem linesOf_append_lineEnd (s t : List Char) :
    linesOf (s ++ (lineEnd ++ t)) = linesOf s ++ linesOf t := by
  induction s using linesOf.induct with
  | case1 => simp [lineEnd, linesOf]
  | case2 r ih =>
    rw [List.cons_append, List.cons_append, linesOf, linesOf, ih, List.cons_append]
  | case3 c r hc hnil => exact absurd hnil (linesOf_ne_nil r)
  | case4 c r hc first rest hr ih =>
    -- what follows a text does not complete a line end that the text does not hold
    have hnext : ∀ u, c = '\r' → r ++ (lineEnd ++ t) = '\n' :: u → False := by
      intro u hreturn hu
      cases r with
      | nil => simp [lineEnd] at hu
      | cons d r => exact hc r hreturn (by rw [(List.cons.inj hu).1])
    rw [hr, List.cons_append] at ih
    rw [List.cons_append, linesOf_cons hnext ih, linesOf_cons hc hr, List.cons_append]

/-- The lines of a text after a text without carriage returns. -/
theorem linesOf_append (hs : '\r' ∉ s) (ht : linesOf t = first :: rest) :
    linesOf (s ++ t) = (s ++ first) :: rest := by
  induction s with
  | nil => exact ht
  | cons c s ih =>
    rw [List.mem_cons, not_or] at hs
    rw [List.cons_append]
    exact linesOf_cons (fun _ hc _ => hs.1 hc.symm) (ih hs.2)

theorem linesOf_eq_singleton (hs : '\r' ∉ s) : linesOf s = [s] := by
  simpa using linesOf_append (t := []) hs rfl

/-! ### Joined lines -/

theorem joinLines_cons (hrest : rest ≠ []) :
    joinLines (first :: rest) = first ++ lineEnd ++ joinLines rest := by
  cases rest with
  | nil => exact absurd rfl hrest
  | cons second rest => rfl

/-- **The lines of a text, joined again, are the text.** -/
@[simp]
theorem joinLines_linesOf (s : List Char) : joinLines (linesOf s) = s := by
  induction s using linesOf.induct with
  | case1 => rfl
  | case2 r ih =>
    rw [linesOf, joinLines_cons (linesOf_ne_nil r), ih]
    rfl
  | case3 c r hc hnil => exact absurd hnil (linesOf_ne_nil r)
  | case4 c r hc first rest hr ih =>
    rw [hr] at ih
    rw [linesOf_cons hc hr, ← ih]
    cases rest <;> rfl

theorem infix_joinLines (h : line ∈ lines) : line <:+: joinLines lines := by
  induction lines with
  | nil => simp at h
  | cons first rest ih =>
    cases rest with
    | nil => simp_all [joinLines]
    | cons second rest =>
      rw [joinLines_cons (List.cons_ne_nil _ _), List.append_assoc]
      rcases List.mem_cons.mp h with rfl | hrest
      · exact (List.prefix_append _ _).isInfix
      · exact (ih hrest).trans ((List.suffix_append lineEnd _).isInfix.trans
          (List.suffix_append first _).isInfix)

/-- **A line is a part of the text.** -/
theorem infix_of_mem_linesOf (h : line ∈ linesOf s) : line <:+: s := by
  have hinfix := infix_joinLines h
  rwa [joinLines_linesOf] at hinfix

end JobNotice.Mail
