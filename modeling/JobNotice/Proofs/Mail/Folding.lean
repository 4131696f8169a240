import JobNotice.Proofs.Mail.Lines
import JobNotice.Proofs.Text.Words

/-!
# Folded headers

What is written of a header is a folded text: lines that hold no carriage return and no line feed,
all but the first beginning with a space. Without its line ends it is the unfolded text. A line ends
only where spaces are to be written, so each step of a writer keeps this, and what it adds to the
unfolded text is what it was told to write.

## Main definitions

* `Mail.Clean` — text that ends no line
* `Mail.Folded` — a text in lines, and the text without the line ends
* `Mail.HeaderText.Shows` — the unfolded text of what has been written

## Main results

* `Mail.Folded.linesOf`, `Mail.Folded.unfold` — the lines of a folded text, and the text unfolded
* `Mail.HeaderText.Shows.putWord`, `Mail.HeaderText.Shows.putWords` — words add themselves
* `Mail.HeaderText.Shows.finish` — a header is folded
-/

namespace JobNotice.Mail

/-! ### Text without line ends -/

/-- Text that holds neither a carriage return nor a line feed. -/
def Clean (s : List Char) : Prop := '\r' ∉ s ∧ '\n' ∉ s

namespace Clean

variable {s t : List Char}

instance : DecidablePred Clean := fun s => inferInstanceAs (Decidable ('\r' ∉ s ∧ '\n' ∉ s))

theorem nil : Clean [] := ⟨List.not_mem_nil, List.not_mem_nil⟩

theorem append (hs : Clean s) (ht : Clean t) : Clean (s ++ t) :=
  ⟨by simp [hs.1, ht.1], by simp [hs.2, ht.2]⟩

theorem of_mem {p : Char → Bool} (h : ∀ c ∈ s, p c = true) (hreturn : p '\r' = false)
    (hfeed : p '\n' = false) : Clean s := by
  refine ⟨fun hc => ?_, fun hc => ?_⟩
  · rw [h _ hc] at hreturn
    cases hreturn
  · rw [h _ hc] at hfeed
    cases hfeed

theorem spaces (n : Nat) : Clean (List.replicate n ' ') :=
  of_mem (p := (· == ' ')) (fun c hc => by simp [List.eq_of_mem_replicate hc]) rfl rfl

theorem of_isInfix (hs : Clean s) (h : t <:+: s) : Clean t :=
  ⟨fun hc => hs.1 (h.subset hc), fun hc => hs.2 (h.subset hc)⟩

end Clean

/-! ### Folded texts -/

/-- A text in lines of which all but the first begin with a space, and the text without the line
ends. -/
inductive Folded : List Char → List Char → Prop
  | last {s : List Char} : Clean s → Folded s s
  | line {s t u : List Char} : Clean s → Folded (' ' :: t) (' ' :: u) →
    Folded (s ++ (lineEnd ++ ' ' :: t)) (s ++ ' ' :: u)

namespace Folded

variable {t u : List Char}

theorem append {s : List Char} (h : Folded t u) (hs : Clean s) : Folded (t ++ s) (u ++ s) := by
  induction h with
  | last ha => exact last (ha.append hs)
  | line ha _ ih =>
    simp only [List.append_assoc, List.cons_append] at ih ⊢
    exact line ha ih

/-- A new line after a folded text. -/
theorem fold {s : List Char} (h : Folded t u) (hs : Clean (' ' :: s)) :
    Folded (t ++ (lineEnd ++ ' ' :: s)) (u ++ ' ' :: s) := by
  induction h with
  | last ha => exact line ha (last hs)
  | line ha _ ih =>
    simp only [List.append_assoc, List.cons_append] at ih ⊢
    exact line ha ih

/-- **The lines of a folded text.** -/
theorem linesOf (h : Folded t u) :
    ∃ first rest, Mail.linesOf t = first :: rest ∧ Clean first ∧ (first :: rest).flatten = u ∧
      ∀ line ∈ rest, Clean line ∧ line.head? = some ' ' := by
  induction h with
  | @last s hs => exact ⟨s, [], linesOf_eq_singleton hs.1, hs, by simp, by simp⟩
  | @line s t u hs ht ih =>
    obtain ⟨first, rest, hlines, hfirst, hflat, hrest⟩ := ih
    refine ⟨s, first :: rest, ?_, hs, ?_, ?_⟩
    · rw [linesOf_append_lineEnd, linesOf_eq_singleton hs.1, hlines, List.singleton_append]
    · rw [List.flatten_cons, hflat]
    · intro line hline
      rcases List.mem_cons.mp hline with rfl | hline
      · refine ⟨hfirst, ?_⟩
        obtain ⟨_, _, hfirstLine⟩ := exists_linesOf t
        rw [linesOf_cons (fun _ hspace _ => absurd hspace (by decide)) hfirstLine] at hlines
        rw [← (List.cons.inj hlines).1, List.head?_cons]
      · exact hrest line hline

theorem unfold_append {s : List Char} (hs : '\r' ∉ s) (t : List Char) :
    Mail.unfold (s ++ t) = s ++ Mail.unfold t := by
  induction s with
  | nil => rfl
  | cons c s ih =>
    rw [List.mem_cons, not_or] at hs
    rw [List.cons_append, Mail.unfold, ih hs.2, List.cons_append]
    exact fun _ hc _ => hs.1 hc.symm

/-- **A folded text without its line ends.** -/
theorem unfold (h : Folded t u) : Mail.unfold t = u := by
  induction h with
  | @last s hs => simpa [Mail.unfold] using unfold_append hs.1 []
  | @line s t u hs _ ih =>
    rw [unfold_append hs.1, lineEnd, List.cons_append, List.cons_append, Mail.unfold,
      List.nil_append, ih]

end Folded

/-! ### Writing -/

namespace HeaderText

/-- What has been written, with the spaces that wait, is a text in folded lines. -/
def Shows (h : HeaderText) (u : List Char) : Prop :=
  ∃ v, Folded h.written v ∧ u = v ++ List.replicate h.spaces ' '

namespace Shows

variable {h : HeaderText} {u s : List Char}

theorem start (name : String) : (HeaderText.start name).Shows [] :=
  ⟨[], Folded.last Clean.nil, rfl⟩

theorem addSpaces (hu : h.Shows u) (n : Nat) :
    { h with spaces := h.spaces + n }.Shows (u ++ List.replicate n ' ') := by
  obtain ⟨v, hv, rfl⟩ := hu
  exact ⟨v, hv, by rw [List.append_assoc, List.replicate_append_replicate]⟩

theorem space (hu : h.Shows u) : h.space.Shows (u ++ [' ']) := hu.addSpaces 1

theorem put (hu : h.Shows u) (hs : Clean s) : (h.put s).Shows (u ++ s) := by
  obtain ⟨v, hv, rfl⟩ := hu
  refine ⟨v ++ List.replicate h.spaces ' ' ++ s, ?_, by simp [HeaderText.put]⟩
  exact (hv.append (Clean.spaces _)).append hs

/-- A line ends before spaces. -/
theorem newLine_put (hu : h.Shows u) (hspaces : h.spaces ≠ 0) (hs : Clean s) :
    (h.newLine.put s).Shows (u ++ s) := by
  obtain ⟨v, hv, rfl⟩ := hu
  obtain ⟨n, hn⟩ := Nat.exists_eq_succ_of_ne_zero hspaces
  refine ⟨v ++ ' ' :: (List.replicate n ' ' ++ s), ?_, ?_⟩
  · have hclean : Clean (' ' :: (List.replicate n ' ' ++ s)) :=
      ((Clean.spaces (n + 1)).append hs)
    simpa [HeaderText.put, HeaderText.newLine, hn, List.replicate_succ, lineEnd] using
      hv.fold hclean
  · simp [HeaderText.put, HeaderText.newLine, hn, List.replicate_succ]

/-- **A word adds itself.** -/
theorem putWord (hu : h.Shows u) (hs : Clean s) : (h.putWord s).Shows (u ++ s) := by
  unfold HeaderText.putWord
  split
  · rename_i hfold
    exact hu.newLine_put hfold.2.1 hs
  · exact hu.put hs

theorem putNonempty (hu : h.Shows u) (hs : Clean s) :
    (if s.isEmpty then h else h.putWord s).Shows (u ++ s) := by
  cases s with
  | nil => simpa using hu
  | cons c s => simpa using hu.putWord hs

/-- Words that each follow a space. -/
theorem putSpaced {words : List (List Char)} (hu : h.Shows u) (hwords : ∀ w ∈ words, Clean w) :
    (words.foldl (fun h w => if w.isEmpty then h.space else h.space.putWord w) h).Shows
      (u ++ words.flatMap (' ' :: ·)) := by
  induction words generalizing h u with
  | nil => simpa using hu
  | cons w words ih =>
    have hw := hu.space.putNonempty (hwords w (List.mem_cons_self ..))
    simpa using ih hw fun x hx => hwords x (List.mem_cons_of_mem w hx)

/-- **The words of a text add the text.** -/
theorem putWords (hu : h.Shows u) (hs : Clean s) : (h.putWords s).Shows (u ++ s) := by
  obtain ⟨first, rest, hsplit⟩ := Text.exists_splitChars ' ' s
  have hwords : ∀ w ∈ first :: rest, Clean w := by
    rw [← hsplit]
    exact fun w hw => hs.of_isInfix (Text.infix_of_mem_splitChars hw)
  have hfirst := hu.putNonempty (hwords first (List.mem_cons_self ..))
  have hall := hfirst.putSpaced fun w hw => hwords w (List.mem_cons_of_mem first hw)
  rw [List.append_assoc, ← Text.joinWith_cons, ← hsplit, Text.joinWith_splitChars] at hall
  unfold HeaderText.putWords
  rw [hsplit]
  exact hall

/-- **A header is folded.** -/
theorem finish (hu : h.Shows u) : Folded h.finish u := by
  obtain ⟨v, hv, rfl⟩ := hu
  exact hv.append (Clean.spaces _)

end Shows

end HeaderText

end JobNotice.Mail
