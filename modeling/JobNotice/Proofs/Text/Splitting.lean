import JobNotice.Proofs.Text.Escape

/-!
# Texts that can be taken apart

A text is often written as one part after the other, and the question is whether the parts can be
told from the whole. Two forms of such a text are compared here. They split when, whatever follows
either of them, equal texts have had equal values in these forms and go on equally. Forms that split
can be put one after the other, and then all values can be told.

A value can be told when a character that it does not hold follows it. An optional part can be told
from its absence when its first character tells, and a list of parts when its end begins otherwise
than its items.

## Main definitions

* `Text.Splits` — equal texts of two forms have had equal values and go on equally
* `Text.differ` — texts that differ in a character that both have

## Main results

* `Text.Splits.append` — one form after the other
* `Text.Splits.value`, `Text.Splits.escaped` — a value before a text that ends it
* `Text.Splits.list` — a list of parts
-/

namespace JobNotice.Text

/-- Texts that begin with `s` and `s'` are only equal when `p` holds and they go on equally. -/
def Splits (s s' : List Char) (p : Prop) : Prop := ∀ r r', s ++ r = s' ++ r' → p ∧ r = r'

/-- Whether two texts differ in a character that both have. -/
def differ : List Char → List Char → Bool
  | c :: s, d :: t => c != d || differ s t
  | _, _ => false

theorem append_ne_append_of_differ {s t : List Char} (h : differ s t = true) (u v : List Char) :
    s ++ u ≠ t ++ v := by
  induction s generalizing t with
  | nil => simp [differ] at h
  | cons c s ih =>
    cases t with
    | nil => simp [differ] at h
    | cons d t =>
      rw [differ, Bool.or_eq_true, bne_iff_ne] at h
      intro heq
      rw [List.cons_append, List.cons_append, List.cons.injEq] at heq
      exact h.elim (fun hne => hne heq.1) fun hd => ih hd heq.2

namespace Splits

variable {s s' t t' : List Char} {p q : Prop}

theorem imp (h : Splits s s' p) (hpq : p → q) : Splits s s' q :=
  fun r r' heq => ⟨hpq (h r r' heq).1, (h r r' heq).2⟩

/-- What two texts that are equal as a whole have told. -/
theorem of_eq (h : Splits s s' p) (heq : s = s') : p :=
  (h [] [] (by rw [heq])).1

/-- The same text tells nothing. -/
theorem same (s : List Char) : Splits s s True :=
  fun _ _ h => ⟨trivial, List.append_cancel_left h⟩

/-- Both values are told, and the first one may be known when the second is. -/
theorem append (h : Splits s s' p) (ht : p → Splits t t' q) :
    Splits (s ++ t) (s' ++ t') (p ∧ q) := by
  intro r r' heq
  rw [List.append_assoc, List.append_assoc] at heq
  obtain ⟨hp, hrest⟩ := h _ _ heq
  obtain ⟨hq, hr⟩ := ht hp _ _ hrest
  exact ⟨⟨hp, hq⟩, hr⟩

theorem append_left (s : List Char) (h : Splits t t' p) : Splits (s ++ t) (s ++ t') p :=
  ((same s).append fun _ => h).imp And.right

theorem append_right (h : Splits s s' p) (t : List Char) : Splits (s ++ t) (s' ++ t) p :=
  (h.append fun _ => same t).imp And.left

theorem symm (h : Splits s s' p) : Splits s' s p :=
  fun r r' heq => ⟨(h r' r heq.symm).1, (h r' r heq.symm).2.symm⟩

/-- Texts that begin otherwise are never equal. -/
theorem differing (h : differ s s' = true) (t t' : List Char) : Splits (s ++ t) (s' ++ t') p := by
  intro r r' heq
  rw [List.append_assoc, List.append_assoc] at heq
  exact absurd heq (append_ne_append_of_differ h _ _)

/-- The same with literals. -/
theorem of_differ {l l' : List Char} (h : differ l l' = true) (t t' : List Char) :
    Splits ((String.ofList l).toList ++ t) ((String.ofList l').toList ++ t') p := by
  rw [String.toList_ofList, String.toList_ofList]
  exact differing h t t'

/-- The same with a literal that nothing follows. -/
theorem of_differ_last {l l' : List Char} (h : differ l l' = true) (t : List Char) :
    Splits ((String.ofList l).toList ++ t) (String.ofList l').toList p := by
  have hnil := of_differ (p := p) h t []
  rwa [List.append_nil] at hnil

/-- The same with a single character in the place of a literal. -/
theorem of_cons_differ {c : Char} {l : List Char} (h : differ [c] l = true) (t t' : List Char) :
    Splits (c :: t) ((String.ofList l).toList ++ t') p := by
  have hliteral := of_differ (p := p) h t t'
  rwa [String.toList_ofList] at hliteral

/-- A value before a text that holds a character of a kind which the value does not hold. -/
theorem value {kind : Char → Bool} (hs : ∀ c ∈ s, kind c = false) (hs' : ∀ c ∈ s', kind c = false)
    (ht : ∃ c ∈ t, kind c = true) : Splits (s ++ t) (s' ++ t) (s = s') := by
  intro r r' heq
  have hshort : (t.takeWhile (!kind ·)).length ≠ t.length := by
    intro hlength
    obtain ⟨c, hc, hkind⟩ := ht
    have hall := List.all_takeWhile (p := (!kind ·)) (l := t)
    rw [(List.takeWhile_prefix _).eq_of_length hlength, List.all_eq_true] at hall
    simpa [hkind] using hall c hc
  -- both values are what stands before the first character of the kind
  have hwhile {u : List Char} (v : List Char) (hu : ∀ c ∈ u, kind c = false) :
      (u ++ (t ++ v)).takeWhile (!kind ·) = u ++ t.takeWhile (!kind ·) := by
    rw [List.takeWhile_append_of_pos (fun d hd => by simp [hu d hd]), List.takeWhile_append,
      if_neg hshort]
  rw [List.append_assoc, List.append_assoc] at heq
  have hvalue : s = s' := by
    have := congrArg (List.takeWhile (!kind ·)) heq
    rw [hwhile r hs, hwhile r' hs'] at this
    exact List.append_cancel_right this
  subst hvalue
  exact ⟨rfl, List.append_cancel_left (List.append_cancel_left heq)⟩

/-- A value, a text that ends it, and what comes after them. -/
theorem value_append {kind : Char → Bool} (hs : ∀ c ∈ s, kind c = false)
    (hs' : ∀ c ∈ s', kind c = false) (ht : ∃ c ∈ t, kind c = true) {u u' : List Char}
    (h : Splits u u' p) : Splits (s ++ (t ++ u)) (s' ++ (t ++ u')) (s = s' ∧ p) := by
  rw [← List.append_assoc, ← List.append_assoc]
  exact (value hs hs' ht).append fun _ => h

/-- An escaped value, a text with markup, and what comes after them. -/
theorem escaped_append (a b : String) (ht : ∃ c ∈ t, isMarkup c = true) {u u' : List Char}
    (h : Splits u u' p) :
    Splits (escapeHtml a.toList ++ (t ++ u)) (escapeHtml b.toList ++ (t ++ u')) (a = b ∧ p) :=
  (value_append (fun _ => not_isMarkup_of_mem_escapeHtml) (fun _ => not_isMarkup_of_mem_escapeHtml)
    ht h).imp fun ⟨hab, hp⟩ => ⟨String.toList_inj.mp (escapeHtml_inj.mp hab), hp⟩

/-- An escaped value before a text with markup. -/
theorem escaped (a b : String) (ht : ∃ c ∈ t, isMarkup c = true) :
    Splits (escapeHtml a.toList ++ t) (escapeHtml b.toList ++ t) (a = b) := by
  have h := escaped_append a b ht (same [])
  rw [List.append_nil] at h
  exact h.imp And.left

/-- A list of parts and what comes after it. Each part tells its item, and none begins as what
comes after the other list. -/
theorem list_append {α β : Type} {write : α → List Char} {view : α → β} {l l' : List α}
    (hitem : ∀ a ∈ l, ∀ b ∈ l', Splits (write a) (write b) (view a = view b))
    (hl : ∀ a ∈ l, Splits (write a) t' False) (hl' : ∀ b ∈ l', Splits (write b) t False)
    (h : Splits t t' p) :
    Splits (l.flatMap write ++ t) (l'.flatMap write ++ t') (l.map view = l'.map view ∧ p) := by
  induction l generalizing l' with
  | nil =>
    cases l' with
    | nil => exact h.imp fun hp => ⟨rfl, hp⟩
    | cons b rest' =>
      intro r r' heq
      simp only [List.flatMap_nil, List.nil_append, List.flatMap_cons, List.append_assoc] at heq
      exact absurd (hl' b (List.mem_cons_self ..) _ _ heq.symm).1 id
  | cons a rest ih =>
    cases l' with
    | nil =>
      intro r r' heq
      simp only [List.flatMap_nil, List.nil_append, List.flatMap_cons, List.append_assoc] at heq
      exact absurd (hl a (List.mem_cons_self ..) _ _ heq).1 id
    | cons b rest' =>
      have hfirst := hitem a (List.mem_cons_self ..) b (List.mem_cons_self ..)
      have hrest : Splits (rest.flatMap write ++ t) (rest'.flatMap write ++ t')
          (rest.map view = rest'.map view ∧ p) := ih
        (fun c hc d hd => hitem c (List.mem_cons_of_mem a hc) d (List.mem_cons_of_mem b hd))
        (fun c hc => hl c (List.mem_cons_of_mem a hc))
        fun d hd => hl' d (List.mem_cons_of_mem b hd)
      rw [List.flatMap_cons, List.flatMap_cons, List.append_assoc, List.append_assoc]
      refine (hfirst.append fun _ => hrest).imp fun ⟨hab, hrest, hp⟩ => ⟨?_, hp⟩
      rw [List.map_cons, List.map_cons, hab, hrest]

/-- A list of parts, each of which tells its item and begins otherwise than the end does. -/
theorem list {α β : Type} {write : α → List Char} {view : α → β} {stop : List Char}
    {l l' : List α} (hitem : ∀ a ∈ l, ∀ b ∈ l', Splits (write a) (write b) (view a = view b))
    (hstop : ∀ a, Splits (write a) stop False) :
    Splits (l.flatMap write ++ stop) (l'.flatMap write ++ stop) (l.map view = l'.map view) :=
  (list_append hitem (fun a _ => hstop a) (fun b _ => hstop b) (same stop)).imp And.left

end Splits

end JobNotice.Text
