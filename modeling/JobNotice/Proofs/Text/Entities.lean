import JobNotice.Proofs.Text.Escape

/-!
# What escaping can write

An escaped text holds no character of markup, and an ampersand occurs in it only as the first
character of an entity. These two conditions say all about it: a text that meets them is the escaped
form of exactly one text, the one that comes from reading its entities back. So escaping and reading
back are inverse to each other between all texts and the texts of this form.

## Main definitions

* `Text.IsEscaped` — no markup, and no ampersand outside an entity

## Main results

* `Text.isEscaped_iff` — the texts that escaping can write
* `Text.htmlText_is_single_pass` — escaping is a single pass over the text, and loses nothing
-/

namespace JobNotice.Text

variable {s t : List Char}

/-- A text with no character that begins or ends a tag or a quoted attribute, and with no ampersand
but those that start entities. -/
structure IsEscaped (s : List Char) : Prop where
  not_isMarkup : ∀ c ∈ s, isMarkup c = false
  startsEntity : ∀ t, '&' :: t <:+ s → ∃ rule ∈ entities, rule.2 <+: '&' :: t

theorem IsEscaped.of_suffix (h : IsEscaped s) (hts : t <:+ s) : IsEscaped t where
  not_isMarkup c hc := h.not_isMarkup c (hts.subset hc)
  startsEntity u hu := h.startsEntity u (hu.trans hts)

/-! ### What is written -/

/-- An entity has an ampersand in front and no other one. -/
theorem exists_entity_body {rule : Char × List Char} (h : rule ∈ entities) :
    ∃ body, rule.2 = '&' :: body ∧ '&' ∉ body := by
  have hall : ∀ r ∈ entities, r.2 = '&' :: r.2.tail ∧ '&' ∉ r.2.tail := by decide
  exact ⟨rule.2.tail, hall rule h⟩

/-- What starts with a character starts behind a text without it. -/
theorem suffix_of_suffix_append {c : Char} {u : List Char} (h : c :: t <:+ s ++ u) (hc : c ∉ s) :
    c :: t <:+ u := by
  induction s with
  | nil => exact h
  | cons d s ih =>
    rw [List.mem_cons, not_or] at hc
    rw [List.cons_append, List.suffix_cons_iff] at h
    obtain heq | hsuffix := h
    · exact absurd (List.cons.inj heq).1 hc.1
    · exact ih hsuffix hc.2

theorem exists_entity_of_suffix_escapeHtml (h : '&' :: t <:+ escapeHtml s) :
    ∃ rule ∈ entities, rule.2 <+: '&' :: t := by
  induction s with
  | nil => simp at h
  | cons c s ih =>
    rw [escapeHtml_cons] at h
    cases hc : htmlEntity? c with
    | none =>
      rw [hc, Option.getD_none] at h
      have hne := ne_ampersand_of_htmlEntity?_eq_none hc
      exact ih (suffix_of_suffix_append h (by simpa using hne.symm))
    | some e =>
      have hrule := mem_entities_of_htmlEntity? hc
      obtain ⟨body, rfl, hbody⟩ := exists_entity_body hrule
      rw [hc, Option.getD_some, List.cons_append, List.suffix_cons_iff] at h
      obtain heq | hsuffix := h
      · refine ⟨_, hrule, ?_⟩
        rw [heq]
        exact List.prefix_append ('&' :: body) _
      · exact ih (suffix_of_suffix_append hsuffix hbody)

theorem isEscaped_escapeHtml (s : List Char) : IsEscaped (escapeHtml s) where
  not_isMarkup _ hc := not_isMarkup_of_mem_escapeHtml hc
  startsEntity _ ht := exists_entity_of_suffix_escapeHtml ht

/-! ### What can be written -/

theorem htmlEntity?_of_mem_entities : ∀ rule ∈ entities, htmlEntity? rule.1 = some rule.2 := by
  decide

/-- In an escaped text only the ampersand still has an entity. -/
theorem IsEscaped.htmlEntity?_eq_none {c : Char} (h : IsEscaped (c :: s)) (hc : c ≠ '&') :
    htmlEntity? c = none := by
  have hall : ∀ rule ∈ entities, rule.1 = '&' ∨ isMarkup rule.1 = true := by decide
  cases he : htmlEntity? c with
  | none => rfl
  | some e =>
    obtain hamp | hmarkup := hall _ (mem_entities_of_htmlEntity? he)
    · exact absurd hamp hc
    · rw [h.not_isMarkup c (List.mem_cons_self ..)] at hmarkup
      exact absurd hmarkup Bool.false_ne_true

/-- **Reading back and escaping again gives the text.** -/
theorem IsEscaped.escapeHtml_unescapeHtml {s : List Char} (h : IsEscaped s) :
    escapeHtml (unescapeHtml s) = s := by
  match s with
  | [] => rfl
  | c :: s =>
    by_cases hc : c = '&'
    · -- the entity is read as a whole, so the rest is that behind it
      subst hc
      obtain ⟨⟨d, e⟩, hrule, rest, hrest⟩ := h.startsEntity s List.suffix_rfl
      obtain ⟨body, rfl, -⟩ := exists_entity_body hrule
      have hlength : rest.length < s.length + 1 := by
        have hcount := congrArg List.length hrest
        simp only [List.length_append, List.length_cons] at hcount
        omega
      rw [← hrest, unescapeHtml_entity_append rest _ hrule, escapeHtml_cons,
        htmlEntity?_of_mem_entities _ hrule, Option.getD_some,
        (h.of_suffix ⟨_, hrest⟩).escapeHtml_unescapeHtml]
    · rw [unescapeHtml_cons_of_ne hc, escapeHtml_cons, h.htmlEntity?_eq_none hc, Option.getD_none,
        (h.of_suffix (List.suffix_cons c s)).escapeHtml_unescapeHtml]
      rfl
termination_by s.length

/-- **The texts that escaping can write.** -/
theorem isEscaped_iff : IsEscaped s ↔ ∃ t, escapeHtml t = s := by
  constructor
  · intro h
    exact ⟨unescapeHtml s, h.escapeHtml_unescapeHtml⟩
  · rintro ⟨t, rfl⟩
    exact isEscaped_escapeHtml t

/-! ### Strings -/

theorem htmlText_append (s t : String) : htmlText (s ++ t) = htmlText s ++ htmlText t := by
  rw [← String.toList_inj]
  simp only [String.toList_append, toList_htmlText, escapeHtml_append]

theorem htmlText_inj {s t : String} : htmlText s = htmlText t ↔ s = t := by
  rw [← String.toList_inj, toList_htmlText, toList_htmlText, escapeHtml_inj, String.toList_inj]

/-- **Escaping is a single pass over a text.** It puts each of the five characters' own entities in
their places and keeps all other characters, so it goes through a text piece by piece. What it
writes holds no markup and no ampersand outside an entity, reading the entities back in a single
pass gives the text, and different texts have different escaped forms. -/
theorem htmlText_is_single_pass (s : String) :
    (htmlText s).toList = escapeOnce s.toList ∧
      (∀ t, htmlText (s ++ t) = htmlText s ++ htmlText t) ∧
      IsEscaped (htmlText s).toList ∧
      unescapeHtml (htmlText s).toList = s.toList ∧
      ∀ t, htmlText s = htmlText t ↔ s = t := by
  refine ⟨?_, htmlText_append s, ?_, ?_, fun t => htmlText_inj⟩
  · rw [toList_htmlText, escapeHtml_eq_escapeOnce]
  · rw [toList_htmlText]
    exact isEscaped_escapeHtml s.toList
  · rw [toList_htmlText, unescapeHtml_escapeHtml]

/-- What reads like an entity in the text itself is read back only once. -/
example : unescapeHtml (escapeHtml "&amp;lt;".toList) = "&amp;lt;".toList := by decide

end JobNotice.Text
