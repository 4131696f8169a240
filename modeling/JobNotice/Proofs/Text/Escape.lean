import JobNotice.Text.Html

/-!
# Escaped text

Escaping puts an entity in the place of each of five characters and keeps all others. It goes over
the text five times, and a later pass also reads what an earlier one has put. So it is a matter of
the order whether the passes come to the same as the single pass of `escapeOnce`: they do when no
text that is put holds a character of a later pass (`Settled`). Every entity holds an ampersand, so
the ampersand has to go first, and this is enough.

Two things follow, and all that is proved about HTML documents rests on them: an escaped text holds
no character that could begin or end a tag or a quoted attribute, and reading its entities back
gives the text.

## Main definitions

* `Text.substituteAll` — characters replaced in turn
* `Text.Settled` — replacements of which none puts a character that a later one takes
* `Text.entities` — the five characters and their entities, in the order of the passes
* `Text.isMarkup` — the characters that begin and end tags and quoted attributes

## Main results

* `Text.substituteAll_eq_flatMap` — replacements that are settled are made in a single pass
* `Text.escapeHtml_eq_escapeOnce` — the five passes are a single one
* `Text.not_isMarkup_of_mem_escapeHtml` — an escaped text holds no markup
* `Text.unescapeHtml_escapeHtml` — an escaped text can be read back
-/

namespace JobNotice.Text

/-! ### Replacements in turn -/

/-- Characters replaced by texts, one after the other. -/
def substituteAll (rules : List (Char × List Char)) (s : List Char) : List Char :=
  rules.foldl (fun t rule => substitute rule.1 rule.2 t) s

/-- What replacements put for a character; one that none of them takes is kept. -/
def imageOf (rules : List (Char × List Char)) (c : Char) : List Char :=
  (rules.lookup c).getD [c]

/-- No replacement puts a character that a later one takes. -/
def Settled (rules : List (Char × List Char)) : Prop :=
  rules.Pairwise fun rule later => later.1 ∉ rule.2

instance (rules : List (Char × List Char)) : Decidable (Settled rules) :=
  inferInstanceAs (Decidable (List.Pairwise _ _))

variable {rules : List (Char × List Char)}

theorem lookup_cons_eq_ite (target : Char) (image : List Char) (rules : List (Char × List Char))
    (c : Char) : ((target, image) :: rules).lookup c
      = if c = target then some image else rules.lookup c := by
  rw [List.lookup_cons]
  by_cases h : c = target
  · rw [if_pos h, beq_iff_eq.mpr h]
  · rw [if_neg h, beq_false_of_ne h]

theorem substitute_append (target : Char) (image s t : List Char) :
    substitute target image (s ++ t) = substitute target image s ++ substitute target image t :=
  List.flatMap_append

theorem substitute_of_not_mem {target : Char} {s : List Char} (h : target ∉ s)
    (image : List Char) : substitute target image s = s := by
  induction s with
  | nil => rfl
  | cons c s ih =>
    rw [List.mem_cons, not_or] at h
    rw [← List.singleton_append, substitute_append, ih h.2]
    simp [substitute, Ne.symm h.1]

theorem substituteAll_nil (rules : List (Char × List Char)) : substituteAll rules [] = [] := by
  induction rules with
  | nil => rfl
  | cons rule rules ih => exact ih

theorem substituteAll_append (rules : List (Char × List Char)) (s t : List Char) :
    substituteAll rules (s ++ t) = substituteAll rules s ++ substituteAll rules t := by
  induction rules generalizing s t with
  | nil => rfl
  | cons rule rules ih =>
    show substituteAll rules (substitute rule.1 rule.2 (s ++ t)) = _
    rw [substitute_append, ih]
    rfl

/-- A text without any of the characters is kept. -/
theorem substituteAll_of_not_mem {s : List Char} (h : ∀ rule ∈ rules, rule.1 ∉ s) :
    substituteAll rules s = s := by
  induction rules with
  | nil => rfl
  | cons rule rules ih =>
    show substituteAll rules (substitute rule.1 rule.2 s) = s
    rw [substitute_of_not_mem (h rule (List.mem_cons_self ..))]
    exact ih fun later hlater => h later (List.mem_cons_of_mem rule hlater)

/-- The replacement that takes a character is the last one that changes anything. -/
theorem substituteAll_singleton (h : Settled rules) (c : Char) :
    substituteAll rules [c] = imageOf rules c := by
  induction rules with
  | nil => rfl
  | cons rule rules ih =>
    obtain ⟨target, image⟩ := rule
    obtain ⟨hlater, hrules⟩ := List.pairwise_cons.mp h
    show substituteAll rules (substitute target image [c]) = _
    rw [imageOf, lookup_cons_eq_ite]
    by_cases hc : c = target
    · have himage : substitute target image [c] = image := by simp [substitute, hc]
      rw [himage, substituteAll_of_not_mem hlater, if_pos hc, Option.getD_some]
    · have hkept : target ∉ [c] := by simpa using Ne.symm hc
      rw [substitute_of_not_mem hkept, ih hrules, if_neg hc, imageOf]

/-- **Replacements that are settled are made in a single pass.** -/
theorem substituteAll_eq_flatMap (h : Settled rules) (s : List Char) :
    substituteAll rules s = s.flatMap (imageOf rules) := by
  induction s with
  | nil => exact substituteAll_nil rules
  | cons c s ih =>
    rw [← List.singleton_append, substituteAll_append, substituteAll_singleton h, ih]
    rfl

/-! ### One pass -/

/-- The characters that are not written as they are, each with its entity. -/
def entities : List (Char × List Char) :=
  [('&', "&amp;".toList), ('<', "&lt;".toList), ('>', "&gt;".toList), ('"', "&quot;".toList),
    ('\'', "&#39;".toList)]

/-- The ampersand goes first, and no entity holds another one of the characters. -/
theorem settled_entities : Settled entities := by decide

/-- With the ampersand last, the entities of the other characters are escaped again. -/
example : substituteAll (entities.tail ++ entities.take 1) ['<'] = "&amp;lt;".toList := by decide

theorem lookup_entities (c : Char) : entities.lookup c = htmlEntity? c := by
  simp only [entities, htmlEntity?, lookup_cons_eq_ite, List.lookup_nil]

/-- **The five passes come to the same as one.** -/
theorem escapeHtml_eq_escapeOnce (s : List Char) : escapeHtml s = escapeOnce s := by
  have hpasses : escapeHtml s = substituteAll entities s := rfl
  have himage : imageOf entities = fun c => (htmlEntity? c).getD [c] := by
    funext c
    rw [imageOf, lookup_entities]
  rw [hpasses, substituteAll_eq_flatMap settled_entities, himage, escapeOnce]

@[simp] theorem escapeHtml_nil : escapeHtml [] = [] := rfl

/-- Escaping goes through a text piece by piece. -/
theorem escapeHtml_append (s t : List Char) :
    escapeHtml (s ++ t) = escapeHtml s ++ escapeHtml t :=
  substituteAll_append entities s t

theorem escapeHtml_cons (c : Char) (s : List Char) :
    escapeHtml (c :: s) = (htmlEntity? c).getD [c] ++ escapeHtml s := by
  rw [escapeHtml_eq_escapeOnce, escapeHtml_eq_escapeOnce]
  rfl

theorem mem_entities_of_htmlEntity? {c : Char} {e : List Char} (h : htmlEntity? c = some e) :
    (c, e) ∈ entities := by
  rw [← lookup_entities, List.lookup_eq_some_iff] at h
  obtain ⟨earlier, later, hentities, -⟩ := h
  rw [hentities]
  exact List.mem_append_right earlier (List.mem_cons_self ..)

/-! ### No markup -/

/-- The characters that begin and end tags and quoted attributes. -/
def isMarkup (c : Char) : Bool := c = '<' || c = '>' || c = '"' || c = '\''

theorem not_isMarkup_of_mem_entity : ∀ r ∈ entities, ∀ d ∈ r.2, isMarkup d = false := by
  simp [entities, isMarkup]

/-- Every character of markup has an entity. -/
theorem not_isMarkup_of_htmlEntity?_eq_none {c : Char} (h : htmlEntity? c = none) :
    isMarkup c = false := by
  cases hmarkup : isMarkup c with
  | false => rfl
  | true =>
    simp only [isMarkup, Bool.or_eq_true, decide_eq_true_eq] at hmarkup
    rcases hmarkup with ((rfl | rfl) | rfl) | rfl <;> exact absurd h (by decide)

/-- **An escaped text holds no markup.** -/
theorem not_isMarkup_of_mem_escapeHtml {s : List Char} {d : Char} (h : d ∈ escapeHtml s) :
    isMarkup d = false := by
  rw [escapeHtml_eq_escapeOnce, escapeOnce, List.mem_flatMap] at h
  obtain ⟨c, -, hd⟩ := h
  cases hc : htmlEntity? c with
  | none =>
    obtain rfl : d = c := by simpa [hc] using hd
    exact not_isMarkup_of_htmlEntity?_eq_none hc
  | some e =>
    rw [hc, Option.getD_some] at hd
    exact not_isMarkup_of_mem_entity _ (mem_entities_of_htmlEntity? hc) d hd

/-! ### Reading back -/

theorem unescapeHtml_entity_append (r : List Char) :
    ∀ rule ∈ entities, unescapeHtml (rule.2 ++ r) = rule.1 :: unescapeHtml r := by
  simp [entities, unescapeHtml]

theorem unescapeHtml_cons_of_ne {c : Char} (h : c ≠ '&') (r : List Char) :
    unescapeHtml (c :: r) = c :: unescapeHtml r := by
  simp [unescapeHtml, h]

theorem ne_ampersand_of_htmlEntity?_eq_none {c : Char} (h : htmlEntity? c = none) : c ≠ '&' := by
  rintro rfl
  exact absurd h (by decide)

/-- **An escaped text can be read back.** -/
theorem unescapeHtml_escapeHtml (s : List Char) : unescapeHtml (escapeHtml s) = s := by
  induction s with
  | nil => rfl
  | cons c s ih =>
    rw [escapeHtml_cons]
    cases hc : htmlEntity? c with
    | none =>
      show unescapeHtml (c :: escapeHtml s) = _
      rw [unescapeHtml_cons_of_ne (ne_ampersand_of_htmlEntity?_eq_none hc), ih]
    | some e =>
      rw [Option.getD_some,
        unescapeHtml_entity_append _ _ (mem_entities_of_htmlEntity? hc), ih]

theorem escapeHtml_inj {s t : List Char} : escapeHtml s = escapeHtml t ↔ s = t := by
  refine ⟨fun h => ?_, fun h => h ▸ rfl⟩
  rw [← unescapeHtml_escapeHtml s, h, unescapeHtml_escapeHtml]

/-! ### Strings -/

@[simp] theorem toList_htmlText (s : String) : (htmlText s).toList = escapeHtml s.toList :=
  String.toList_ofList

end JobNotice.Text
