import JobNotice.Proofs.Decimal.Numeral
import JobNotice.Proofs.Notice.Acceptance
import JobNotice.Proofs.Notice.Rendering
import JobNotice.Proofs.Text.Escape

/-!
# The markup of a document

The markup of a document is the sequence of its characters that begin and end tags and quoted
attributes. Two contexts have the same shape when they agree on how the job ended, on what is
present, and on the number of stages. Two documents of contexts of one shape have the same markup,
whatever their values say, whatever the product and the support address. So no value can open or
close a tag or an attribute.

The texts of a document that are not escaped are written by the program: they depend on the shape
alone. The escaped ones hold no markup. The shape is compared slot by slot, and a filled layout has
the markup of its texts and of its slots.

## Main definitions

* `Notice.markup` — the markup of a text
* `Notice.SameShape` — contexts whose documents have the same parts

## Main results

* `Notice.markup_htmlSlot` — the markup of a slot depends on the shape alone
* `Notice.markup_html_eq` — so does the markup of a document
-/

namespace JobNotice.Notice

open Layout (Piece Slot builtInHtml printedOf)
open Text (htmlText isMarkup)

/-- The characters of a text that begin and end tags and quoted attributes, in their order. -/
def markup (s : String) : List Char := s.toList.filter isMarkup

/-! ### Markup of texts made of parts -/

@[simp] theorem markup_append (s t : String) : markup (s ++ t) = markup s ++ markup t := by
  simp [markup]

theorem markup_join (texts : List String) : markup (String.join texts) = texts.flatMap markup := by
  rw [markup, String.toList_join, List.filter_flatMap]
  rfl

/-- A value that is escaped has no markup. -/
@[simp] theorem markup_htmlText (s : String) : markup (htmlText s) = [] := by
  rw [markup, Text.toList_htmlText, List.filter_eq_nil_iff]
  intro c hc
  simp [Text.not_isMarkup_of_mem_escapeHtml hc]

@[simp] theorem markup_intText (i : Int) : markup (Decimal.intText i) = [] := by
  rw [markup, List.filter_eq_nil_iff]
  intro c hc hmarkup
  simp only [isMarkup, Bool.or_eq_true, decide_eq_true_eq] at hmarkup
  rcases Decimal.mem_intText hc with rfl | hdigit
  · simp at hmarkup
  · rcases hmarkup with ((rfl | rfl) | rfl) | rfl <;> simp at hdigit

/-- A filled layout has the markup of its texts and of its slots. -/
theorem filter_printedOf {value value' : Slot → String}
    (h : ∀ slot, markup (value slot) = markup (value' slot)) (pieces : List Piece) :
    (printedOf value pieces).filter isMarkup = (printedOf value' pieces).filter isMarkup := by
  induction pieces with
  | nil => rfl
  | cons p rest ih =>
    have hpiece : (p.printed value).filter isMarkup = (p.printed value').filter isMarkup := by
      cases p with
      | text s => rfl
      | marker name tight =>
        cases hslot : Slot.ofName? name with
        | none => simp [Piece.printed, hslot]
        | some slot => simpa [Piece.printed, hslot, markup] using h slot
    simpa [printedOf, hpiece] using ih

/-! ### Shapes -/

/-- Contexts that agree on how the job ended, on which optional values are present, and on the
number of stages. Whether there is an error message is only asked of failed jobs. -/
structure SameShape (c c' : Context) : Prop where
  branch : c.branch = c'.branch
  submissionTime : c.submissionTime.isSome = c'.submissionTime.isSome
  completionTime : c.completionTime.isSome = c'.completionTime.isSome
  executionTime : c.executionTime.isSome = c'.executionTime.isSome
  logoUrl : c.logoUrl.isSome = c'.logoUrl.isSome
  stages : (c.stages.getD []).length = (c'.stages.getD []).length
  errorMessage : c.branch = .failure → c.errorMessage.isSome = c'.errorMessage.isSome

/-- Two optional values that are present together. -/
theorem eq_none_or_eq_some {α : Type} {x y : Option α} (h : x.isSome = y.isSome) :
    (x = none ∧ y = none) ∨ ∃ a b, x = some a ∧ y = some b := by
  cases x <;> cases y <;> simp at h ⊢

variable {c c' : Context} {product product' support support' : String}

/-! ### Slots -/

/-- The rows of details have labels by what is present. -/
theorem SameShape.labels (h : SameShape c c') :
    (detailRows c).map Prod.fst = (detailRows c').map Prod.fst := by
  simp only [detailRows]
  rcases eq_none_or_eq_some h.submissionTime with ⟨hs, hs'⟩ | ⟨_, _, hs, hs'⟩ <;>
  rcases eq_none_or_eq_some h.completionTime with ⟨hc, hc'⟩ | ⟨_, _, hc, hc'⟩ <;>
  rcases eq_none_or_eq_some h.executionTime with ⟨he, he'⟩ | ⟨_, _, he, he'⟩ <;>
  simp [hs, hs', hc, hc', he, he']

theorem markup_htmlRow (label value : String) : markup (htmlRow label value)
    = markup "\n<tr><th>" ++ markup label ++ markup "</th><td>" ++ markup value ++
      markup "</td></tr>" := by
  unfold htmlRow
  simp only [markup_append]

theorem markup_htmlDetails (h : SameShape c c') :
    markup (htmlDetails c) = markup (htmlDetails c') := by
  have hrows (d : Context) :
      markup (String.join ((detailRows d).map fun r => htmlRow r.1 (htmlText r.2)))
        = ((detailRows d).map Prod.fst).flatMap fun label => markup (htmlRow label "") := by
    simp only [markup_join, List.flatMap_map, markup_htmlRow, markup_htmlText]
    rfl
  unfold htmlDetails
  simp only [markup_append, hrows, h.labels, markup_htmlRow "Job ID:", markup_htmlText]

theorem markup_htmlStage (s t : Job.Stage) : markup (htmlStage s) = markup (htmlStage t) := by
  unfold htmlStage
  simp only [markup_append, markup_htmlText]

/-- All stages have the same markup, so it only matters how many there are. -/
theorem markup_htmlStages {stages stages' : List Job.Stage} (h : stages.length = stages'.length) :
    markup (htmlStages stages) = markup (htmlStages stages') := by
  have hitems : markup (String.join (stages.map htmlStage))
      = markup (String.join (stages'.map htmlStage)) := by
    rw [markup_join, markup_join, List.flatMap_map, List.flatMap_map]
    induction stages generalizing stages' with
    | nil => cases stages' <;> simp at h ⊢
    | cons s rest ih =>
      cases stages' with
      | nil => simp at h
      | cons t rest' =>
        rw [List.flatMap_cons, List.flatMap_cons, markup_htmlStage s t]
        rw [ih (by simpa using h)]
  unfold htmlStages
  simp only [markup_append, hitems]

/-- A list of stages that is present is not empty, so the length tells whether it is. -/
theorem stages_eq_none_iff (hne : c.stages ≠ some []) :
    c.stages = none ↔ (c.stages.getD []).length = 0 := by
  cases hstages : c.stages with
  | none => simp
  | some stages =>
    have : stages ≠ [] := fun hnil => hne (by rw [hstages, hnil])
    simpa using this

/-- **The markup of a slot depends on the shape alone.** -/
theorem markup_htmlSlot (h : SameShape c c') (hne : c.stages ≠ some [])
    (hne' : c'.stages ≠ some []) (slot : Slot) :
    markup (htmlSlot c product support slot) = markup (htmlSlot c' product' support' slot) := by
  unfold htmlSlot
  cases slot with
  | title => simp only [markup_append, markup_htmlText, h.branch]
  | logo =>
    rcases eq_none_or_eq_some h.logoUrl with ⟨hl, hl'⟩ | ⟨_, _, hl, hl'⟩ <;>
      simp only [hl, hl', markup_append, markup_htmlText]
  | statusBanner => simp only [h.branch]
  | greeting =>
    simp only [markup_append, markup_htmlText, h.branch]
    unfold Branch.sentence
    cases c'.branch <;> simp only [markup_append, markup_htmlText]
  | jobDetails => exact markup_htmlDetails h
  | stages =>
    have hlength := h.stages
    cases hs : c.stages with
    | none =>
      have hs' := (stages_eq_none_iff hne').mpr
        (by rw [← hlength]; exact (stages_eq_none_iff hne).mp hs)
      simp only [hs']
    | some stages =>
      cases hs' : c'.stages with
      | none =>
        have hnone := (stages_eq_none_iff hne).mpr
          (by rw [hlength]; exact (stages_eq_none_iff hne').mp hs')
        simp [hs] at hnone
      | some stages' => exact markup_htmlStages (by simpa [hs, hs'] using hlength)
  | branchContent =>
    have hbranch := h.branch
    have hmessage := h.errorMessage
    unfold htmlError
    cases ho : c.outcome <;> cases ho' : c'.outcome <;>
      simp only [Context.branch, Context.errorMessage, ho, ho', reduceCtorEq] at hbranch hmessage
    · rfl
    · rcases eq_none_or_eq_some (hmessage trivial) with ⟨hm, hm'⟩ | ⟨_, _, hm, hm'⟩ <;>
        simp only [hm, hm', markup_append, markup_htmlText]
  | action => simp only [markup_append, markup_htmlText, h.branch]
  | footer =>
    unfold htmlFooter htmlLink
    simp only [markup_append, markup_htmlText, markup_intText]

/-! ### Documents -/

/-- **No value adds markup to a document.** The documents of contexts of one shape have the same
markup, for all values, products and support addresses. -/
theorem markup_html_eq {m m' : Json.Members} (hm : Context.ofAttributes m = .ok c)
    (hm' : Context.ofAttributes m' = .ok c') (h : SameShape c c')
    (product support product' support' : String) :
    ∃ d d', renderBuiltIn product support c = .ok d ∧ renderBuiltIn product' support' c' = .ok d' ∧
      markup d.html = markup d'.html := by
  refine ⟨_, _, renderBuiltIn_eq product support c, renderBuiltIn_eq product' support' c', ?_⟩
  simp only [markup, builtInDocument, String.toList_ofList]
  exact filter_printedOf (markup_htmlSlot h (stages_ne_nil hm) (stages_ne_nil hm')) builtInHtml

/-- A failed job of one stage of which every free text is the same. -/
def contextOfText (text : String) : Context where
  recipientName := text
  jobId := text
  outcome := .failure (some text)
  statusText := text
  submissionTime := some text
  completionTime := none
  executionTime := some text
  stages := some [⟨text, text, text⟩]
  links := ⟨"http://[::1]/?" ++ text, "http://[::1]/?" ++ text, "http://[::1]/?" ++ text⟩
  logoUrl := some ("http://[::1]/?" ++ text)
  currentYear := 2026

/-- A text that would leave an attribute and open a tag has no effect. -/
theorem markup_html_eq_of_script :
    Context.ofAttributes (contextOfText "Ada").toAttributes = .ok (contextOfText "Ada") ∧
    Context.ofAttributes (contextOfText "'\"><script>").toAttributes
      = .ok (contextOfText "'\"><script>") ∧
    SameShape (contextOfText "Ada") (contextOfText "'\"><script>") ∧
    ∃ d d', renderBuiltIn "Tracker" "help@example.org" (contextOfText "Ada") = .ok d ∧
      renderBuiltIn "</title>" "\"><b>" (contextOfText "'\"><script>") = .ok d' ∧
      markup d.html = markup d'.html :=
  have hplain : Context.ofAttributes (contextOfText "Ada").toAttributes
      = .ok (contextOfText "Ada") := by decide +kernel
  have hscript : Context.ofAttributes (contextOfText "'\"><script>").toAttributes
      = .ok (contextOfText "'\"><script>") := by decide +kernel
  have hshape : SameShape (contextOfText "Ada") (contextOfText "'\"><script>") :=
    ⟨rfl, rfl, rfl, rfl, rfl, rfl, fun _ => rfl⟩
  ⟨hplain, hscript, hshape, markup_html_eq hplain hscript hshape _ _ _ _⟩

end JobNotice.Notice
