import JobNotice.Notice.Document
import JobNotice.Proofs.Layout.Straight
import JobNotice.Proofs.Text.Gathering

/-!
# Rendering with the built-in layouts

The built-in layouts are straight and show all their slots, so they always make a template, and
with it every context has a document: the pieces of the layouts with the texts of the slots in the
places of the markers. Everything that is proved about documents starts from `renderBuiltIn_eq`.

The layouts are never evaluated as a whole. What `isStraight` asks of a text follows from what it
asks of the lines of the text, and a line is looked at as the characters it is made of. In the same
way, what is found in a document is found in its slots, when the lines of its layout hold nothing of
the kind.

## Main definitions

* `Layout.textsOf`, `Layout.slotsOf` — the texts and the slots of a straight layout
* `Notice.renderBuiltIn`, `Notice.builtInDocument` — the documents of a context in the built-in
  layouts

## Main results

* `Text.Gathers.printedOf` — what is found in a filled layout
* `Layout.builtIn_eq` — the built-in layouts make a template
* `Notice.renderBuiltIn_eq` — every context has its documents
-/

namespace JobNotice.Layout

/-! ### Texts made of lines -/

/-- A text that may stand before a marker. -/
def Fits (s : String) : Prop := isLiteral s.toList = true ∧ s.toList.getLast? ≠ some '{'

theorem Fits.ofList {l : List Char} (h : isLiteral l = true) (hlast : l.getLast? ≠ some '{') :
    Fits (String.ofList l) := by
  rw [Fits, String.toList_ofList]
  exact ⟨h, hlast⟩

theorem toList_lines_singleton (s : String) : (lines [s]).toList = s.toList := by
  simp [lines]

theorem toList_lines_cons (s t : String) (rest : List String) :
    (lines (s :: t :: rest)).toList = s.toList ++ '\n' :: (lines (t :: rest)).toList := by
  simp [lines, String.intercalate_cons_cons]

/-- A line feed takes no part in the opening of a tag. -/
theorem isLiteral_append_lineFeed {t u : List Char} (ht : isLiteral t = true)
    (hu : isLiteral u = true) : isLiteral (t ++ '\n' :: u) = true := by
  induction t with
  | nil => simp [isLiteral, opensTag, hu]
  | cons c t ih =>
    have hrest := ih (isLiteral_tail ht)
    simp only [isLiteral, Bool.and_eq_true, Bool.not_eq_true'] at ht
    have hopen : opensTag (c :: (t ++ '\n' :: u)) = false := by
      by_cases hc : c = '{'
      · cases t with
        | nil => simp [opensTag, hc]
        | cons d t => simpa [opensTag, hc] using ht.1
      · simp [opensTag, hc]
    simp [isLiteral, hopen, hrest]

theorem Fits.line {l : List Char} (h : isLiteral l = true) (hlast : l.getLast? ≠ some '{') :
    Fits (lines [String.ofList l]) := by
  rw [Fits, toList_lines_singleton]
  exact Fits.ofList h hlast

theorem Fits.cons {l : List Char} {t : String} {rest : List String} (hl : isLiteral l = true)
    (h : Fits (lines (t :: rest))) : Fits (lines (String.ofList l :: t :: rest)) := by
  rw [Fits, toList_lines_cons, String.toList_ofList]
  refine ⟨isLiteral_append_lineFeed hl h.1, ?_⟩
  cases hu : (lines (t :: rest)).toList with
  | nil => simp
  | cons c u =>
    have hlast := h.2
    rw [hu] at hlast
    simpa using hlast

theorem lines_ne_empty (s t : String) (rest : List String) : lines (s :: t :: rest) ≠ "" := by
  intro h
  have := toList_lines_cons s t rest
  simp [h] at this

/-! ### The built-in layouts -/

theorem Slot.isMarkerName (slot : Slot) : isMarkerName slot.name = true := by
  cases slot <;> decide

theorem isStraight_slot {slot : Slot} {rest : List Piece} (h : isStraight rest = true) :
    isStraight (.slot slot :: rest) = true := by
  simp [isStraight, Piece.slot, slot.isMarkerName, h]

theorem isStraight_text_slot {s : String} {slot : Slot} {rest : List Piece} (hne : s ≠ "")
    (hs : Fits s) (h : isStraight (.slot slot :: rest) = true) :
    isStraight (.text s :: .slot slot :: rest) = true := by
  simp only [isStraight, Piece.slot, Bool.and_eq_true] at h ⊢
  exact ⟨⟨⟨by simpa using hne, hs.1⟩, by simpa using hs.2⟩, h⟩

theorem isStraight_last {s : String} (hne : s ≠ "") (hs : Fits s) :
    isStraight [.text s] = true := by
  simp [isStraight, hne, hs.1]

theorem fits_indent : Fits (lines ["", "                "]) := by
  refine Fits.cons (by decide) ?_
  exact Fits.line (by decide +kernel) (by decide)

/-- The built-in layout in HTML is straight: each of its texts is gone through line by line. -/
theorem isStraight_builtInHtml : isStraight builtInHtml = true := by
  unfold builtInHtml
  refine isStraight_text_slot (lines_ne_empty _ _ _) ?_ ?_
  · iterate 5 refine Fits.cons (by decide +kernel) ?_
    exact Fits.line (by decide +kernel) (by decide +kernel)
  refine isStraight_slot ?_
  refine isStraight_text_slot (lines_ne_empty _ _ _) ?_ ?_
  · -- the style sheet, up to the place of the logo
    repeat apply Fits.cons (by decide +kernel)
    exact Fits.line (by decide +kernel) (by decide +kernel)
  refine isStraight_slot ?_
  refine isStraight_text_slot (lines_ne_empty _ _ _) ?_ ?_
  · refine Fits.cons (by decide) ?_
    exact Fits.line (by decide +kernel) (by decide +kernel)
  refine isStraight_slot ?_
  refine isStraight_text_slot (lines_ne_empty _ _ _) ?_ ?_
  · iterate 2 refine Fits.cons (by decide +kernel) ?_
    exact Fits.line (by decide +kernel) (by decide +kernel)
  refine isStraight_slot ?_
  refine isStraight_text_slot (lines_ne_empty _ _ _) ?_ ?_
  · iterate 2 refine Fits.cons (by decide +kernel) ?_
    exact Fits.line (by decide +kernel) (by decide +kernel)
  iterate 4
    refine isStraight_slot ?_
    refine isStraight_text_slot (lines_ne_empty _ _ _) fits_indent ?_
  refine isStraight_slot ?_
  refine isStraight_text_slot (lines_ne_empty _ _ _) ?_ ?_
  · iterate 3 refine Fits.cons (by decide +kernel) ?_
    exact Fits.line (by decide +kernel) (by decide +kernel)
  refine isStraight_slot ?_
  refine isStraight_last (lines_ne_empty _ _ _) ?_
  iterate 6 refine Fits.cons (by decide +kernel) ?_
  exact Fits.line (by decide) (by decide)

theorem isStraight_builtInText : isStraight builtInText = true := by
  decide +kernel

theorem slotsOnly_slot {slot : Slot} {pieces : List Piece} (h : SlotsOnly pieces) :
    SlotsOnly (.slot slot :: pieces) := by
  intro name tight hm
  rcases List.mem_cons.mp hm with heq | hm
  · exact ⟨slot, by simpa [Piece.slot] using (Piece.marker.inj heq).1.symm⟩
  · exact h name tight hm

theorem slotsOnly_text {s : String} {pieces : List Piece} (h : SlotsOnly pieces) :
    SlotsOnly (.text s :: pieces) := by
  intro name tight hm
  rcases List.mem_cons.mp hm with heq | hm
  · simp at heq
  · exact h name tight hm

theorem slotsOnly_nil : SlotsOnly [] := by
  intro name tight hm
  simp at hm

theorem slotsOnly_builtInHtml : SlotsOnly builtInHtml := by
  unfold builtInHtml
  iterate 10
    refine slotsOnly_text ?_
    refine slotsOnly_slot ?_
  refine slotsOnly_text ?_
  exact slotsOnly_nil

theorem slotsOnly_builtInText : SlotsOnly builtInText := by
  unfold builtInText
  iterate 8
    refine slotsOnly_slot ?_
    refine slotsOnly_text ?_
  exact slotsOnly_nil

/-- The texts between the markers. -/
def textsOf (pieces : List Piece) : List String :=
  pieces.filterMap fun
    | .text s => some s
    | .marker _ _ => none

/-- The slots that are shown, in their order. -/
def slotsOf (pieces : List Piece) : List Slot :=
  pieces.filterMap fun
    | .text _ => none
    | .marker name _ => Slot.ofName? name

theorem slotsOf_builtInHtml : slotsOf builtInHtml = [.title, .logo, .title, .statusBanner,
    .greeting, .jobDetails, .stages, .branchContent, .action, .footer] := rfl

theorem showsSlots_builtInHtml : Template.ShowsSlots .html builtInHtml := by
  intro slot _
  refine ⟨false, ?_⟩
  cases slot <;> simp [builtInHtml, Piece.slot]

theorem showsSlots_builtInText : Template.ShowsSlots .text builtInText := by
  intro slot hrequired
  refine ⟨false, ?_⟩
  cases slot <;> simp [builtInText, Piece.slot, Slot.requiredIn] at hrequired ⊢

/-- **The built-in layouts make a template**, whatever the product and the support address. -/
theorem builtIn_eq (product support : String) : builtIn product support
    = .ok (Template.ofPieces builtInHtml builtInText product support) :=
  Template.ofSources_straight isStraight_builtInHtml isStraight_builtInText slotsOnly_builtInHtml
    slotsOnly_builtInText showsSlots_builtInHtml showsSlots_builtInText product support

end JobNotice.Layout

namespace JobNotice.Text.Gathers

open Layout (Piece Slot lines slotsOf textsOf toList_lines_cons toList_lines_singleton)

variable {β : Type} {found : List Char → List β → Prop}

/-- Nothing is found in lines when nothing is found in any of them, nor in a line feed. -/
theorem nil_of_lines (h : Gathers found) (hbreak : found ['\n'] []) {texts : List String}
    (hline : ∀ s ∈ texts, found s.toList []) : found (lines texts).toList [] := by
  induction texts with
  | nil => exact h.nil
  | cons s rest ih =>
    have hfirst := hline s (List.mem_cons_self ..)
    have hrest := ih fun t ht => hline t (List.mem_cons_of_mem s ht)
    cases rest with
    | nil => rwa [toList_lines_singleton]
    | cons t rest =>
      rw [toList_lines_cons]
      exact h.append hfirst (h.append hbreak hrest)

/-- **What is found in a filled layout** is found in its slots, when its texts hold nothing. -/
theorem printedOf (h : Gathers found) {value : Slot → String} {inSlot : Slot → List β}
    (hslot : ∀ slot, found (value slot).toList (inSlot slot)) {pieces : List Piece}
    (htext : ∀ s ∈ textsOf pieces, found s.toList []) :
    found (Layout.printedOf value pieces) ((slotsOf pieces).flatMap inSlot) := by
  induction pieces with
  | nil => exact h.nil
  | cons piece rest ih =>
    cases piece with
    | text s =>
      obtain ⟨hs, hrest⟩ := List.forall_mem_cons.mp htext
      exact h.append hs (ih hrest)
    | marker name tight =>
      have hrest := ih htext
      simp only [Layout.printedOf, List.flatMap_cons, slotsOf, List.filterMap_cons,
        Piece.printed] at hrest ⊢
      -- a name that is no slot prints nothing
      cases Slot.ofName? name with
      | none => exact hrest
      | some slot => exact h.append (hslot slot) hrest

end JobNotice.Text.Gathers

namespace JobNotice.Notice

open Layout (LayoutError Template builtIn builtInHtml builtInText printedOf)

/-- The documents of a context in the built-in layouts. -/
def renderBuiltIn (product support : String) (c : Context) : Except LayoutError Document :=
  builtIn product support >>= fun t => render t c

/-- What the built-in layouts make of a context: their pieces, with the texts of the slots. -/
def builtInDocument (product support : String) (c : Context) : Document where
  branch := c.branch
  subject := subjectLine c product
  statusText := c.statusText
  html := String.ofList (printedOf (htmlSlot c product support) builtInHtml)
  text := String.ofList (printedOf (textSlot c product support) builtInText)

theorem render_eq_ok {t : Template} {c : Context} {html text : String}
    (hhtml : t.fill .html (htmlSlot c t.product t.support) = .ok html)
    (htext : t.fill .text (textSlot c t.product t.support) = .ok text) :
    render t c = .ok { branch := c.branch, subject := subjectLine c t.product,
                       statusText := c.statusText, html, text } := by
  rw [render, hhtml, htext]
  rfl

theorem render_ofPieces (product support : String) (c : Context) :
    render (Template.ofPieces builtInHtml builtInText product support) c
      = .ok (builtInDocument product support c) := by
  exact render_eq_ok
    (Template.fill_ofPieces rfl Layout.slotsOnly_builtInHtml _)
    (Template.fill_ofPieces rfl Layout.slotsOnly_builtInText _)

/-- **Every context has its documents.** -/
theorem renderBuiltIn_eq (product support : String) (c : Context) :
    renderBuiltIn product support c = .ok (builtInDocument product support c) := by
  rw [renderBuiltIn, Layout.builtIn_eq]
  exact render_ofPieces product support c

end JobNotice.Notice
