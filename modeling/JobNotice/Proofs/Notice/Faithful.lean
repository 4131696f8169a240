import JobNotice.Proofs.Decimal.Numeral
import JobNotice.Proofs.Notice.Rendering
import JobNotice.Proofs.Text.Splitting

/-!
# The HTML document loses nothing

Two contexts that have the same document, for one product and one support address, agree on all
that is meant to be shown: how the job ended, every text and link, what is absent, and the lines of
the stages. Conversely the document depends on nothing else, so a document shows exactly
`Context.shown`.

A document is compared with another one slot by slot (`Splits`). The first title tells how the job
ended, and from there on all texts of the program are the same in both. An escaped value ends
before the next character of markup. A logo and the stages are told from their absence by their
first character, a row or a stage from the end of its list by the slash of the closing tag.

## Main definitions

* `Notice.Shown`, `Notice.Context.shown` — what is shown of a context

## Main results

* `Notice.splits_title`, `Notice.splits_jobDetails`, … — what each slot tells
* `Notice.html_eq_iff` — equal documents show the same
-/

namespace JobNotice.Notice

open Job (Stage Links)
open Layout (Piece Slot builtInHtml printedOf)
open Text (Splits escapeHtml htmlText isMarkup)

/-! ### What is shown -/

/-- What a document shows. -/
structure Shown where
  branch : Branch
  recipientName : String
  jobId : String
  statusText : String
  submissionTime : Option String
  completionTime : Option String
  executionTime : Option String
  errorMessage : Option String
  /-- The lines of the stages, in their order. -/
  stageLines : Option (List String)
  links : Links
  logoUrl : Option String
  currentYear : Int
  deriving DecidableEq

def Context.shown (c : Context) : Shown where
  branch := c.branch
  recipientName := c.recipientName
  jobId := c.jobId
  statusText := c.statusText
  submissionTime := c.submissionTime
  completionTime := c.completionTime
  executionTime := c.executionTime
  errorMessage := c.errorMessage
  stageLines := c.stages.map (·.map Stage.line)
  links := c.links
  logoUrl := c.logoUrl
  currentYear := c.currentYear

variable {c c' : Context} {product support : String}

/-! ### The title, the logo and the greeting -/

theorem splits_heading (b b' : Branch) :
    Splits b.heading.toList b'.heading.toList (b = b') := by
  cases b <;> cases b'
  · exact (Splits.same _).imp fun _ => rfl
  · rw [← List.append_nil Branch.success.heading.toList]
    refine Splits.of_differ_last ?_ _
    decide
  · rw [← List.append_nil Branch.failure.heading.toList]
    refine Splits.of_differ_last ?_ _
    decide
  · exact (Splits.same _).imp fun _ => rfl

/-- The title tells how the job ended. -/
theorem splits_title : Splits (htmlSlot c product support .title).toList
    (htmlSlot c' product support .title).toList (c.branch = c'.branch) := by
  unfold htmlSlot
  simp only [String.toList_append]
  exact (splits_heading c.branch c'.branch).append_left _

/-- A logo does not begin with a line feed. -/
theorem splits_logo (t : List Char) :
    Splits ((htmlSlot c product support .logo).toList ++ '\n' :: t)
      ((htmlSlot c' product support .logo).toList ++ '\n' :: t) (c.logoUrl = c'.logoUrl) := by
  unfold htmlSlot
  cases c.logoUrl with
  | none =>
    cases c'.logoUrl with
    | none => exact (Splits.same _).imp fun _ => rfl
    | some url' =>
      simp only [String.toList_append, List.append_assoc]
      refine Splits.of_cons_differ ?_ _ _
      decide
  | some url =>
    cases c'.logoUrl with
    | none =>
      simp only [String.toList_append, List.append_assoc]
      refine Splits.symm ?_
      refine Splits.of_cons_differ ?_ _ _
      decide
    | some url' =>
      simp only [String.toList_append, Text.toList_htmlText, List.append_assoc]
      refine Splits.append_left _ ?_
      refine (Splits.escaped_append url url' ⟨'"', by simp, rfl⟩ (Splits.same _)).imp fun h => ?_
      rw [h.1]

theorem splits_statusBanner (hbranch : c.branch = c'.branch) :
    Splits (htmlSlot c product support .statusBanner).toList
      (htmlSlot c' product support .statusBanner).toList True := by
  unfold htmlSlot
  rw [hbranch]
  exact Splits.same _

theorem splits_greeting (hbranch : c.branch = c'.branch) :
    Splits (htmlSlot c product support .greeting).toList
      (htmlSlot c' product support .greeting).toList (c.recipientName = c'.recipientName) := by
  unfold htmlSlot
  simp only [String.toList_append, Text.toList_htmlText, List.append_assoc, hbranch]
  refine Splits.append_left _ ?_
  exact (Splits.escaped_append _ _ ⟨'<', by simp, rfl⟩ (Splits.same _)).imp And.left

/-! ### The details -/

theorem not_isMarkup_label {r : String × String} (h : r ∈ detailRows c) :
    ∀ d ∈ r.1.toList, isMarkup d = false := by
  have hlabels : ∀ label ∈ ["Status:", "Submitted:", "Completed:", "Execution Time:"],
      label.toList.any isMarkup = false := by
    decide +kernel
  suffices hlabel : r.1.toList.any isMarkup = false from
    fun d hd => Bool.eq_false_iff.mpr (List.any_eq_false.mp hlabel d hd)
  refine hlabels r.1 ?_
  unfold detailRows at h
  cases c.submissionTime <;> cases c.completionTime <;> cases c.executionTime <;>
    simp at h <;> grind

theorem toList_htmlRow (label value : String) : (htmlRow label value).toList
    = "\n<tr><th>".toList ++ (label.toList ++
      ("</th><td>".toList ++ (value.toList ++ "</td></tr>".toList))) := by
  unfold htmlRow
  simp only [String.toList_append, List.append_assoc]

/-- A row tells its label and its value. -/
theorem splits_htmlRow {a b : String × String} (ha : ∀ d ∈ a.1.toList, isMarkup d = false)
    (hb : ∀ d ∈ b.1.toList, isMarkup d = false) :
    Splits (htmlRow a.1 (htmlText a.2)).toList (htmlRow b.1 (htmlText b.2)).toList (a = b) := by
  rw [toList_htmlRow, toList_htmlRow, Text.toList_htmlText, Text.toList_htmlText]
  refine Splits.append_left _ ?_
  have hvalue : Splits (escapeHtml a.2.toList ++ "</td></tr>".toList)
      (escapeHtml b.2.toList ++ "</td></tr>".toList) (a.2 = b.2) :=
    Splits.escaped a.2 b.2 ⟨'<', by simp, rfl⟩
  exact (Splits.value_append ha hb ⟨'<', by simp, rfl⟩ hvalue).imp fun h =>
    Prod.ext (String.toList_inj.mp h.1) h.2

/-- The values of the rows are found under their labels. -/
theorem detailRows_inj (h : detailRows c = detailRows c') : c.statusText = c'.statusText ∧
    c.submissionTime = c'.submissionTime ∧ c.completionTime = c'.completionTime ∧
    c.executionTime = c'.executionTime := by
  have hlookup (d : Context) : (detailRows d).lookup "Status:" = some d.statusText ∧
      (detailRows d).lookup "Submitted:" = d.submissionTime ∧
      (detailRows d).lookup "Completed:" = d.completionTime ∧
      (detailRows d).lookup "Execution Time:" = d.executionTime := by
    unfold detailRows
    cases d.submissionTime <;> cases d.completionTime <;> cases d.executionTime <;>
      simp [List.lookup_cons]
  obtain ⟨hstatus, hsubmission, hcompletion, hexecution⟩ := hlookup c
  obtain ⟨hstatus', hsubmission', hcompletion', hexecution'⟩ := hlookup c'
  rw [h] at hstatus hsubmission hcompletion hexecution
  refine ⟨?_, ?_, ?_, ?_⟩
  · rw [hstatus'] at hstatus
    exact (Option.some.inj hstatus).symm
  · rw [← hsubmission, hsubmission']
  · rw [← hcompletion, hcompletion']
  · rw [← hexecution, hexecution']

/-- A row does not begin as the end of the table does. -/
theorem splits_rows : Splits
    ((detailRows c).flatMap (fun r => (htmlRow r.1 (htmlText r.2)).toList) ++ "\n</table>".toList)
    ((detailRows c').flatMap (fun r => (htmlRow r.1 (htmlText r.2)).toList) ++ "\n</table>".toList)
    (detailRows c = detailRows c') := by
  have hstop (r : String × String) :
      Splits (htmlRow r.1 (htmlText r.2)).toList "\n</table>".toList False := by
    rw [toList_htmlRow]
    refine Splits.of_differ_last ?_ _
    decide
  have hitem : ∀ a ∈ detailRows c, ∀ b ∈ detailRows c',
      Splits (htmlRow a.1 (htmlText a.2)).toList (htmlRow b.1 (htmlText b.2)).toList (id a = id b) :=
    fun a ha b hb => splits_htmlRow (not_isMarkup_label ha) (not_isMarkup_label hb)
  exact (Splits.list hitem hstop).imp fun h => by simpa using h

theorem splits_jobDetails : Splits (htmlSlot c product support .jobDetails).toList
    (htmlSlot c' product support .jobDetails).toList
    (c.jobId = c'.jobId ∧ detailRows c = detailRows c') := by
  unfold htmlSlot htmlDetails
  simp only [String.toList_append, toList_htmlRow "Job ID:", Text.toList_htmlText,
    String.toList_join, List.flatMap_map, List.append_assoc]
  -- the table, its first row and label, and the beginning of the value
  iterate 5 refine Splits.append_left _ ?_
  exact Splits.escaped_append _ _ ⟨'<', by simp, rfl⟩ (splits_rows.append_left _)

/-! ### The stages -/

/-- A stage is written as its line is, the separators being no characters that are escaped. -/
theorem toList_htmlStage (s : Stage) : (htmlStage s).toList
    = "\n<li><code>".toList ++ (escapeHtml s.line.toList ++ "</code></li>".toList) := by
  have hdash : escapeHtml " - ".toList = " - ".toList := by decide
  have hcolon : escapeHtml ":".toList = ":".toList := by decide
  unfold htmlStage Stage.line
  simp only [String.toList_append, Text.toList_htmlText, Text.escapeHtml_append, hdash, hcolon,
    List.append_assoc]

theorem splits_htmlStage (s s' : Stage) :
    Splits (htmlStage s).toList (htmlStage s').toList (s.line = s'.line) := by
  rw [toList_htmlStage, toList_htmlStage]
  exact (Splits.escaped _ _ ⟨'<', by simp, rfl⟩).append_left _

theorem splits_htmlStages (stages stages' : List Stage) :
    Splits (htmlStages stages).toList (htmlStages stages').toList
      (stages.map Stage.line = stages'.map Stage.line) := by
  have hstop (s : Stage) : Splits (htmlStage s).toList "\n</ol>\n</div>".toList False := by
    rw [toList_htmlStage]
    refine Splits.of_differ_last ?_ _
    decide
  have hlist := Splits.list (fun s (_ : s ∈ stages) s' (_ : s' ∈ stages') => splits_htmlStage s s')
    hstop
  unfold htmlStages
  simp only [String.toList_append, String.toList_join, List.flatMap_map, List.append_assoc]
  exact hlist.append_left _

/-- Stages do not begin with a line feed. -/
theorem splits_stages (t : List Char) :
    Splits ((htmlSlot c product support .stages).toList ++ '\n' :: t)
      ((htmlSlot c' product support .stages).toList ++ '\n' :: t)
      (c.stages.map (·.map Stage.line) = c'.stages.map (·.map Stage.line)) := by
  unfold htmlSlot
  cases c.stages with
  | none =>
    cases c'.stages with
    | none => exact (Splits.same _).imp fun _ => rfl
    | some stages' =>
      unfold htmlStages
      simp only [String.toList_append, List.append_assoc]
      refine Splits.of_cons_differ ?_ _ _
      decide
  | some stages =>
    cases c'.stages with
    | none =>
      unfold htmlStages
      simp only [String.toList_append, List.append_assoc]
      refine Splits.symm ?_
      refine Splits.of_cons_differ ?_ _ _
      decide
    | some stages' =>
      exact ((splits_htmlStages stages stages').append_right _).imp fun h => by simpa using h

/-! ### The content of the branch, the action and the footer -/

/-- An error message does not begin as the advice for failed jobs does. -/
theorem splits_branchContent (hbranch : c.branch = c'.branch) :
    Splits (htmlSlot c product support .branchContent).toList
      (htmlSlot c' product support .branchContent).toList (c.errorMessage = c'.errorMessage) := by
  unfold htmlSlot Context.errorMessage
  unfold Context.branch at hbranch
  cases ho : c.outcome <;> cases ho' : c'.outcome <;> simp only [ho, ho', reduceCtorEq] at hbranch
  · exact (Splits.same _).imp fun _ => rfl
  · rename_i message message'
    unfold htmlError
    cases message with
    | none =>
      cases message' with
      | none => exact (Splits.same _).imp fun _ => rfl
      | some m' =>
        simp only [String.empty_append, String.toList_append, List.append_assoc]
        refine Splits.of_differ ?_ _ _
        decide
    | some m =>
      cases message' with
      | none =>
        simp only [String.empty_append, String.toList_append, List.append_assoc]
        refine Splits.of_differ ?_ _ _
        decide
      | some m' =>
        simp only [String.toList_append, Text.toList_htmlText, List.append_assoc]
        refine Splits.append_left _ ?_
        refine (Splits.escaped_append m m' ⟨'<', by simp, rfl⟩ (Splits.same _)).imp fun h => ?_
        rw [h.1]

theorem splits_action (hbranch : c.branch = c'.branch) :
    Splits (htmlSlot c product support .action).toList
      (htmlSlot c' product support .action).toList
      (c.links.submissionUrl = c'.links.submissionUrl) := by
  unfold htmlSlot
  simp only [String.toList_append, Text.toList_htmlText, List.append_assoc, hbranch]
  refine Splits.append_left _ ?_
  exact (Splits.escaped_append _ _ ⟨'"', by simp, rfl⟩ (Splits.same _)).imp And.left

theorem not_blank_of_mem_intText {i : Int} : ∀ d ∈ (Decimal.intText i).toList, (d == ' ') = false := by
  intro d hd
  rcases Decimal.mem_intText hd with rfl | hdigit
  · rfl
  · cases hblank : d == ' ' with
    | false => rfl
    | true =>
      rw [beq_iff_eq.mp hblank] at hdigit
      exact absurd hdigit (by decide)

theorem splits_htmlLink (url url' label : String) :
    Splits (htmlLink url label).toList (htmlLink url' label).toList (url = url') := by
  unfold htmlLink
  simp only [String.toList_append, Text.toList_htmlText, List.append_assoc]
  refine Splits.append_left _ ?_
  exact (Splits.escaped_append _ _ ⟨'"', by simp, rfl⟩ (Splits.same _)).imp And.left

/-- The year ends before the blank that follows it. -/
theorem splits_year (i j : Int) (t : List Char) :
    Splits ((Decimal.intText i).toList ++ (" ".toList ++ t))
      ((Decimal.intText j).toList ++ (" ".toList ++ t)) (i = j) :=
  (Splits.value_append not_blank_of_mem_intText not_blank_of_mem_intText ⟨' ', by simp, rfl⟩
    (Splits.same t)).imp fun h => Decimal.intText_inj.mp (String.toList_inj.mp h.1)

theorem splits_footer : Splits (htmlSlot c product support .footer).toList
    (htmlSlot c' product support .footer).toList
    (c.links.docsUrl = c'.links.docsUrl ∧ c.links.baseUrl = c'.links.baseUrl ∧
      c.currentYear = c'.currentYear) := by
  unfold htmlSlot htmlFooter
  simp only [String.toList_append, List.append_assoc]
  refine Splits.append_left _ ((splits_htmlLink _ _ _).append fun _ => ?_)
  refine Splits.append_left _ ((splits_htmlLink _ _ _).append fun _ => ?_)
  -- the line of the support address
  iterate 7 refine Splits.append_left _ ?_
  exact splits_year _ _ _

/-! ### Documents -/

/-- A text of a layout is the same in both documents. -/
theorem splits_text {v v' : Slot → String} {s : String} {rest : List Piece} {p : Prop}
    (h : Splits (printedOf v rest) (printedOf v' rest) p) :
    Splits (printedOf v (.text s :: rest)) (printedOf v' (.text s :: rest)) p := by
  simp only [printedOf, List.flatMap_cons, Piece.printed] at h ⊢
  exact h.append_left _

/-- A slot that tells something by itself. -/
theorem splits_slot {v v' : Slot → String} {slot : Slot} {rest : List Piece} {p q : Prop}
    (h : Splits (v slot).toList (v' slot).toList p)
    (hrest : p → Splits (printedOf v rest) (printedOf v' rest) q) :
    Splits (printedOf v (.slot slot :: rest)) (printedOf v' (.slot slot :: rest)) (p ∧ q) := by
  simp only [printedOf, List.flatMap_cons, Piece.slot, Piece.printed, Slot.ofName?_name] at hrest ⊢
  exact h.append hrest

/-- A slot that tells something before the line feed that follows it. -/
theorem splits_slot_line {v v' : Slot → String} {slot : Slot} {s : String} {texts : List String}
    {rest : List Piece} {p q : Prop}
    (h : ∀ t, Splits ((v slot).toList ++ '\n' :: t) ((v' slot).toList ++ '\n' :: t) p)
    (hrest : p → Splits (printedOf v rest) (printedOf v' rest) q) :
    Splits (printedOf v (.slot slot :: .text (Layout.lines ("" :: s :: texts)) :: rest))
      (printedOf v' (.slot slot :: .text (Layout.lines ("" :: s :: texts)) :: rest)) (p ∧ q) := by
  simp only [printedOf, List.flatMap_cons, Piece.slot, Piece.printed, Slot.ofName?_name] at hrest ⊢
  rw [← List.append_assoc, ← List.append_assoc, Layout.toList_lines_cons]
  exact (h _).append hrest

/-- The documents of two contexts, gone through slot by slot. -/
theorem splits_html : Splits (printedOf (htmlSlot c product support) builtInHtml)
    (printedOf (htmlSlot c' product support) builtInHtml) (c.shown = c'.shown) := by
  unfold builtInHtml
  apply Splits.imp
  · apply splits_text
    apply splits_slot splits_title
    intro hbranch
    apply splits_text
    apply splits_slot_line splits_logo
    intro hlogo
    apply splits_slot splits_title
    intro htitle
    apply splits_text
    apply splits_slot (splits_statusBanner hbranch)
    intro hbanner
    apply splits_text
    apply splits_slot (splits_greeting hbranch)
    intro hname
    apply splits_text
    apply splits_slot splits_jobDetails
    intro hdetails
    apply splits_text
    apply splits_slot_line splits_stages
    intro hstages
    apply splits_slot (splits_branchContent hbranch)
    intro hmessage
    apply splits_text
    apply splits_slot (splits_action hbranch)
    intro haction
    apply splits_text
    apply splits_slot splits_footer
    intro hfooter
    apply splits_text
    exact Splits.same []
  · rintro ⟨hbranch, hlogo, -, -, hname, ⟨hid, hrows⟩, hstages, hmessage, haction,
      ⟨hdocs, hbase, hyear⟩, -⟩
    obtain ⟨hstatus, hsubmission, hcompletion, hexecution⟩ := detailRows_inj hrows
    have hlinks : c.links = c'.links := by
      cases hc : c.links
      cases hc' : c'.links
      simp_all
    simp only [Context.shown, Shown.mk.injEq]
    exact ⟨hbranch, hname, hid, hstatus, hsubmission, hcompletion, hexecution, hmessage, hstages,
      hlinks, hlogo, hyear⟩

/-! ### Nothing else is shown -/

theorem htmlStages_congr {stages stages' : List Stage}
    (h : stages.map Stage.line = stages'.map Stage.line) :
    htmlStages stages = htmlStages stages' := by
  have hjoin (l : List Stage) : (String.join (l.map htmlStage)).toList
      = (l.map Stage.line).flatMap fun line =>
        "\n<li><code>".toList ++ (escapeHtml line.toList ++ "</code></li>".toList) := by
    rw [String.toList_join, List.flatMap_map, List.flatMap_map]
    simp only [toList_htmlStage]
  have hitems : String.join (stages.map htmlStage) = String.join (stages'.map htmlStage) := by
    rw [← String.toList_inj, hjoin, hjoin, h]
  unfold htmlStages
  rw [hitems]

-- The lines are all that is shown: different stages can have the same line.
example : (Stage.mk "a - b" "c" "d").line = (Stage.mk "a" "b - c" "d").line := by decide

/-- The branch and the message tell how the job ended. -/
theorem outcome_congr (hbranch : c.branch = c'.branch)
    (hmessage : c.errorMessage = c'.errorMessage) : c.outcome = c'.outcome := by
  unfold Context.branch at hbranch
  unfold Context.errorMessage at hmessage
  cases ho : c.outcome <;> cases ho' : c'.outcome <;>
    simp only [ho, ho', reduceCtorEq] at hbranch hmessage
  · rfl
  · rw [hmessage]

/-- The slots depend on nothing else. -/
theorem htmlSlot_congr (h : c.shown = c'.shown) (slot : Slot) :
    htmlSlot c product support slot = htmlSlot c' product support slot := by
  simp only [Context.shown, Shown.mk.injEq] at h
  obtain ⟨hbranch, hname, hid, hstatus, hsubmission, hcompletion, hexecution, hmessage, hstages,
    hlinks, hlogo, hyear⟩ := h
  unfold htmlSlot
  cases slot with
  | title => simp only [hbranch]
  | logo => simp only [hlogo]
  | statusBanner => simp only [hbranch]
  | greeting => simp only [hname, hbranch]
  | jobDetails =>
    unfold htmlDetails detailRows
    simp only [hid, hstatus, hsubmission, hcompletion, hexecution]
  | stages =>
    cases hs : c.stages <;> cases hs' : c'.stages <;> simp [hs, hs'] at hstages
    · rfl
    · exact htmlStages_congr (by simpa using hstages)
  | branchContent => simp only [outcome_congr hbranch hmessage]
  | action => simp only [hlinks, hbranch]
  | footer =>
    unfold htmlFooter
    simp only [hlinks, hyear]

/-- **The document shows `Context.shown`, all of it and nothing else.** -/
theorem html_eq_iff (product support : String) (c c' : Context) :
    ∃ d d', renderBuiltIn product support c = .ok d ∧ renderBuiltIn product support c' = .ok d' ∧
      (d.html = d'.html ↔ c.shown = c'.shown) := by
  refine ⟨_, _, renderBuiltIn_eq product support c, renderBuiltIn_eq product support c', ?_, ?_⟩
  · intro h
    simp only [builtInDocument, String.ofList_inj] at h
    exact splits_html.of_eq h
  · intro h
    have hslots : htmlSlot c product support = htmlSlot c' product support :=
      funext fun slot => htmlSlot_congr h slot
    simp only [builtInDocument, hslots]

end JobNotice.Notice
