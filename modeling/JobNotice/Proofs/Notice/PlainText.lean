import JobNotice.Proofs.Notice.Faithful

/-!
# The plain text confuses nothing

The plain text shows values as they are. What keeps them apart is the end of a line, so two contexts
are compared whose values have no line feeds: they have the same plain text exactly when they agree
on all that is shown in it, which is everything but the logo. A value may well look like a row or a
heading of its own; it never stands at the beginning of a line.

As in the HTML document, one slot is gone through after the other. The rows of details and the
stages end with the line feed that the layout has behind their slots, so each of them is taken
together with it as a list of lines (`textRow`, `textStage`). A row begins with one of five labels,
and neither an empty line nor the heading of the stages does. A stage begins with a blank, and
nothing that follows the stages does.

## Main definitions

* `Notice.Context.OneLined` — contexts of which no shown value has a line feed
* `Notice.Context.shownInText` — what the plain text shows

## Main results

* `Notice.splits_textRows`, `Notice.splits_stageLines` — the lines of details and of stages
* `Notice.text_eq_iff` — equal plain texts show the same
-/

namespace JobNotice.Notice

open Job (Stage)
open Layout (Piece Slot builtInText printedOf)
open Text (Splits)

/-! ### What is shown -/

/-- The values that the plain text shows. -/
def Context.textValues (c : Context) : List String :=
  [c.recipientName, c.jobId, c.statusText] ++ c.submissionTime.toList ++ c.completionTime.toList ++
    c.executionTime.toList ++ c.errorMessage.toList ++
    (c.stages.getD []).flatMap (fun s => [s.mainFile, s.imageName, s.imageTag]) ++
    [c.links.submissionUrl, c.links.docsUrl, c.links.baseUrl]

/-- Contexts of which no shown value has a line feed. -/
def Context.OneLined (c : Context) : Prop := ∀ s ∈ c.textValues, '\n' ∉ s.toList

instance (c : Context) : Decidable c.OneLined := by
  unfold Context.OneLined
  infer_instance

/-- What the plain text shows: there is no logo in it. -/
def Context.shownInText (c : Context) : Shown := { c.shown with logoUrl := none }

variable {c c' : Context} {product support : String} {p : Prop}

/-- A value before a text with a line feed, and what comes after them. -/
theorem splits_lineValue {a b : String} (ha : '\n' ∉ a.toList) (hb : '\n' ∉ b.toList)
    {t u u' : List Char} (ht : '\n' ∈ t) (h : Splits u u' p) :
    Splits (a.toList ++ (t ++ u)) (b.toList ++ (t ++ u')) (a = b ∧ p) := by
  have hkind {s : String} (hs : '\n' ∉ s.toList) : ∀ d ∈ s.toList, (d == '\n') = false := by
    intro d hd
    rw [beq_eq_false_iff_ne]
    rintro rfl
    exact hs hd
  exact (Splits.value_append (hkind ha) (hkind hb) ⟨'\n', ht, rfl⟩ h).imp fun h =>
    ⟨String.toList_inj.mp h.1, h.2⟩

/-! ### The title and the greeting -/

theorem splits_textTitle : Splits (textSlot c product support .title).toList
    (textSlot c' product support .title).toList (c.branch = c'.branch) := by
  unfold textSlot
  simp only [String.toList_append]
  exact (splits_heading c.branch c'.branch).append_left _

theorem splits_textBanner (hbranch : c.branch = c'.branch) :
    Splits (textSlot c product support .statusBanner).toList
      (textSlot c' product support .statusBanner).toList True := by
  unfold textSlot
  rw [hbranch]
  exact Splits.same _

theorem splits_textGreeting (h : c.OneLined) (h' : c'.OneLined) (hbranch : c.branch = c'.branch) :
    Splits (textSlot c product support .greeting).toList
      (textSlot c' product support .greeting).toList (c.recipientName = c'.recipientName) := by
  have hname : '\n' ∉ c.recipientName.toList := h _ (by simp [Context.textValues])
  have hname' : '\n' ∉ c'.recipientName.toList := h' _ (by simp [Context.textValues])
  unfold textSlot
  simp only [String.toList_append, List.append_assoc, hbranch]
  refine Splits.append_left _ ?_
  exact (splits_lineValue hname hname' (by simp) (Splits.same _)).imp And.left

/-! ### The details -/

/-- The rows of details, the identifier of the job first. -/
def textRows (c : Context) : List (String × String) := ("Job ID:", c.jobId) :: detailRows c

/-- A row with the end of its line. -/
def textRow (r : String × String) : List Char :=
  r.1.toList ++ (" ".toList ++ (r.2.toList ++ "\n".toList))

def rowLabels : List String := ["Job ID:", "Status:", "Submitted:", "Completed:", "Execution Time:"]

/-- A label is not the beginning of another one, nor of what comes after the rows. -/
theorem differ_rowLabels : ∀ l ∈ rowLabels, Text.differ l.toList "\n".toList = true ∧
    Text.differ l.toList "Stages:".toList = true ∧
    ∀ l' ∈ rowLabels, l = l' ∨ Text.differ l.toList l'.toList = true := by
  decide +kernel

theorem mem_textRows {r : String × String} (hr : r ∈ textRows c) :
    r.1 ∈ rowLabels ∧ r.2 ∈ c.textValues := by
  unfold textRows detailRows at hr
  unfold rowLabels Context.textValues
  cases hs : c.submissionTime <;> cases hc : c.completionTime <;> cases he : c.executionTime <;>
    simp only [hs, hc, he] at hr <;> simp at hr ⊢ <;> grind

/-- A row tells its label and its value. -/
theorem splits_textRow (h : c.OneLined) (h' : c'.OneLined) {a b : String × String}
    (ha : a ∈ textRows c) (hb : b ∈ textRows c') : Splits (textRow a) (textRow b) (a = b) := by
  obtain ⟨hla, hva⟩ := mem_textRows ha
  obtain ⟨hlb, hvb⟩ := mem_textRows hb
  obtain ⟨-, -, hlabels⟩ := differ_rowLabels a.1 hla
  unfold textRow
  rcases hlabels b.1 hlb with hlabel | hdiffer
  · rw [hlabel, ← List.append_nil "\n".toList]
    refine Splits.append_left _ (Splits.append_left _ ?_)
    exact (splits_lineValue (h _ hva) (h' _ hvb) (by decide) (Splits.same [])).imp fun hv =>
      Prod.ext hlabel hv.1
  · exact Splits.differing hdiffer _ _

/-- Lines with the end of the last one. -/
theorem toList_lines_append (s : String) (rest : List String) :
    (Layout.lines (s :: rest)).toList ++ "\n".toList
      = (s :: rest).flatMap fun line => line.toList ++ "\n".toList := by
  induction rest generalizing s with
  | nil => simp [Layout.toList_lines_singleton]
  | cons t rest ih =>
    rw [Layout.toList_lines_cons, List.flatMap_cons, ← ih t]
    simp

/-- The details with the end of their last line are a list of rows. -/
theorem toList_jobDetails_append (product support : String) (t : List Char) :
    (textSlot c product support .jobDetails).toList ++ ("\n".toList ++ t)
      = (textRows c).flatMap textRow ++ t := by
  have hrow (r : String × String) : textRow r = (r.1 ++ " " ++ r.2).toList ++ "\n".toList := by
    simp [textRow]
  have hlines := toList_lines_append ("Job ID:" ++ " " ++ c.jobId)
    ((detailRows c).map fun r => r.1 ++ " " ++ r.2)
  rw [← List.map_cons (f := fun r : String × String => r.1 ++ " " ++ r.2)
    (a := ("Job ID:", c.jobId)), List.flatMap_map] at hlines
  simp only [← hrow] at hlines
  rw [← List.append_assoc, textRows, ← hlines]
  rfl

/-- The rows before what comes after them. -/
theorem splits_textRows (h : c.OneLined) (h' : c'.OneLined) {u u' : List Char}
    (hu : ∀ r ∈ textRows c', Splits (textRow r) u False)
    (hu' : ∀ r ∈ textRows c, Splits (textRow r) u' False) (hrest : Splits u u' p) :
    Splits ((textRows c).flatMap textRow ++ u) ((textRows c').flatMap textRow ++ u')
      (textRows c = textRows c' ∧ p) := by
  have hrows : Splits ((textRows c).flatMap textRow ++ u) ((textRows c').flatMap textRow ++ u')
      ((textRows c).map id = (textRows c').map id ∧ p) :=
    Splits.list_append (fun _ ha _ hb => splits_textRow h h' ha hb) hu' hu hrest
  simpa only [List.map_id] using hrows

/-! ### The stages -/

/-- A numbered stage with the end of its line. -/
def textStage (s : Stage × Nat) : List Char :=
  "  ".toList ++ ((Decimal.natText s.2).toList ++ (". ".toList ++ (s.1.line.toList ++ "\n".toList)))

/-- The lines of the stages; without stages there is an empty line. -/
def stageLines : Option (List Stage) → List Char
  | none => "\n".toList
  | some stages => "Stages:\n".toList ++ (stages.zipIdx 1).flatMap textStage

theorem toList_textStagesFrom_append (number : Nat) (stages : List Stage) :
    (textStagesFrom number stages).toList ++ "\n".toList
      = "\n".toList ++ (stages.zipIdx number).flatMap textStage := by
  induction stages generalizing number with
  | nil => rfl
  | cons s rest ih =>
    rw [textStagesFrom, List.zipIdx_cons, List.flatMap_cons, textStage]
    simp only [String.toList_append, List.append_assoc, ih (number + 1)]
    rfl

theorem toList_stages_append (product support : String) (t : List Char) :
    (textSlot c product support .stages).toList ++ ("\n".toList ++ t)
      = stageLines c.stages ++ t := by
  unfold textSlot stageLines
  cases c.stages with
  | none => rfl
  | some stages =>
    simp only [String.toList_append]
    rw [← List.append_assoc, List.append_assoc "Stages:".toList, toList_textStagesFrom_append]
    rfl

theorem lineFeed_not_mem_line {s : Stage} (h : ∀ v ∈ [s.mainFile, s.imageName, s.imageTag],
    '\n' ∉ v.toList) : '\n' ∉ s.line.toList := by
  simp only [List.forall_mem_cons, List.not_mem_nil] at h
  obtain ⟨hfile, hname, htag, -⟩ := h
  simp [Stage.line, hfile, hname, htag]

theorem lineFeed_not_mem_stage (h : c.OneLined) {stages : List Stage} (hc : c.stages = some stages)
    {s : Stage} (hs : s ∈ stages) : '\n' ∉ s.line.toList := by
  refine lineFeed_not_mem_line fun v hv => h v ?_
  simp only [Context.textValues, hc, Option.getD_some, List.mem_append, List.mem_flatMap]
  exact Or.inl (Or.inr ⟨s, hs, hv⟩)

/-- A stage tells its line, and its number ends before the point. -/
theorem splits_textStage {a b : Stage × Nat} (ha : '\n' ∉ a.1.line.toList)
    (hb : '\n' ∉ b.1.line.toList) :
    Splits (textStage a) (textStage b) (a.1.line = b.1.line) := by
  have hnumber (n : Nat) : ∀ d ∈ (Decimal.natText n).toList, (d == '.') = false := by
    intro d hd
    rw [beq_eq_false_iff_ne]
    rintro rfl
    exact absurd (Decimal.isDigit_of_mem_natText hd) (by decide)
  have hline := splits_lineValue ha hb (t := "\n".toList) (by decide) (Splits.same [])
  rw [List.append_nil] at hline
  unfold textStage
  refine Splits.append_left _ ?_
  exact (Splits.value_append (hnumber _) (hnumber _) ⟨'.', by decide, rfl⟩ hline).imp fun h => h.2.1

theorem splits_stageLines (h : c.OneLined) (h' : c'.OneLined) {u u' : List Char}
    (hu : ∀ s, Splits (textStage s) u False) (hu' : ∀ s, Splits (textStage s) u' False)
    (hrest : Splits u u' p) : Splits (stageLines c.stages ++ u) (stageLines c'.stages ++ u')
      (c.stages.map (·.map Stage.line) = c'.stages.map (·.map Stage.line) ∧ p) := by
  unfold stageLines
  cases hc : c.stages with
  | none =>
    cases hc' : c'.stages with
    | none => exact (hrest.append_left _).imp fun hp => ⟨rfl, hp⟩
    | some stages' =>
      rw [List.append_assoc]
      refine Splits.of_differ ?_ _ _
      decide
  | some stages =>
    cases hc' : c'.stages with
    | none =>
      rw [List.append_assoc]
      refine Splits.of_differ ?_ _ _
      decide
    | some stages' =>
      rw [List.append_assoc, List.append_assoc]
      have hitem : ∀ a ∈ stages.zipIdx 1, ∀ b ∈ stages'.zipIdx 1,
          Splits (textStage a) (textStage b) (a.1.line = b.1.line) := fun a ha b hb =>
        splits_textStage (lineFeed_not_mem_stage h hc (List.fst_mem_of_mem_zipIdx ha))
          (lineFeed_not_mem_stage h' hc' (List.fst_mem_of_mem_zipIdx hb))
      have hlines (l : List Stage) :
          (l.zipIdx 1).map (fun a => a.1.line) = l.map Stage.line := by
        have hmap := congrArg (List.map Stage.line) (List.zipIdx_map_fst 1 l)
        rwa [List.map_map] at hmap
      refine Splits.append_left _ ?_
      refine (Splits.list_append hitem (fun a _ => hu' a) (fun b _ => hu b) hrest).imp fun hs => ?_
      rw [hlines, hlines] at hs
      exact ⟨by rw [Option.map_some, Option.map_some, hs.1], hs.2⟩

/-! ### The content of the branch, the action and the footer -/

/-- An error message does not begin as the advice for failed jobs does. -/
theorem splits_textContent (h : c.OneLined) (h' : c'.OneLined) (hbranch : c.branch = c'.branch) :
    Splits (textSlot c product support .branchContent).toList
      (textSlot c' product support .branchContent).toList
      (c.errorMessage = c'.errorMessage) := by
  have hmessage : ∀ m, c.errorMessage = some m → '\n' ∉ m.toList :=
    fun m hm => h m (by simp [Context.textValues, hm])
  have hmessage' : ∀ m, c'.errorMessage = some m → '\n' ∉ m.toList :=
    fun m hm => h' m (by simp [Context.textValues, hm])
  unfold Context.errorMessage at hmessage hmessage' ⊢
  unfold Context.branch at hbranch
  unfold textSlot
  cases ho : c.outcome <;> cases ho' : c'.outcome <;>
    simp only [ho, ho', reduceCtorEq] at hbranch hmessage hmessage'
  · exact (Splits.same _).imp fun _ => rfl
  · rename_i message message'
    unfold textError
    cases message with
    | none =>
      cases message' with
      | none => exact (Splits.same _).imp fun _ => rfl
      | some m' =>
        simp only [String.empty_append, String.toList_append, List.append_assoc]
        refine Splits.of_differ ?_ _ _
        decide
    | some m =>
      cases message' with
      | none =>
        simp only [String.empty_append, String.toList_append, List.append_assoc]
        refine Splits.of_differ ?_ _ _
        decide
      | some m' =>
        simp only [String.toList_append, List.append_assoc]
        refine Splits.append_left _ ?_
        refine (splits_lineValue (hmessage m rfl) (hmessage' m' rfl) (by decide)
          (Splits.same _)).imp fun hm => ?_
        rw [hm.1]

theorem splits_textAction (h : c.OneLined) (h' : c'.OneLined) (hbranch : c.branch = c'.branch)
    (t : List Char) : Splits ((textSlot c product support .action).toList ++ '\n' :: t)
      ((textSlot c' product support .action).toList ++ '\n' :: t)
      (c.links.submissionUrl = c'.links.submissionUrl) := by
  have hurl : '\n' ∉ c.links.submissionUrl.toList := h _ (by simp [Context.textValues])
  have hurl' : '\n' ∉ c'.links.submissionUrl.toList := h' _ (by simp [Context.textValues])
  unfold textSlot
  simp only [String.toList_append, List.append_assoc, hbranch]
  refine Splits.append_left _ (Splits.append_left _ ?_)
  rw [← List.append_nil ('\n' :: t)]
  exact (splits_lineValue hurl hurl' (by simp) (Splits.same [])).imp And.left

theorem splits_textFooter (h : c.OneLined) (h' : c'.OneLined) :
    Splits (textSlot c product support .footer).toList (textSlot c' product support .footer).toList
      (c.links.docsUrl = c'.links.docsUrl ∧ c.links.baseUrl = c'.links.baseUrl ∧
        c.currentYear = c'.currentYear) := by
  have hdocs : '\n' ∉ c.links.docsUrl.toList := h _ (by simp [Context.textValues])
  have hdocs' : '\n' ∉ c'.links.docsUrl.toList := h' _ (by simp [Context.textValues])
  have hbase : '\n' ∉ c.links.baseUrl.toList := h _ (by simp [Context.textValues])
  have hbase' : '\n' ∉ c'.links.baseUrl.toList := h' _ (by simp [Context.textValues])
  unfold textSlot textFooter
  simp only [String.toList_append, List.append_assoc]
  refine Splits.append_left _ (splits_lineValue hdocs hdocs' (by decide) ?_)
  -- the product of the layout, before its link
  refine Splits.append_left _ (Splits.append_left _ (splits_lineValue hbase hbase' (by decide) ?_))
  -- the support address and the sign before the year
  refine Splits.append_left _ (Splits.append_left _ ?_)
  exact splits_year _ _ _

/-! ### Documents -/

/-- What comes after the stages in the layout. -/
def afterStages : List Piece :=
  [.slot .branchContent, .text "\n", .slot .action, .text (Layout.lines ["", "", "---", ""]),
    .slot .footer, .text "\n"]

theorem splits_afterStages (product support : String) (h : c.OneLined) (h' : c'.OneLined)
    (hbranch : c.branch = c'.branch) :
    Splits (printedOf (textSlot c product support) afterStages)
      (printedOf (textSlot c' product support) afterStages)
      (c.errorMessage = c'.errorMessage ∧ c.links.submissionUrl = c'.links.submissionUrl ∧
        c.links.docsUrl = c'.links.docsUrl ∧ c.links.baseUrl = c'.links.baseUrl ∧
        c.currentYear = c'.currentYear) := by
  unfold afterStages
  apply Splits.imp
  · apply splits_slot (splits_textContent h h' hbranch)
    intro hmessage
    apply splits_text
    apply splits_slot_line (splits_textAction h h' hbranch)
    intro haction
    apply splits_slot (splits_textFooter h h')
    intro hfooter
    apply splits_text
    exact Splits.same []
  · rintro ⟨hmessage, haction, ⟨hdocs, hbase, hyear⟩, -⟩
    exact ⟨hmessage, haction, hdocs, hbase, hyear⟩

/-- What comes after the stages begins with a letter. -/
theorem splits_textStage_afterStages (s : Stage × Nat) :
    Splits (textStage s) (printedOf (textSlot c product support) afterStages) False := by
  unfold textStage afterStages
  simp only [printedOf, List.flatMap_cons, Piece.slot, Piece.printed, Slot.ofName?_name]
  unfold textSlot textError
  cases c.outcome with
  | success =>
    simp only [String.toList_append, List.append_assoc]
    refine Splits.of_differ ?_ _ _
    decide
  | failure message =>
    cases message with
    | none =>
      simp only [String.empty_append, String.toList_append, List.append_assoc]
      refine Splits.of_differ ?_ _ _
      decide
    | some m =>
      simp only [String.toList_append, List.append_assoc]
      refine Splits.of_differ ?_ _ _
      decide

/-- A row begins otherwise than the lines of the stages. -/
theorem splits_textRow_stageLines {r : String × String} (hr : r ∈ textRows c)
    (stages : Option (List Stage)) (t : List Char) :
    Splits (textRow r) (stageLines stages ++ t) False := by
  obtain ⟨hempty, hheading, -⟩ := differ_rowLabels r.1 (mem_textRows hr).1
  unfold textRow stageLines
  cases stages with
  | none => exact Splits.differing hempty _ _
  | some stages =>
    have hline : "Stages:\n".toList = "Stages:".toList ++ "\n".toList := by decide
    simp only [hline, List.append_assoc]
    exact Splits.differing hheading _ _

/-- The details, the stages and what comes after them. -/
theorem printedOf_details (rest : List Piece) :
    printedOf (textSlot c product support)
        (.slot .jobDetails :: .text "\n" :: .slot .stages :: .text "\n" :: rest)
      = (textRows c).flatMap textRow ++
        (stageLines c.stages ++ printedOf (textSlot c product support) rest) := by
  rw [← toList_stages_append product support,
    ← toList_jobDetails_append product support]
  simp only [printedOf, List.flatMap_cons, Piece.slot, Piece.printed, Slot.ofName?_name]

/-- The plain texts of two contexts, gone through from the title to the last line. -/
theorem splits_plainText (h : c.OneLined) (h' : c'.OneLined) :
    Splits (printedOf (textSlot c product support) builtInText)
      (printedOf (textSlot c' product support) builtInText)
      (c.shownInText = c'.shownInText) := by
  have hdetails (hbranch : c.branch = c'.branch) :=
    splits_textRows h h' (fun r hr => splits_textRow_stageLines hr c.stages _)
      (fun r hr => splits_textRow_stageLines hr c'.stages _)
      (splits_stageLines h h' splits_textStage_afterStages splits_textStage_afterStages
        (splits_afterStages product support h h' hbranch))
  simp only [← printedOf_details] at hdetails
  unfold builtInText
  apply Splits.imp
  · apply splits_slot splits_textTitle
    intro hbranch
    apply splits_text
    apply splits_slot (splits_textBanner hbranch)
    intro hbanner
    apply splits_text
    apply splits_slot (splits_textGreeting h h' hbranch)
    intro hname
    apply splits_text
    exact hdetails hbranch
  · rintro ⟨hbranch, -, hname, hrows, hstages, hmessage, haction, hdocs, hbase, hyear⟩
    obtain ⟨hid, hrows⟩ := List.cons.inj hrows
    obtain ⟨hstatus, hsubmission, hcompletion, hexecution⟩ := detailRows_inj hrows
    have hlinks : c.links = c'.links := by
      cases hc : c.links
      cases hc' : c'.links
      simp_all
    simp only [Context.shownInText, Context.shown, Shown.mk.injEq]
    exact ⟨hbranch, hname, (Prod.ext_iff.mp hid).2, hstatus, hsubmission, hcompletion, hexecution,
      hmessage, hstages, hlinks, trivial, hyear⟩

/-! ### Nothing else is shown -/

theorem textStagesFrom_congr {stages stages' : List Stage}
    (h : stages.map Stage.line = stages'.map Stage.line) (number : Nat) :
    textStagesFrom number stages = textStagesFrom number stages' := by
  induction stages generalizing stages' number with
  | nil =>
    cases stages' with
    | nil => rfl
    | cons s' rest' => simp at h
  | cons s rest ih =>
    cases stages' with
    | nil => simp at h
    | cons s' rest' =>
      rw [List.map_cons, List.map_cons, List.cons.injEq] at h
      rw [textStagesFrom, textStagesFrom, h.1, ih h.2]

/-- The slots depend on nothing else. -/
theorem textSlot_congr (h : c.shownInText = c'.shownInText) (slot : Slot) :
    textSlot c product support slot = textSlot c' product support slot := by
  simp only [Context.shownInText, Context.shown, Shown.mk.injEq, true_and] at h
  obtain ⟨hbranch, hname, hid, hstatus, hsubmission, hcompletion, hexecution, hmessage, hstages,
    hlinks, hyear⟩ := h
  unfold textSlot
  cases slot with
  | title => simp only [hbranch]
  | logo => rfl
  | statusBanner => simp only [hbranch]
  | greeting => simp only [hname, hbranch]
  | jobDetails =>
    unfold textDetails detailRows
    simp only [hid, hstatus, hsubmission, hcompletion, hexecution]
  | stages =>
    cases hs : c.stages <;> cases hs' : c'.stages <;> simp [hs, hs'] at hstages
    · rfl
    · simp only [textStagesFrom_congr (by simpa using hstages)]
  | branchContent => simp only [outcome_congr hbranch hmessage]
  | action => simp only [hlinks, hbranch]
  | footer =>
    unfold textFooter
    simp only [hlinks, hyear]

/-- **The plain text shows `Context.shownInText`, all of it and nothing else**, when no value has a
line feed. -/
theorem text_eq_iff (product support : String) (c c' : Context) (h : c.OneLined)
    (h' : c'.OneLined) :
    ∃ d d', renderBuiltIn product support c = .ok d ∧ renderBuiltIn product support c' = .ok d' ∧
      (d.text = d'.text ↔ c.shownInText = c'.shownInText) := by
  refine ⟨_, _, renderBuiltIn_eq product support c, renderBuiltIn_eq product support c', ?_, ?_⟩
  · intro heq
    simp only [builtInDocument, String.ofList_inj] at heq
    exact (splits_plainText h h').of_eq heq
  · intro hshown
    have hslots : textSlot c product support = textSlot c' product support :=
      funext fun slot => textSlot_congr hshown slot
    simp only [builtInDocument, hslots]

/-- A failed job whose status, message and only stage are given. -/
def contextOfLabels (status : String) (message : Option String) (submission : Option String)
    (file : String) : Context where
  recipientName := "Ada"
  jobId := "7"
  outcome := .failure message
  statusText := status
  submissionTime := submission
  completionTime := none
  executionTime := none
  stages := some [⟨file, "image", "1"⟩]
  links := ⟨"https://a.org", "https://b.org", "https://c.org"⟩
  logoUrl := none
  currentYear := 2026

-- With a line feed in it a status passes for a status and a row.
example : textDetails (contextOfLabels "Failed\nSubmitted: 1" none none "a.do")
    = textDetails (contextOfLabels "Failed" none (some "1") "a.do") := by decide

/-- Values that look like rows and headings are not taken for them. -/
theorem text_eq_iff_of_labels :
    let c := contextOfLabels "Failed Submitted: 1" (some "Troubleshooting tips:") none "2. b.do"
    let c' := contextOfLabels "Failed" (some "Error details:") (some "1") "a.do"
    c.OneLined ∧ c'.OneLined ∧
    ∃ d d', renderBuiltIn "Tracker" "help@example.org" c = .ok d ∧
      renderBuiltIn "Tracker" "help@example.org" c' = .ok d' ∧ d.text ≠ d'.text := by
  intro c c'
  have h : c.OneLined := by decide
  have h' : c'.OneLined := by decide
  have hne : c.shownInText ≠ c'.shownInText := by decide
  obtain ⟨d, d', hd, hd', hiff⟩ := text_eq_iff "Tracker" "help@example.org" c c' h h'
  exact ⟨h, h', d, d', hd, hd', fun heq => hne (hiff.mp heq)⟩

end JobNotice.Notice
