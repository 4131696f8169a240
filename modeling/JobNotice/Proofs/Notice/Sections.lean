import JobNotice.Proofs.Notice.Faithful
import JobNotice.Proofs.Notice.Markup
import JobNotice.Proofs.Text.Occurrences

/-!
# The sections of a document

A landmark is a piece of markup that stands for a section of the HTML document: the banner, a row of
the table of details, the logo, the error block, a stage, the link to the submission. The document
holds the landmarks of the sections that it has to have, each as often as its section, and no text
that a value holds changes that.

A landmark begins with markup, so it is counted in the literals between the values (`Counts.woven`).
Every slot is woven from literals and values, and its landmarks are those of its literals. The texts
of the layout hold none.

## Main definitions

* `Notice.Landmark`, `Notice.Landmark.text` — the pieces of markup that are counted
* `Notice.Holds` — a text that holds landmarks and no others, whatever follows it
* `Notice.slotLandmarks` — the landmarks of the sections that a slot has to have
* `Notice.sections` — how often each landmark has to stand in a document
* `Notice.actionLink` — the link to the submission

## Main results

* `Notice.holds_htmlSlot` — a slot holds its landmarks
* `Notice.holds_html` — the document holds those of its slots
* `Notice.sections_html` — the sections of the document
-/

namespace JobNotice.Notice

open Job (Stage)
open Layout (Piece Slot builtInHtml printedOf slotsOf)
open Text (Counts Gathers Woven htmlText isMarkup occurrences occurrences_le_of_infix
  occurrences_pos_of_infix tallyAll)

/-! ### Landmarks -/

/-- Markup that stands for a section. -/
inductive Landmark
  | banner
  | successBanner
  | failureBanner
  | submitted
  | completed
  | executionTime
  | logo
  | errorBlock
  | stage
  | action
  deriving DecidableEq

namespace Landmark

def text : Landmark → String
  | .banner => "<div class=\"status-banner "
  | .successBanner => "<div class=\"status-banner status-success\">SUCCESS</div>"
  | .failureBanner => "<div class=\"status-banner status-failure\">FAILED</div>"
  | .submitted => "<th>Submitted:</th>"
  | .completed => "<th>Completed:</th>"
  | .executionTime => "<th>Execution Time:</th>"
  | .logo => "<img "
  | .errorBlock => "<div class=\"error-block\">"
  | .stage => "<li><code>"
  | .action => "\" class=\"button\">"

/-- Landmarks begin with a tag or with the end of an attribute. -/
theorem exists_cons (mark : Landmark) :
    ∃ c needle, mark.text.toList = c :: needle ∧ (c = '<' ∨ c = '"') := by
  have hlist {c : Char} {needle : List Char} (hc : c = '<' ∨ c = '"') :
      ∃ d rest, (String.ofList (c :: needle)).toList = d :: rest ∧ (d = '<' ∨ d = '"') :=
    ⟨c, needle, String.toList_ofList, hc⟩
  cases mark <;> exact hlist (by decide)

theorem text_ne_nil (mark : Landmark) : mark.text.toList ≠ [] := by
  obtain ⟨c, needle, htext, -⟩ := mark.exists_cons
  simp [htext]

/-- A landmark is counted as the characters it is made of. -/
theorem tallyAll_string {needle : List Char} {literals : List (List Char)} {k : Nat}
    (h : tallyAll needle literals = some k) :
    tallyAll (String.ofList needle).toList literals = some k := by
  rwa [String.toList_ofList]

end Landmark

/-- A text that holds landmarks and no others. -/
def Holds (s : List Char) (marks : List Landmark) : Prop :=
  ∀ mark : Landmark, Counts mark.text.toList s (marks.count mark)

namespace Holds

variable {s t : List Char} {marks marks' : List Landmark}

theorem nil : Holds [] [] := fun mark => Counts.nil mark.text.toList

theorem append (hs : Holds s marks) (ht : Holds t marks') : Holds (s ++ t) (marks ++ marks') :=
  fun mark => ((hs mark).append (ht mark)).congr rfl List.count_append.symm

theorem append_left (hs : Holds s []) (ht : Holds t marks) : Holds (s ++ t) marks :=
  hs.append ht

theorem append_right (hs : Holds s marks) (ht : Holds t []) : Holds (s ++ t) marks := by
  simpa using hs.append ht

/-- Landmarks are found in a document piece by piece. -/
theorem gathers : Gathers Holds := ⟨nil, append⟩

/-- A woven text holds the landmarks of its literals. -/
theorem woven {literals : List (List Char)} (hs : Woven literals s)
    (h : ∀ mark : Landmark, tallyAll mark.text.toList literals = some (marks.count mark)) :
    Holds s marks := by
  intro mark
  obtain ⟨c, needle, htext, hc⟩ := mark.exists_cons
  have hmarkup : isMarkup c = true := by rcases hc with rfl | rfl <;> decide
  have htally := h mark
  rw [htext] at htally ⊢
  exact Counts.woven hmarkup hs htally

/-- A string that holds the landmarks it is seen to hold. -/
theorem string {l : List Char}
    (h : ∀ mark : Landmark, tallyAll mark.text.toList [l] = some (marks.count mark)) :
    Holds (String.ofList l).toList marks :=
  woven Woven.string h

/-- A text in which no landmark begins. -/
theorem of_quiet (h : (s.all fun c => c != '<' && c != '"') = true) : Holds s [] := by
  intro mark
  obtain ⟨c, needle, htext, hc⟩ := mark.exists_cons
  rw [htext]
  refine Counts.of_not_mem fun hmem => ?_
  have hquiet := List.all_eq_true.mp h c hmem
  rcases hc with rfl | rfl <;> simp at hquiet

end Holds

/-! ### Slots -/

/-- The landmarks that a slot has to have. -/
def slotLandmarks (c : Context) : Slot → List Landmark
  | .title => []
  | .logo => if c.logoUrl.isSome then [.logo] else []
  | .statusBanner =>
    match c.branch with
    | .success => [.banner, .successBanner]
    | .failure => [.banner, .failureBanner]
  | .greeting => []
  | .jobDetails =>
    (if c.submissionTime.isSome then [.submitted] else []) ++
      (if c.completionTime.isSome then [.completed] else []) ++
      (if c.executionTime.isSome then [.executionTime] else [])
  | .stages => List.replicate (c.stages.getD []).length .stage
  | .branchContent => if c.errorMessage.isSome then [.errorBlock] else []
  | .action => [.action]
  | .footer => []

variable {c : Context} {product support : String}

theorem holds_title : Holds (htmlSlot c product support .title).toList [] := by
  unfold htmlSlot
  simp only [String.toList_append, Text.toList_htmlText, List.append_assoc]
  cases c.branch <;> refine Holds.woven (Woven.escaped_append _ Woven.string.string_append) ?_ <;>
    intro mark <;> cases mark <;> exact Landmark.tallyAll_string (by decide)

theorem holds_logo : Holds (htmlSlot c product support .logo).toList (slotLandmarks c .logo) := by
  unfold htmlSlot slotLandmarks
  cases c.logoUrl with
  | none => exact Holds.nil
  | some url =>
    simp only [String.toList_append, Text.toList_htmlText, List.append_assoc, Option.isSome_some,
      if_true]
    refine Holds.woven (Woven.string_append (Woven.escaped_append _
      (Woven.string_append (Woven.escaped_append _ Woven.string)))) ?_
    intro mark
    cases mark <;> exact Landmark.tallyAll_string (by decide)

theorem holds_statusBanner :
    Holds (htmlSlot c product support .statusBanner).toList (slotLandmarks c .statusBanner) := by
  unfold htmlSlot slotLandmarks
  simp only [String.toList_append, List.append_assoc]
  cases c.branch <;>
    refine Holds.woven (Woven.string_append (Woven.string_append (Woven.string_append
      (Woven.string_append Woven.string)))) ?_ <;>
    intro mark <;> cases mark <;> exact Landmark.tallyAll_string (by decide)

theorem holds_greeting : Holds (htmlSlot c product support .greeting).toList [] := by
  unfold htmlSlot Branch.sentence
  cases c.branch <;>
    simp only [String.toList_append, Text.toList_htmlText, List.append_assoc] <;>
    refine Holds.woven (Woven.string_append (Woven.escaped_append _ (Woven.string_append
      (Woven.string_append (Woven.escaped_append _ (Woven.string_append (Woven.string_append
        (Woven.string_append Woven.string)))))))) ?_ <;>
    intro mark <;> cases mark <;> exact Landmark.tallyAll_string (by decide)

/-! ### The details -/

/-- The row of an optional value, and no row when it is absent. -/
theorem holds_optionalRow {label : String} {mark : Landmark} (value : Option String)
    (h : ∀ v, Holds (htmlRow label (htmlText v)).toList [mark]) :
    Holds ((match value with
        | none => []
        | some v => [(label, v)]).flatMap fun r : String × String =>
          (htmlRow r.1 (htmlText r.2)).toList)
      (if value.isSome then [mark] else []) := by
  cases value with
  | none => exact Holds.nil
  | some v => simpa using h v

/-- The rows of the times hold the landmarks of their labels. -/
theorem holds_htmlRow (value : String) :
    Holds (htmlRow "Status:" (htmlText value)).toList [] ∧
    Holds (htmlRow "Submitted:" (htmlText value)).toList [.submitted] ∧
    Holds (htmlRow "Completed:" (htmlText value)).toList [.completed] ∧
    Holds (htmlRow "Execution Time:" (htmlText value)).toList [.executionTime] := by
  simp only [toList_htmlRow, Text.toList_htmlText]
  refine ⟨?_, ?_, ?_, ?_⟩ <;>
    refine Holds.woven (Woven.string_append (Woven.string_append (Woven.string_append
      (Woven.escaped_append _ Woven.string)))) ?_ <;>
    intro mark <;> cases mark <;> exact Landmark.tallyAll_string (by decide)

theorem holds_jobDetails :
    Holds (htmlSlot c product support .jobDetails).toList (slotLandmarks c .jobDetails) := by
  have hid : Holds ("<table class=\"details\">" ++
      htmlRow "Job ID:" ("<code>" ++ htmlText c.jobId ++ "</code>")).toList [] := by
    rw [String.toList_append, toList_htmlRow]
    simp only [String.toList_append, Text.toList_htmlText, List.append_assoc]
    refine Holds.woven (Woven.string_append (Woven.string_append (Woven.string_append
      (Woven.string_append (Woven.string_append (Woven.escaped_append _
        (Woven.string_append Woven.string))))))) ?_
    intro mark
    cases mark <;> exact Landmark.tallyAll_string (by decide)
  have hend : Holds "\n</table>".toList [] := by
    refine Holds.string fun mark => ?_
    cases mark <;> exact Landmark.tallyAll_string (by decide)
  unfold htmlSlot htmlDetails detailRows slotLandmarks
  rw [String.toList_append, String.toList_append, String.toList_join, List.flatMap_map,
    List.flatMap_cons, List.flatMap_append, List.flatMap_append]
  refine (hid.append_left ((holds_htmlRow _).1.append_left ?_)).append_right hend
  exact ((holds_optionalRow _ fun v => (holds_htmlRow v).2.1).append
    (holds_optionalRow _ fun v => (holds_htmlRow v).2.2.1)).append
    (holds_optionalRow _ fun v => (holds_htmlRow v).2.2.2)

/-! ### The stages, the content of the branch, the action and the footer -/

theorem holds_htmlStage (s : Stage) : Holds (htmlStage s).toList [.stage] := by
  rw [toList_htmlStage]
  refine Holds.woven (Woven.string_append (Woven.escaped_append _ Woven.string)) ?_
  intro mark
  cases mark <;> exact Landmark.tallyAll_string (by decide)

theorem holds_htmlStages (stages : List Stage) :
    Holds (htmlStages stages).toList (List.replicate stages.length .stage) := by
  have hstart : Holds "<div class=\"stages\">\n<strong>Stages:</strong>\n<ol>".toList [] := by
    refine Holds.string fun mark => ?_
    cases mark <;> exact Landmark.tallyAll_string (by decide)
  have hend : Holds "\n</ol>\n</div>".toList [] := by
    refine Holds.string fun mark => ?_
    cases mark <;> exact Landmark.tallyAll_string (by decide)
  have hitems := Holds.gathers.flatMap fun s (_ : s ∈ stages) => holds_htmlStage s
  rw [← List.map_eq_flatMap, List.map_const'] at hitems
  unfold htmlStages
  rw [String.toList_append, String.toList_append, String.toList_join, List.flatMap_map]
  exact (hstart.append_left hitems).append_right hend

theorem holds_stages :
    Holds (htmlSlot c product support .stages).toList (slotLandmarks c .stages) := by
  unfold htmlSlot slotLandmarks
  cases c.stages with
  | none => exact Holds.nil
  | some stages => exact holds_htmlStages stages

theorem holds_htmlList (items : List String) : Holds (htmlList items).toList [] := by
  have hstart : Holds "<ul>".toList [] := by
    refine Holds.string fun mark => ?_
    cases mark <;> exact Landmark.tallyAll_string (by decide)
  have hend : Holds "\n</ul>".toList [] := by
    refine Holds.string fun mark => ?_
    cases mark <;> exact Landmark.tallyAll_string (by decide)
  -- an item ends with a tag that does not go on as a stage does
  have hitem (i : String) : Holds ("\n<li>" ++ htmlText i ++ "</li>").toList [] := by
    simp only [String.toList_append, Text.toList_htmlText, List.append_assoc]
    refine Holds.woven (Woven.string_append (Woven.escaped_append _ Woven.string)) ?_
    intro mark
    cases mark <;> exact Landmark.tallyAll_string (by decide)
  have hitems := Holds.gathers.flatMap_nil fun i (_ : i ∈ items) => hitem i
  simp only [htmlList, String.toList_append, String.toList_join, List.flatMap_map] at hitems ⊢
  exact (hstart.append_left hitems).append_right hend

theorem holds_htmlError (message : String) : Holds (htmlError message).toList [.errorBlock] := by
  unfold htmlError
  simp only [String.toList_append, Text.toList_htmlText, List.append_assoc]
  refine Holds.woven (Woven.string_append (Woven.escaped_append _ Woven.string)) ?_
  intro mark
  cases mark <;> exact Landmark.tallyAll_string (by decide)

theorem holds_branchContent :
    Holds (htmlSlot c product support .branchContent).toList (slotLandmarks c .branchContent) := by
  have hresults : Holds "<p>Your results include:</p>\n".toList [] := by
    refine Holds.string fun mark => ?_
    cases mark <;> exact Landmark.tallyAll_string (by decide)
  have htips : Holds "<p>Troubleshooting tips:</p>\n".toList [] := by
    refine Holds.string fun mark => ?_
    cases mark <;> exact Landmark.tallyAll_string (by decide)
  unfold htmlSlot slotLandmarks Context.errorMessage
  cases c.outcome with
  | success =>
    simp only [String.toList_append]
    exact hresults.append_left (holds_htmlList _)
  | failure message =>
    simp only [String.toList_append]
    refine (Holds.append_right ?_ htips).append_right (holds_htmlList _)
    cases message with
    | none => exact Holds.nil
    | some m => exact holds_htmlError m

theorem holds_action : Holds (htmlSlot c product support .action).toList [.action] := by
  unfold htmlSlot
  simp only [String.toList_append, Text.toList_htmlText, List.append_assoc]
  cases c.branch <;>
    refine Holds.woven (Woven.string_append (Woven.escaped_append _ (Woven.string_append
      (Woven.string_append Woven.string)))) ?_ <;>
    intro mark <;> cases mark <;> exact Landmark.tallyAll_string (by decide)

theorem not_isMarkup_intText (i : Int) : ∀ d ∈ (Decimal.intText i).toList, isMarkup d = false :=
  fun d hd => by simpa using List.filter_eq_nil_iff.mp (markup_intText i) d hd

theorem holds_footer : Holds (htmlSlot c product support .footer).toList [] := by
  unfold htmlSlot htmlFooter htmlLink
  simp only [String.toList_append, Text.toList_htmlText, List.append_assoc]
  apply Holds.woven
  · -- the two links
    iterate 2 apply Woven.string_append
    apply Woven.escaped_append
    iterate 5 apply Woven.string_append
    apply Woven.escaped_append
    apply Woven.string_append
    apply Woven.escaped_append
    -- the support address and the year
    iterate 3 apply Woven.string_append
    apply Woven.escaped_append
    apply Woven.string_append
    apply Woven.escaped_append
    iterate 2 apply Woven.string_append
    apply Woven.value_append (not_isMarkup_intText _)
    apply Woven.string_append
    exact Woven.escaped_append _ Woven.string
  · intro mark
    cases mark <;> exact Landmark.tallyAll_string (by decide)

/-- **A slot holds the landmarks that it has to have.** -/
theorem holds_htmlSlot (c : Context) (product support : String) (slot : Slot) :
    Holds (htmlSlot c product support slot).toList (slotLandmarks c slot) := by
  cases slot with
  | title => exact holds_title
  | logo => exact holds_logo
  | statusBanner => exact holds_statusBanner
  | greeting => exact holds_greeting
  | jobDetails => exact holds_jobDetails
  | stages => exact holds_stages
  | branchContent => exact holds_branchContent
  | action => exact holds_action
  | footer => exact holds_footer

/-! ### The layout -/

/-- A string without tags and attributes. -/
theorem Holds.quiet_string {l : List Char} (h : (l.all fun c => c != '<' && c != '"') = true) :
    Holds (String.ofList l).toList [] := by
  rw [String.toList_ofList]
  exact Holds.of_quiet h

/-- The landmarks of a document, in the order of its slots. -/
def landmarks (c : Context) : List Landmark :=
  [.title, .logo, .title, .statusBanner, .greeting, .jobDetails, .stages, .branchContent, .action,
    .footer].flatMap (slotLandmarks c)

/-- **The document holds the landmarks of its slots.** -/
theorem holds_html (c : Context) (product support : String) :
    Holds (printedOf (htmlSlot c product support) builtInHtml) (landmarks c) := by
  have hslots : landmarks c = (slotsOf builtInHtml).flatMap (slotLandmarks c) := by
    rw [Layout.slotsOf_builtInHtml, landmarks]
  rw [hslots]
  refine Holds.gathers.printedOf (holds_htmlSlot c product support) ?_
  repeat' refine List.forall_mem_cons.mpr ⟨?_, ?_⟩
  -- a line feed takes no part in a landmark, so each line counts for itself
  all_goals first
    | exact List.forall_mem_nil _
    | refine Holds.gathers.nil_of_lines (Holds.of_quiet (by decide)) ?_
  repeat' refine List.forall_mem_cons.mpr ⟨?_, ?_⟩
  all_goals first
    | exact Holds.quiet_string (by decide)
    | exact Holds.string fun mark => by
        cases mark <;> exact Landmark.tallyAll_string (by decide)
    | exact List.forall_mem_nil _

/-! ### Sections -/

theorem Landmark.count_optional (mark a : Landmark) (p : Prop) [Decidable p] :
    List.count mark (if p then [a] else []) = if p ∧ a = mark then 1 else 0 := by
  by_cases hp : p <;> by_cases ha : a = mark <;> simp [hp, ha]

theorem slotLandmarks_statusBanner (c : Context) : slotLandmarks c .statusBanner
    = [.banner, if c.isSuccess then .successBanner else .failureBanner] := by
  unfold slotLandmarks Context.branch Context.isSuccess
  cases c.outcome <;> rfl

theorem action_eq (c : Context) :
    c.branch.action = if c.isSuccess then "View Results" else "View Details" := by
  unfold Context.branch Context.isSuccess
  cases c.outcome <;> rfl

theorem isSome_errorMessage_iff (c : Context) :
    c.errorMessage.isSome ↔ c.isSuccess = false ∧ c.errorMessage.isSome := by
  unfold Context.errorMessage Context.isSuccess
  cases c.outcome <;> simp

/-- How often each section has to stand in the document. -/
def sections (c : Context) : Landmark → Nat
  | .banner => 1
  | .successBanner => if c.isSuccess then 1 else 0
  | .failureBanner => if c.isSuccess then 0 else 1
  | .submitted => if c.submissionTime.isSome then 1 else 0
  | .completed => if c.completionTime.isSome then 1 else 0
  | .executionTime => if c.executionTime.isSome then 1 else 0
  | .logo => if c.logoUrl.isSome then 1 else 0
  | .errorBlock => if c.isSuccess = false ∧ c.errorMessage.isSome then 1 else 0
  | .stage => (c.stages.getD []).length
  | .action => 1

theorem count_landmarks (c : Context) (mark : Landmark) :
    (landmarks c).count mark = sections c mark := by
  simp only [landmarks, List.flatMap_cons, List.flatMap_nil, List.count_append,
    slotLandmarks_statusBanner]
  cases mark <;>
    simp [slotLandmarks, sections, Landmark.count_optional, List.count_replicate,
      ← isSome_errorMessage_iff] <;>
    cases c.isSuccess <;> rfl

/-- How often a landmark stands in the document. -/
theorem occurrences_html (c : Context) (product support : String) (mark : Landmark) :
    occurrences mark.text.toList (builtInDocument product support c).html.toList
      = sections c mark := by
  rw [builtInDocument, String.toList_ofList, ← count_landmarks]
  exact (holds_html c product support mark).occurrences_eq mark.text_ne_nil

/-- The document holds what a slot holds. -/
theorem infix_html {slot : Slot} (c : Context) (product support : String)
    (hslot : .slot slot ∈ builtInHtml) :
    (htmlSlot c product support slot).toList <:+:
      (builtInDocument product support c).html.toList := by
  rw [builtInDocument, String.toList_ofList, printedOf]
  obtain ⟨before, after, hpieces⟩ := List.append_of_mem hslot
  rw [hpieces, List.flatMap_append, List.flatMap_cons]
  simp only [Piece.slot, Piece.printed, Slot.ofName?_name]
  exact ⟨_, _, List.append_assoc ..⟩

/-- The link to the submission, with its label. -/
def actionLink (c : Context) : String :=
  "<a href=\"" ++ htmlText c.links.submissionUrl ++ "\" class=\"button\">" ++
    (if c.isSuccess then "View Results" else "View Details") ++ "</a>"

theorem htmlSlot_action (c : Context) (product support : String) :
    htmlSlot c product support .action
      = "<div class=\"button-container\">" ++ actionLink c ++ "</div>" := by
  have hopen : "<div class=\"button-container\"><a href=\""
      = "<div class=\"button-container\">" ++ "<a href=\"" := by simp
  have hclose : "</a></div>" = "</a>" ++ "</div>" := by simp
  unfold htmlSlot actionLink
  rw [action_eq, hopen, hclose]
  -- the literals stay apart
  simp only [String.append_assoc, -String.reduceAppend]

/-- **The link to the submission stands in the document once.** -/
theorem occurrences_actionLink (c : Context) (product support : String) :
    occurrences (actionLink c).toList (builtInDocument product support c).html.toList = 1 := by
  have hend : Landmark.action.text.toList <:+: (actionLink c).toList := by
    rw [actionLink, String.toList_append, String.toList_append, String.toList_append,
      List.append_assoc (_ ++ _)]
    exact List.infix_append ..
  have hslot : (actionLink c).toList <:+: (htmlSlot c product support .action).toList := by
    rw [htmlSlot_action, String.toList_append, String.toList_append]
    exact List.infix_append ..
  have hle := occurrences_le_of_infix hend (builtInDocument product support c).html.toList
  rw [occurrences_html, sections] at hle
  have hpos := occurrences_pos_of_infix (hslot.trans (infix_html c product support ?_))
  · omega
  · simp [builtInHtml]

/-- **The document has the sections that it should have, and no value brings another one.** -/
theorem sections_html (product support : String) (c : Context) :
    ∃ d, renderBuiltIn product support c = .ok d ∧
      let count (s : String) : Nat := occurrences s.toList d.html.toList
      count "<div class=\"status-banner " = 1 ∧
      count "<div class=\"status-banner status-success\">SUCCESS</div>"
        = (if c.isSuccess then 1 else 0) ∧
      count "<div class=\"status-banner status-failure\">FAILED</div>"
        = (if c.isSuccess then 0 else 1) ∧
      count "<th>Submitted:</th>" = (if c.submissionTime.isSome then 1 else 0) ∧
      count "<th>Completed:</th>" = (if c.completionTime.isSome then 1 else 0) ∧
      count "<th>Execution Time:</th>" = (if c.executionTime.isSome then 1 else 0) ∧
      count "<img " = (if c.logoUrl.isSome then 1 else 0) ∧
      count "<div class=\"error-block\">"
        = (if c.isSuccess = false ∧ c.errorMessage.isSome then 1 else 0) ∧
      count "<li><code>" = (c.stages.getD []).length ∧
      count "\" class=\"button\">" = 1 ∧
      count ("<a href=\"" ++ htmlText c.links.submissionUrl ++ "\" class=\"button\">" ++
        (if c.isSuccess then "View Results" else "View Details") ++ "</a>") = 1 := by
  refine ⟨_, renderBuiltIn_eq product support c, ?_⟩
  have hcount := occurrences_html c product support
  exact ⟨hcount .banner, hcount .successBanner, hcount .failureBanner, hcount .submitted,
    hcount .completed, hcount .executionTime, hcount .logo, hcount .errorBlock, hcount .stage,
    hcount .action, occurrences_actionLink c product support⟩

end JobNotice.Notice
