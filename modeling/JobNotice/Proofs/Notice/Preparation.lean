import JobNotice.Notice.Service
import JobNotice.Proofs.Calendar.DayNumber
import JobNotice.Proofs.Notice.Rendering
import JobNotice.Proofs.Notice.Validation
import JobNotice.Proofs.Text.Trimming

/-!
# From a job record to its document

With the built-in layouts a record ends in one of three ways. A job that has not come to its end is
refused for that alone. A job that has come to its end has a document exactly when its record can be
sent: the owner has a name, the job an identifier, every stage its three fields, and the links and
the logo of the service are links to web pages. Otherwise there is a report, and it lists what is
empty and what is no link, in the order of the checks.

The attributes of a record have all keys that validation looks for, each with a value of the right
type, and whatever passes validation can be rendered. So nothing is ever reported as missing or as
being of a wrong type, and no layout ever fails. What is reported is computed here part by part
(`problems_check_attributesOf`).

## Main definitions

* `Notice.Sendable` — the records that have a document
* `Notice.refusals` — what is reported of the others

## Main results

* `Notice.problems_check_attributesOf` — the report on the attributes of a record
* `Notice.refusals_eq_nil_iff` — nothing is reported of a record that can be sent
* `Notice.prepare_outcome` — the three ends
-/

namespace JobNotice.Notice

open Json (Value Members)
open Job (Record Defaults Stage Links)
open Layout (Template builtIn builtInHtml builtInText)
open Text (isBlankString trim)

/-! ### Records that can be sent -/

/-- A link to a web page, blanks around it apart. -/
def IsWebLink (s : String) : Prop := Url.checkLink (trim s) = .ok ()

/-- A record that has a document, with what the service adds to it. -/
structure Sendable (r : Record) (d : Defaults) : Prop where
  name : ¬ (isBlankString r.owner.firstName = true ∧ isBlankString r.owner.lastName = true)
  id : isBlankString r.id = false
  stages : ∀ s ∈ r.stages, isBlankString s.mainFile = false ∧ isBlankString s.imageName = false ∧
    isBlankString s.imageTag = false
  submissionUrl : IsWebLink d.links.submissionUrl
  docsUrl : IsWebLink d.links.docsUrl
  baseUrl : IsWebLink d.links.baseUrl
  logo : ∀ s ∈ d.logoUrl, isBlankString s = true ∨ IsWebLink s

/-! ### What is reported of the others -/

/-- A string that must not be blank. -/
def blankRefusal (path s : String) : List FieldProblem :=
  if isBlankString s then [⟨path, .empty⟩] else []

/-- A string that must be a link if it is not blank. -/
def linkRefusal (path s : String) : List FieldProblem :=
  if isBlankString s then []
  else
    match Url.checkLink (trim s) with
    | .ok () => []
    | .error e => [⟨path, .malformed e.message⟩]

/-- A string that must be a link. -/
def requiredLinkRefusal (path s : String) : List FieldProblem :=
  blankRefusal path s ++ linkRefusal path s

/-- The fields of a stage. -/
def stageRefusals (path : String) (s : Stage) : List FieldProblem :=
  blankRefusal (path ++ ".main_file") s.mainFile ++
    blankRefusal (path ++ ".image_name") s.imageName ++
    blankRefusal (path ++ ".image_tag") s.imageTag

/-- What is empty or no link, in the order of the checks. A name is empty when both its parts
are. -/
def refusals (r : Record) (d : Defaults) : List FieldProblem :=
  (if isBlankString r.owner.firstName && isBlankString r.owner.lastName then
    [⟨"recipient_name", .empty⟩] else []) ++
  blankRefusal "job_id" r.id ++
  (r.stages.zipIdx.flatMap fun (s, i) => stageRefusals (stagePath i) s) ++
  requiredLinkRefusal "links.submission_url" d.links.submissionUrl ++
  requiredLinkRefusal "links.docs_url" d.links.docsUrl ++
  requiredLinkRefusal "links.base_url" d.links.baseUrl ++
  linkRefusal "branding.logo_url" (d.logoUrl.getD "")

theorem blankRefusal_eq_nil {path s : String} :
    blankRefusal path s = [] ↔ isBlankString s = false := by
  rw [blankRefusal]
  cases isBlankString s <;> simp

theorem linkRefusal_eq_nil {path s : String} :
    linkRefusal path s = [] ↔ isBlankString s = true ∨ IsWebLink s := by
  rw [linkRefusal, IsWebLink]
  cases isBlankString s <;> cases Url.checkLink (trim s) <;> simp

/-- The empty text is no link. -/
theorem not_isBlankString_of_isWebLink {s : String} (h : IsWebLink s) :
    isBlankString s = false := by
  cases hblank : isBlankString s with
  | false => rfl
  | true =>
    rw [IsWebLink, Text.trim_eq_empty hblank] at h
    exact absurd h (by decide)

theorem requiredLinkRefusal_eq_nil {path s : String} :
    requiredLinkRefusal path s = [] ↔ IsWebLink s := by
  rw [requiredLinkRefusal, List.append_eq_nil_iff, blankRefusal_eq_nil, linkRefusal_eq_nil]
  constructor
  · rintro ⟨hblank, h | h⟩
    · simp [hblank] at h
    · exact h
  · intro h
    exact ⟨not_isBlankString_of_isWebLink h, Or.inr h⟩

theorem stageRefusals_eq_nil {path : String} {s : Stage} : stageRefusals path s = [] ↔
    isBlankString s.mainFile = false ∧ isBlankString s.imageName = false ∧
      isBlankString s.imageTag = false := by
  simp [stageRefusals, blankRefusal_eq_nil]

/-- **Nothing is reported of a record that can be sent**, and only of such a record. -/
theorem refusals_eq_nil_iff {r : Record} {d : Defaults} : refusals r d = [] ↔ Sendable r d := by
  have hstages : (r.stages.zipIdx.flatMap fun (s, i) => stageRefusals (stagePath i) s) = [] ↔
      ∀ s ∈ r.stages, isBlankString s.mainFile = false ∧ isBlankString s.imageName = false ∧
        isBlankString s.imageTag = false := by
    rw [List.flatMap_eq_nil_iff]
    simp only [stageRefusals_eq_nil]
    constructor
    · intro h s hs
      obtain ⟨i, hi⟩ := List.mem_iff_getElem?.mp hs
      exact h (s, i) (List.mk_mem_zipIdx_iff_getElem?.mpr hi)
    · rintro h ⟨s, i⟩ hs
      exact h s (List.fst_mem_of_mem_zipIdx hs)
  have hlogo : (isBlankString (d.logoUrl.getD "") = true ∨ IsWebLink (d.logoUrl.getD "")) ↔
      ∀ s ∈ d.logoUrl, isBlankString s = true ∨ IsWebLink s := by
    cases d.logoUrl with
    | none => simp [isBlankString]
    | some s => simp
  have hname : (if isBlankString r.owner.firstName && isBlankString r.owner.lastName then
      [(⟨"recipient_name", .empty⟩ : FieldProblem)] else []) = [] ↔
      ¬ (isBlankString r.owner.firstName = true ∧ isBlankString r.owner.lastName = true) := by
    simp
  simp only [refusals, List.append_eq_nil_iff, hname, blankRefusal_eq_nil, hstages,
    requiredLinkRefusal_eq_nil, linkRefusal_eq_nil, hlogo]
  constructor
  · rintro ⟨⟨⟨⟨⟨⟨hname, hid⟩, hstages⟩, hsubmission⟩, hdocs⟩, hbase⟩, hlogo⟩
    exact ⟨hname, hid, hstages, hsubmission, hdocs, hbase, hlogo⟩
  · rintro ⟨hname, hid, hstages, hsubmission, hdocs, hbase, hlogo⟩
    exact ⟨⟨⟨⟨⟨⟨hname, hid⟩, hstages⟩, hsubmission⟩, hdocs⟩, hbase⟩, hlogo⟩

/-- Nothing is reported but what is empty and what is no link. -/
theorem problem_of_mem_refusals {r : Record} {d : Defaults} {p : FieldProblem}
    (h : p ∈ refusals r d) : p.problem = .empty ∨ ∃ reason, p.problem = .malformed reason := by
  have hblank {path s : String} (h : p ∈ blankRefusal path s) : p.problem = .empty := by
    rw [blankRefusal] at h
    split at h <;> simp at h
    rw [h]
  have hlink {path s : String} (h : p ∈ linkRefusal path s) :
      ∃ reason, p.problem = .malformed reason := by
    rw [linkRefusal] at h
    split at h
    · simp at h
    · split at h <;> simp at h
      exact ⟨_, by rw [h]⟩
  have hrequired {path s : String} (h : p ∈ requiredLinkRefusal path s) :
      p.problem = .empty ∨ ∃ reason, p.problem = .malformed reason :=
    (List.mem_append.mp h).imp hblank hlink
  simp only [refusals, List.mem_append] at h
  rcases h with (((((hname | hid) | hstages) | hsubmission) | hdocs) | hbase) | hlogo
  · split at hname <;> simp at hname
    exact Or.inl (by rw [hname])
  · exact Or.inl (hblank hid)
  · obtain ⟨⟨s, i⟩, -, hs⟩ := List.mem_flatMap.mp hstages
    simp only [stageRefusals, List.mem_append] at hs
    rcases hs with (hs | hs) | hs
    all_goals exact Or.inl (hblank hs)
  · exact hrequired hsubmission
  · exact hrequired hdocs
  · exact hrequired hbase
  · exact Or.inr (hlink hlogo)

/-! ### The attributes of a record -/

/-- The attributes of a job that has come to its end. -/
def attributesOf (r : Record) (d : Defaults) (now : Calendar.Instant) : Members :=
  let display (t : Calendar.Instant) : String := t.display d.offset d.label
  [("recipient_name", .string r.owner.fullName), ("job_id", .string r.id),
    ("is_success", .bool (r.status = .success)), ("status_text", .string r.status.label),
    ("submission_time", .ofString? (r.created.map display)),
    ("completion_time", .ofString? (r.updated.map display)),
    ("execution_time", .ofString? r.executionTime), ("error_message", .ofString? r.errorMessage),
    ("stages", .array (r.stages.map Stage.toJson)), ("links", d.links.toJson),
    ("branding", .object [("logo_url", .ofString? d.logoUrl)]),
    ("current_year", .number (.whole now.year))]

theorem attributes_of_isFinished {r : Record} (h : r.status.isFinished = true) (d : Defaults)
    (now : Calendar.Instant) : r.attributes d now = .ok (attributesOf r d now) :=
  if_pos h

theorem attributes_of_not_isFinished {r : Record} (h : r.status.isFinished = false) (d : Defaults)
    (now : Calendar.Instant) : r.attributes d now = .error ⟨r.id, r.status⟩ :=
  if_neg (by simp [h])

/-! ### What the checks report of them -/

theorem problems_requiredString (path s : String) :
    (requiredString path (some (.string s))).problems = blankRefusal path s := by
  cases hblank : isBlankString s <;>
    simp [requiredString, blankRefusal, hblank, Checked.fail, Checked.pure]

/-- An optional string that is a string is never a problem. -/
theorem problems_optionalString (path : String) {members : Members} {key : String}
    {s : Option String} (h : members.get? key = some (.ofString? s)) :
    (optionalString path (field? members key)).problems = [] := by
  rw [field?, h]
  cases s <;> rfl

theorem problems_checkedLink (path s : String) (hblank : isBlankString s = false) :
    (checkedLink path s).problems = linkRefusal path s := by
  rw [checkedLink, linkRefusal]
  rw [hblank]
  cases Url.checkLink (trim s) <;> rfl

theorem problems_requiredLink (path s : String) :
    (requiredLink path (some (.string s))).problems = requiredLinkRefusal path s := by
  rw [requiredLink, requiredLinkRefusal]
  cases hblank : isBlankString s with
  | true => simp [requiredString, blankRefusal, linkRefusal, hblank, Checked.fail, Checked.bind]
  | false => simp [requiredString, blankRefusal, hblank, problems_checkedLink]

theorem problems_checkBranding (logo : Option String) :
    (checkBranding (some (.object [("logo_url", .ofString? logo)]))).problems
      = linkRefusal "branding.logo_url" (logo.getD "") := by
  cases logo with
  | none => rfl
  | some s =>
    have hfield : field? [("logo_url", Value.ofString? (some s))] "logo_url" = some (.string s) := by
      simp [field?, Members.get?, Value.ofString?]
    simp only [checkBranding, hfield, optionalLink, optionalString, Checked.pure_bind,
      Option.getD_some]
    cases hblank : isBlankString s with
    | true => simp [linkRefusal, hblank, Checked.pure]
    | false =>
      rw [← problems_checkedLink _ _ hblank]
      cases hcheck : checkedLink "branding.logo_url" s with
      | mk value problems => cases value <;> simp [hcheck]

theorem problems_checkStage (path : String) (s : Stage) :
    (checkStage path s.toJson).problems = stageRefusals path s := by
  simp [Stage.toJson, checkStage, Checked.ap, Checked.pure, field?, Members.get?,
    problems_requiredString, stageRefusals]

theorem problems_checkStagesFrom (index : Nat) (stages : List Stage) :
    (checkStagesFrom index (stages.map Stage.toJson)).problems
      = (stages.zipIdx index).flatMap fun (s, i) => stageRefusals (stagePath i) s := by
  induction stages generalizing index with
  | nil => rfl
  | cons s rest ih =>
    rw [List.map_cons, checkStagesFrom, Checked.ap, ih]
    simp only [Checked.map, problems_checkStage, List.zipIdx_cons, List.flatMap_cons, stagePath]

theorem problems_checkStages (stages : List Stage) :
    (checkStages (some (.array (stages.map Stage.toJson)))).problems
      = stages.zipIdx.flatMap fun (s, i) => stageRefusals (stagePath i) s := by
  cases stages with
  | nil => rfl
  | cons s rest => exact problems_checkStagesFrom 0 (s :: rest)

theorem problems_checkLinks (links : Links) : (checkLinks (some links.toJson)).problems
    = requiredLinkRefusal "links.submission_url" links.submissionUrl ++
      requiredLinkRefusal "links.docs_url" links.docsUrl ++
      requiredLinkRefusal "links.base_url" links.baseUrl := by
  simp [Links.toJson, checkLinks, Checked.ap, Checked.pure, field?, Members.get?,
    problems_requiredLink]

/-- A name is blank exactly when both its parts are. -/
theorem isBlankString_fullName (o : Job.Owner) :
    isBlankString o.fullName = (isBlankString o.firstName && isBlankString o.lastName) := by
  have hspace : isBlankString " " = true := by decide
  rw [Job.Owner.fullName, Text.isBlankString_trim, Text.isBlankString_append,
    Text.isBlankString_append, Text.isBlankString_trim, Text.isBlankString_trim, hspace,
    Bool.and_true]

theorem blankRefusal_fullName (path : String) (o : Job.Owner) : blankRefusal path o.fullName
    = if isBlankString o.firstName && isBlankString o.lastName then [⟨path, .empty⟩] else [] := by
  rw [blankRefusal, isBlankString_fullName]

/-- What people are told about a state is never blank. -/
theorem blankRefusal_label (status : Job.Status) : blankRefusal "status_text" status.label = [] := by
  rw [blankRefusal_eq_nil]
  cases status <;> decide

/-- No year of an instant is out of range. -/
theorem problems_requiredYear (now : Calendar.Instant) :
    (requiredYear "current_year" (some (.number (.whole now.year)))).problems = [] := by
  have hyear : isYear now.year = true := by
    have hbounds := now.year_bounds
    simp only [isYear, Bool.and_eq_true, decide_eq_true_eq]
    omega
  simp [requiredYear, hyear, Checked.pure]

/-- **What is reported of the attributes of a record.** -/
theorem problems_check_attributesOf (r : Record) (d : Defaults) (now : Calendar.Instant) :
    (Context.check (attributesOf r d now)).problems = refusals r d := by
  have hname : field? (attributesOf r d now) "recipient_name" = some (.string r.owner.fullName) := by
    simp [attributesOf, field?, Members.get?]
  have hid : field? (attributesOf r d now) "job_id" = some (.string r.id) := by
    simp [attributesOf, field?, Members.get?]
  have hsuccess : field? (attributesOf r d now) "is_success"
      = some (.bool (r.status = .success)) := by
    simp [attributesOf, field?, Members.get?]
  have hstatus : field? (attributesOf r d now) "status_text" = some (.string r.status.label) := by
    simp [attributesOf, field?, Members.get?]
  have hstages : field? (attributesOf r d now) "stages"
      = some (.array (r.stages.map Stage.toJson)) := by
    simp [attributesOf, field?, Members.get?]
  have hlinks : field? (attributesOf r d now) "links" = some d.links.toJson := by
    simp [attributesOf, field?, Members.get?, Links.toJson]
  have hbranding : field? (attributesOf r d now) "branding"
      = some (.object [("logo_url", .ofString? d.logoUrl)]) := by
    simp [attributesOf, field?, Members.get?]
  have hyear : field? (attributesOf r d now) "current_year"
      = some (.number (.whole now.year)) := by
    simp [attributesOf, field?, Members.get?]
  have hoptional (key : String) (s : Option String)
      (h : (attributesOf r d now).get? key = some (.ofString? s)) :
      (optionalString key (field? (attributesOf r d now) key)).problems = [] :=
    problems_optionalString key h
  have hsubmission := hoptional "submission_time"
    (r.created.map fun t => t.display d.offset d.label) (by simp [attributesOf, Members.get?])
  have hcompletion := hoptional "completion_time"
    (r.updated.map fun t => t.display d.offset d.label) (by simp [attributesOf, Members.get?])
  have hexecution := hoptional "execution_time" r.executionTime
    (by simp [attributesOf, Members.get?])
  have hmessage := hoptional "error_message" r.errorMessage (by simp [attributesOf, Members.get?])
  simp only [Context.check, Checked.ap, Checked.pure, hname, hid, hsuccess, hstatus, hstages, hlinks,
    hbranding, hyear, hsubmission, hcompletion, hexecution, hmessage, problems_requiredString,
    problems_checkStages, problems_checkLinks, problems_checkBranding, problems_requiredYear,
    blankRefusal_label, blankRefusal_fullName, requiredBool, refusals, List.append_nil,
    List.nil_append, List.append_assoc]

/-! ### The three ends -/

/-- The context of a record that can be sent, which says how the job ended. -/
theorem exists_context {r : Record} {d : Defaults} (h : Sendable r d) (now : Calendar.Instant) :
    ∃ c, Context.ofAttributes (attributesOf r d now) = .ok c ∧
      (c.branch = .success ↔ r.status = .success) := by
  have hproblems : (Context.check (attributesOf r d now)).problems = [] := by
    rw [problems_check_attributesOf, refusals_eq_nil_iff]
    exact h
  have hvalue : (Context.check (attributesOf r d now)).value ≠ none := fun hnone =>
    (reports_check _).accounted hnone hproblems
  obtain ⟨c, hc⟩ := Option.ne_none_iff_exists'.mp hvalue
  have hok : Context.ofAttributes (attributesOf r d now) = .ok c :=
    Checked.finish_eq_ok.mpr ⟨hc, hproblems⟩
  refine ⟨c, hok, ?_⟩
  obtain ⟨success, message, hsuccess, -, houtcome⟩ := (ofAttributes_eq_ok.mp hok).outcome
  have hstatus : success = decide (r.status = .success) := by
    simpa [attributesOf, Members.get?, eq_comm] using hsuccess
  rw [Context.branch, houtcome, hstatus]
  cases r.status <;> simp

theorem ofAttributes_of_not_sendable {r : Record} {d : Defaults} (h : ¬ Sendable r d)
    (now : Calendar.Instant) :
    Context.ofAttributes (attributesOf r d now) = .error ⟨refusals r d⟩ := by
  have hproblems := problems_check_attributesOf r d now
  have hne : (Context.check (attributesOf r d now)).problems ≠ [] := by
    rw [hproblems]
    exact mt refusals_eq_nil_iff.mp h
  rw [← hproblems]
  exact Checked.finish_eq_error (Or.inr hne)

theorem renderAttributes_of_ok {s : Service} {m : Members} {c : Context} {document : Document}
    (hc : Context.ofAttributes m = .ok c) (hdocument : render s.template c = .ok document) :
    s.renderAttributes m = .ok document := by
  unfold Service.renderAttributes
  simp only [hc, hdocument]

theorem renderAttributes_of_error {s : Service} {m : Members} {report : Report}
    (h : Context.ofAttributes m = .error report) :
    s.renderAttributes m = .error (.invalid report) := by
  unfold Service.renderAttributes
  simp only [h]

theorem prepare_of_not_isFinished {s : Service} {now : Calendar.Instant} {r : Record}
    (h : r.status.isFinished = false) : s.prepare now r = .error (.notFinished ⟨r.id, r.status⟩) := by
  unfold Service.prepare
  simp only [attributes_of_not_isFinished h]

theorem prepare_of_isFinished {s : Service} {now : Calendar.Instant} {r : Record}
    (h : r.status.isFinished = true) :
    s.prepare now r = s.renderAttributes (attributesOf r s.defaults now) := by
  unfold Service.prepare
  simp only [attributes_of_isFinished h]

/-- **The three ends of a record.** A job that has not come to its end is refused. Otherwise there is
a document when the record can be sent, of the branch that its status says, and when it cannot there
is the report of all that is empty or no link. -/
theorem prepare_outcome (r : Record) (d : Defaults) (now : Calendar.Instant)
    (product support : String) :
    ∃ t, builtIn product support = .ok t ∧
      ((¬ (r.status = .success ∨ r.status = .error ∨ r.status = .cancelled) ∧
          (Service.mk t d).prepare now r = .error (.notFinished ⟨r.id, r.status⟩)) ∨
        ((r.status = .success ∨ r.status = .error ∨ r.status = .cancelled) ∧ Sendable r d ∧
          ∃ document, (Service.mk t d).prepare now r = .ok document ∧
            (document.branch = .success ↔ r.status = .success)) ∨
        ((r.status = .success ∨ r.status = .error ∨ r.status = .cancelled) ∧ ¬ Sendable r d ∧
          (Service.mk t d).prepare now r = .error (.invalid ⟨refusals r d⟩) ∧ refusals r d ≠ [] ∧
          ∀ p ∈ refusals r d, p.problem = .empty ∨ ∃ reason, p.problem = .malformed reason)) := by
  refine ⟨Template.ofPieces builtInHtml builtInText product support,
    Layout.builtIn_eq product support, ?_⟩
  have hfinished : r.status.isFinished = true ↔
      r.status = .success ∨ r.status = .error ∨ r.status = .cancelled := by
    cases r.status <;> simp [Job.Status.isFinished]
  rw [← hfinished]
  cases h : r.status.isFinished with
  | false => exact Or.inl ⟨by decide, prepare_of_not_isFinished h⟩
  | true =>
    right
    by_cases hsend : Sendable r d
    · obtain ⟨c, hc, hbranch⟩ := exists_context hsend now
      have hdocument := render_ofPieces product support c
      exact Or.inl ⟨rfl, hsend, _,
        (prepare_of_isFinished h).trans (renderAttributes_of_ok hc hdocument), hbranch⟩
    · have hreport := ofAttributes_of_not_sendable hsend now
      exact Or.inr ⟨rfl, hsend, (prepare_of_isFinished h).trans (renderAttributes_of_error hreport),
        mt refusals_eq_nil_iff.mp hsend, fun p hp => problem_of_mem_refusals hp⟩

end JobNotice.Notice
