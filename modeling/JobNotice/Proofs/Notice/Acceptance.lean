import JobNotice.Proofs.Notice.Requirements
import Mathlib.Data.List.Forall2

/-!
# What a context takes over from its map

A map of attributes that is accepted has one context, and the context says what the map says: each
required string as it stands, each link without the blanks around it, the stages one for one and in
their order. What may be absent is absent exactly when the map has nothing there, null, a blank
string or an empty array. Nothing else is dropped on the way, so an accepted map is never read in
part.

## Main definitions

* `Notice.Says`, `Notice.Leads` — the string and the link that a value gives
* `Notice.Describes` — a map and the context that says the same

## Main results

* `Notice.ofAttributes_eq_ok` — the maps that are accepted, with their contexts
-/

namespace JobNotice.Notice

open Json (Value Number Members)
open Job (Stage Links)

/-! ### Values and what they give -/

/-- A string that is not blank. -/
def Says (v : Option Value) (s : String) : Prop :=
  v = some (.string s) ∧ Text.isBlankString s = false

/-- A string that may be absent, a blank one being as good as none. -/
def SaysOptional (v : Option Value) : Option String → Prop
  | none => Absent v ∨ ∃ s, v = some (.string s) ∧ Text.isBlankString s = true
  | some s => Says v s

/-- A link to a web page, without the blanks around it. -/
def Leads (v : Option Value) (url : String) : Prop :=
  ∃ s, Says v s ∧ Text.trim s = url ∧ Url.checkLink url = .ok ()

def LeadsOptional (v : Option Value) : Option String → Prop
  | none => SaysOptional v none
  | some url => Leads v url

def IsStage (v : Value) (stage : Stage) : Prop :=
  ∃ members : Members, v = .object members ∧ Says (members.get? "main_file") stage.mainFile ∧
    Says (members.get? "image_name") stage.imageName ∧
    Says (members.get? "image_tag") stage.imageTag

/-- Stages one for one, in the order of the array; an empty array has none. -/
def IsStages (v : Option Value) : Option (List Stage) → Prop
  | none => Absent v ∨ v = some (.array [])
  | some stages => ∃ items, v = some (.array items) ∧ items ≠ [] ∧ List.Forall₂ IsStage items stages

def IsLinks (v : Option Value) (links : Links) : Prop :=
  ∃ members : Members, v = some (.object members) ∧
    Leads (members.get? "submission_url") links.submissionUrl ∧
    Leads (members.get? "docs_url") links.docsUrl ∧ Leads (members.get? "base_url") links.baseUrl

def HasLogo (v : Option Value) (logo : Option String) : Prop :=
  (Absent v ∧ logo = none) ∨
    ∃ members : Members, v = some (.object members) ∧ LeadsOptional (members.get? "logo_url") logo

/-- A context says what a map of attributes says. Whether the job succeeded decides whether its
error message, which must be right in any case, is kept. -/
structure Describes (m : Members) (c : Context) : Prop where
  recipientName : Says (m.get? "recipient_name") c.recipientName
  jobId : Says (m.get? "job_id") c.jobId
  outcome : ∃ isSuccess message, m.get? "is_success" = some (.bool isSuccess) ∧
    SaysOptional (m.get? "error_message") message ∧
    c.outcome = if isSuccess then .success else .failure message
  statusText : Says (m.get? "status_text") c.statusText
  submissionTime : SaysOptional (m.get? "submission_time") c.submissionTime
  completionTime : SaysOptional (m.get? "completion_time") c.completionTime
  executionTime : SaysOptional (m.get? "execution_time") c.executionTime
  stages : IsStages (m.get? "stages") c.stages
  links : IsLinks (m.get? "links") c.links
  logo : HasLogo (m.get? "branding") c.logoUrl
  currentYear : m.get? "current_year" = some (.number (.whole c.currentYear)) ∧
    IsYear (.whole c.currentYear)

/-! ### What the checks of single fields accept -/

section

variable {path : String} {members : Members} {key : String}

theorem finish_requiredString {s : String} :
    (requiredString path (field? members key)).finish = .ok s ↔ Says (members.get? key) s := by
  have hfield : Says (members.get? key) s ↔ Says (field? members key) s := by
    simp [Says, field?_eq_some]
  rw [hfield]
  cases field? members key with
  | none => simp [requiredString, Says]
  | some v =>
    cases v with
    | string t =>
      by_cases hblank : Text.isBlankString t = true <;> simp [requiredString, Says, hblank] <;>
        grind
    | _ => simp [requiredString, Says]

theorem finish_optionalString {s : Option String} :
    (optionalString path (field? members key)).finish = .ok s ↔
      SaysOptional (members.get? key) s := by
  have hfield : SaysOptional (members.get? key) s ↔ SaysOptional (field? members key) s := by
    cases s <;> simp [SaysOptional, Says, absent_field?, field?_eq_some]
  rw [hfield]
  cases h : field? members key with
  | none => cases s <;> simp [optionalString, SaysOptional, Says, Absent]
  | some v =>
    cases v with
    | null => exact absurd rfl (field?_eq_some.mp h).2
    | string t =>
      cases s <;>
        simp [optionalString, Checked.finish_eq_ok, Checked.pure, SaysOptional, Says, Absent]
      grind
    | _ => cases s <;> simp [optionalString, Checked.finish_eq_ok, SaysOptional, Says, Absent]

theorem finish_requiredBool {b : Bool} :
    (requiredBool path (field? members key)).finish = .ok b ↔
      members.get? key = some (.bool b) := by
  have hfield : members.get? key = some (.bool b) ↔ field? members key = some (.bool b) := by
    simp [field?_eq_some]
  rw [hfield]
  cases field? members key with
  | none => simp [requiredBool]
  | some v => cases v <;> simp [requiredBool]

theorem finish_requiredYear {y : Int} :
    (requiredYear path (field? members key)).finish = .ok y ↔
      members.get? key = some (.number (.whole y)) ∧ IsYear (.whole y) := by
  have hfield : members.get? key = some (.number (.whole y)) ↔
      field? members key = some (.number (.whole y)) := by
    simp [field?_eq_some]
  rw [hfield, ← isYear_iff]
  cases field? members key with
  | none => simp [requiredYear]
  | some v =>
    cases v with
    | number n =>
      cases n with
      | whole z =>
        by_cases hyear : isYear z = true
        · simp [requiredYear, hyear]
          grind
        · simp [requiredYear, hyear]
          grind
      | real x => simp [requiredYear]
    | _ => simp [requiredYear]

theorem finish_checkedLink {s url : String} :
    (checkedLink path s).finish = .ok url ↔ Text.trim s = url ∧ Url.checkLink url = .ok () := by
  rw [checkedLink]
  cases h : Url.checkLink (Text.trim s) with
  | ok => simp; grind
  | error e => simp; grind

theorem finish_requiredLink {url : String} :
    (requiredLink path (field? members key)).finish = .ok url ↔ Leads (members.get? key) url := by
  simp only [requiredLink, Checked.finish_bind, finish_requiredString, finish_checkedLink, Leads]

/-- A logo that is no link is not accepted as absent. -/
theorem finish_optionalLink {url : Option String} :
    (optionalLink path (field? members key)).finish = .ok url ↔
      LeadsOptional (members.get? key) url := by
  rw [optionalLink, Checked.finish_bind]
  simp only [finish_optionalString]
  cases url with
  | none =>
    constructor
    · rintro ⟨s, hs, hfinish⟩
      cases s with
      | none => exact hs
      | some s =>
        unfold checkedLink at hfinish
        cases hlink : Url.checkLink (Text.trim s) <;>
          simp [hlink, Checked.pure, Checked.fail, Checked.finish_eq_ok] at hfinish
    · intro h
      exact ⟨none, h, by simp⟩
  | some url =>
    constructor
    · rintro ⟨s, hs, hfinish⟩
      cases s with
      | none => simp at hfinish
      | some s =>
        refine ⟨s, hs, ?_⟩
        unfold checkedLink at hfinish
        cases hlink : Url.checkLink (Text.trim s) <;>
          simp [hlink, Checked.pure, Checked.fail, Checked.finish_eq_ok] at hfinish
        subst hfinish
        exact ⟨rfl, hlink⟩
    · rintro ⟨s, hs, rfl, hlink⟩
      exact ⟨some s, hs, by simp [checkedLink, hlink, Checked.pure, Checked.finish_eq_ok]⟩

end

/-! ### What the checks of groups accept -/

theorem finish_checkStage {path : String} {v : Value} {stage : Stage} :
    (checkStage path v).finish = .ok stage ↔ IsStage v stage := by
  cases v with
  | object members =>
    simp only [checkStage, Checked.finish_ap, Checked.finish_pure, finish_requiredString]
    constructor
    · rintro ⟨_, tag, ⟨_, name, ⟨_, file, rfl, hfile, rfl⟩, hname, rfl⟩, htag, rfl⟩
      exact ⟨members, rfl, hfile, hname, htag⟩
    · rintro ⟨members', hmembers, hfile, hname, htag⟩
      obtain rfl := Value.object.inj hmembers
      exact ⟨_, _, ⟨_, _, ⟨_, _, rfl, hfile, rfl⟩, hname, rfl⟩, htag, rfl⟩
  | _ => simp [checkStage, IsStage]

/-- Stages are accepted when every one of them is, and none is left out. -/
theorem finish_checkStagesFrom {index : Nat} {items : List Value} {stages : List Stage} :
    (checkStagesFrom index items).finish = .ok stages ↔ List.Forall₂ IsStage items stages := by
  induction items generalizing index stages with
  | nil => cases stages <;> simp [checkStagesFrom]
  | cons v rest ih =>
    simp only [checkStagesFrom, Checked.finish_ap, Checked.finish_map, finish_checkStage, ih]
    constructor
    · rintro ⟨_, tail, ⟨stage, hstage, rfl⟩, htail, rfl⟩
      exact .cons hstage htail
    · rintro (_ | ⟨hstage, htail⟩)
      exact ⟨_, _, ⟨_, hstage, rfl⟩, htail, rfl⟩

theorem finish_checkStages {members : Members} {key : String} {stages : Option (List Stage)} :
    (checkStages (field? members key)).finish = .ok stages ↔
      IsStages (members.get? key) stages := by
  have hfield : IsStages (members.get? key) stages ↔ IsStages (field? members key) stages := by
    cases stages <;> simp [IsStages, absent_field?, field?_eq_some]
  rw [hfield]
  cases h : field? members key with
  | none => cases stages <;> simp [checkStages, IsStages, Absent]
  | some v =>
    cases v with
    | null => exact absurd rfl (field?_eq_some.mp h).2
    | array items =>
      cases items with
      | nil => cases stages <;> simp [checkStages, IsStages]
      | cons item rest =>
        simp only [checkStages, Checked.finish_map, finish_checkStagesFrom]
        cases stages <;> simp [IsStages, Absent]
    | _ => cases stages <;> simp [checkStages, Checked.finish_eq_ok, IsStages, Absent]

theorem finish_checkLinks {members : Members} {key : String} {links : Links} :
    (checkLinks (field? members key)).finish = .ok links ↔ IsLinks (members.get? key) links := by
  have hfield : IsLinks (members.get? key) links ↔ IsLinks (field? members key) links := by
    simp [IsLinks, field?_eq_some]
  rw [hfield]
  cases field? members key with
  | none => simp [checkLinks, IsLinks]
  | some v =>
    cases v with
    | object inner =>
      simp only [checkLinks, Checked.finish_ap, Checked.finish_pure, finish_requiredLink]
      constructor
      · rintro ⟨_, base, ⟨_, docs, ⟨_, submission, rfl, hsubmission, rfl⟩, hdocs, rfl⟩, hbase, rfl⟩
        exact ⟨inner, rfl, hsubmission, hdocs, hbase⟩
      · rintro ⟨inner', hinner, hsubmission, hdocs, hbase⟩
        obtain rfl : inner = inner' := by simpa using hinner
        exact ⟨_, _, ⟨_, _, ⟨_, _, rfl, hsubmission, rfl⟩, hdocs, rfl⟩, hbase, rfl⟩
    | _ => simp [checkLinks, IsLinks]

theorem finish_checkBranding {members : Members} {key : String} {logo : Option String} :
    (checkBranding (field? members key)).finish = .ok logo ↔ HasLogo (members.get? key) logo := by
  have hfield : HasLogo (members.get? key) logo ↔ HasLogo (field? members key) logo := by
    simp [HasLogo, absent_field?, field?_eq_some]
  rw [hfield]
  cases h : field? members key with
  | none =>
    simp [checkBranding, HasLogo, Absent]
    exact eq_comm
  | some v =>
    cases v with
    | null => exact absurd rfl (field?_eq_some.mp h).2
    | object inner => simp [checkBranding, HasLogo, Absent, finish_optionalLink]
    | _ => simp [checkBranding, HasLogo, Absent, Checked.finish_eq_ok]

/-! ### What is accepted as a whole -/

/-- **A map is accepted with a context exactly when the context says what the map says.** -/
theorem ofAttributes_eq_ok {m : Members} {c : Context} :
    Context.ofAttributes m = .ok c ↔ Describes m c := by
  simp only [Context.ofAttributes, Context.check, Checked.finish_ap, Checked.finish_pure,
    finish_requiredString, finish_optionalString, finish_requiredBool, finish_checkStages,
    finish_checkLinks, finish_checkBranding, finish_requiredYear]
  constructor
  · rintro ⟨_, year, ⟨_, logo, ⟨_, links, ⟨_, stages, ⟨_, message, ⟨_, execution, ⟨_, completion,
      ⟨_, submission, ⟨_, status, ⟨_, success, ⟨_, id, ⟨_, name, rfl, hname, rfl⟩, hid, rfl⟩,
      hsuccess, rfl⟩, hstatus, rfl⟩, hsubmission, rfl⟩, hcompletion, rfl⟩, hexecution, rfl⟩,
      hmessage, rfl⟩, hstages, rfl⟩, hlinks, rfl⟩, hlogo, rfl⟩, hyear, rfl⟩
    exact ⟨hname, hid, ⟨_, _, hsuccess, hmessage, rfl⟩, hstatus, hsubmission, hcompletion,
      hexecution, hstages, hlinks, hlogo, hyear⟩
  · obtain ⟨name, id, outcome, status, submission, completion, execution, stages, links, logo,
      year⟩ := c
    rintro ⟨hname, hid, ⟨success, message, hsuccess, hmessage, rfl⟩, hstatus, hsubmission,
      hcompletion, hexecution, hstages, hlinks, hlogo, hyear⟩
    exact ⟨_, _, ⟨_, _, ⟨_, _, ⟨_, _, ⟨_, _, ⟨_, _, ⟨_, _, ⟨_, _, ⟨_, _, ⟨_, _, ⟨_, _, ⟨_, _, rfl,
      hname, rfl⟩, hid, rfl⟩, hsuccess, rfl⟩, hstatus, rfl⟩, hsubmission, rfl⟩, hcompletion, rfl⟩,
      hexecution, rfl⟩, hmessage, rfl⟩, hstages, rfl⟩, hlinks, rfl⟩, hlogo, rfl⟩, hyear, rfl⟩

/-- Stages that are present are not empty. -/
theorem stages_ne_nil {m : Members} {c : Context} (h : Context.ofAttributes m = .ok c) :
    c.stages ≠ some [] := by
  intro hnil
  have hstages := (ofAttributes_eq_ok.mp h).stages
  rw [hnil] at hstages
  obtain ⟨items, -, hne, hforall⟩ := hstages
  exact hne (List.forall₂_nil_right_iff.mp hforall)

end JobNotice.Notice
