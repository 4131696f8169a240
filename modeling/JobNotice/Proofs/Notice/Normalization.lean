import JobNotice.Proofs.Notice.Preparation

/-!
# What a context comes back as

Checking a map of attributes brings it into a normal form: links lose the blanks around them, blank
values and empty lists become absent, and a successful job loses its error message. A context that
has gone through this once does not change any more. Written back as a map of attributes and checked
again, it is the same context.

What makes this true is said by `Context.WellFormed`, which every context that comes out of a check
has: its required strings and the optional ones that are present are not blank, its stages are a
list that is not empty, its links are trimmed and lead to web pages, and its year is a year. And
only such contexts come out of a check.

## Main definitions

* `Notice.TidyLink` — a link to a web page without blanks around it
* `Notice.Context.WellFormed` — what holds of the contexts of maps

## Main results

* `Notice.wellFormed_of_describes` — the context of a map is well formed
* `Notice.describes_toAttributes` — a well-formed context says what its own map says
* `Notice.normalized_iff` — the contexts of maps are those of their own maps, and well formed
-/

namespace JobNotice.Notice

open Json (Value Number Members)
open Job (Stage Links)
open Text (isBlankString)

/-! ### Well-formed contexts -/

/-- A link to a web page without blanks around it. -/
structure TidyLink (url : String) : Prop where
  trim_eq : Text.trim url = url
  checkLink : Url.checkLink url = .ok ()

/-- A stage with three fields that are not blank. -/
structure FullStage (s : Stage) : Prop where
  mainFile : isBlankString s.mainFile = false
  imageName : isBlankString s.imageName = false
  imageTag : isBlankString s.imageTag = false

/-- What holds of the contexts of maps. -/
structure Context.WellFormed (c : Context) : Prop where
  recipientName : isBlankString c.recipientName = false
  jobId : isBlankString c.jobId = false
  statusText : isBlankString c.statusText = false
  submissionTime : ∀ s ∈ c.submissionTime, isBlankString s = false
  completionTime : ∀ s ∈ c.completionTime, isBlankString s = false
  executionTime : ∀ s ∈ c.executionTime, isBlankString s = false
  /-- There is an error message only on failure. -/
  errorMessage : ∀ s ∈ c.errorMessage, c.isSuccess = false ∧ isBlankString s = false
  stages : ∀ stages ∈ c.stages, stages ≠ [] ∧ ∀ s ∈ stages, FullStage s
  submissionUrl : TidyLink c.links.submissionUrl
  docsUrl : TidyLink c.links.docsUrl
  baseUrl : TidyLink c.links.baseUrl
  logoUrl : ∀ url ∈ c.logoUrl, TidyLink url
  currentYear : IsYear (.whole c.currentYear)

/-! ### The context of a map is well formed -/

theorem SaysOptional.not_blank {v : Option Value} {value : Option String}
    (h : SaysOptional v value) : ∀ s ∈ value, isBlankString s = false := by
  intro s hs
  rw [hs] at h
  exact h.2

theorem Leads.tidyLink {v : Option Value} {url : String} (h : Leads v url) : TidyLink url := by
  obtain ⟨s, -, rfl, hlink⟩ := h
  exact ⟨Text.trim_trim s, hlink⟩

theorem fullStage_of_isStage {v : Value} {s : Stage} (h : IsStage v s) : FullStage s := by
  obtain ⟨members, -, hfile, hname, htag⟩ := h
  exact ⟨hfile.2, hname.2, htag.2⟩

theorem fullStages_of_isStages {v : Option Value} {stages : List Stage}
    (h : IsStages v (some stages)) : stages ≠ [] ∧ ∀ s ∈ stages, FullStage s := by
  obtain ⟨items, -, hne, hstages⟩ := h
  constructor
  · rintro rfl
    exact hne (List.forall₂_nil_right_iff.mp hstages)
  · clear hne
    induction hstages with
    | nil => exact List.forall_mem_nil _
    | cons hstage _ ih => exact List.forall_mem_cons.mpr ⟨fullStage_of_isStage hstage, ih⟩

/-- **The context of a map is well formed.** -/
theorem wellFormed_of_describes {m : Members} {c : Context} (h : Describes m c) : c.WellFormed where
  recipientName := h.recipientName.2
  jobId := h.jobId.2
  statusText := h.statusText.2
  submissionTime := h.submissionTime.not_blank
  completionTime := h.completionTime.not_blank
  executionTime := h.executionTime.not_blank
  errorMessage := by
    obtain ⟨isSuccess, message, -, hmessage, houtcome⟩ := h.outcome
    rw [Context.errorMessage, Context.isSuccess, houtcome]
    cases isSuccess with
    | true => simp
    | false => exact fun s hs => ⟨rfl, hmessage.not_blank s hs⟩
  stages := by
    intro stages hstages
    have hdescribed := h.stages
    rw [hstages] at hdescribed
    exact fullStages_of_isStages hdescribed
  submissionUrl := by
    obtain ⟨members, -, hsubmission, -, -⟩ := h.links
    exact hsubmission.tidyLink
  docsUrl := by
    obtain ⟨members, -, -, hdocs, -⟩ := h.links
    exact hdocs.tidyLink
  baseUrl := by
    obtain ⟨members, -, -, -, hbase⟩ := h.links
    exact hbase.tidyLink
  logoUrl := by
    intro url hurl
    rcases h.logo with ⟨-, hnone⟩ | ⟨members, -, hlogo⟩
    · simp [hnone] at hurl
    · rw [hurl] at hlogo
      exact hlogo.tidyLink
  currentYear := h.currentYear.2

/-! ### The map of a context -/

/-- A member that is left out when it has no value. -/
def entry (key : String) (v : Option Value) : Members := v.toList.map (key, ·)

theorem get?_entry (key key' : String) (v : Option Value) :
    (entry key v).get? key' = if key = key' then v else none := by
  cases v <;> simp [entry, Members.get?]

/-- The map of a context, member by member. -/
theorem toAttributes_eq (c : Context) : c.toAttributes =
    entry "recipient_name" (some (.string c.recipientName)) ++
    entry "job_id" (some (.string c.jobId)) ++
    entry "is_success" (some (.bool c.isSuccess)) ++
    entry "status_text" (some (.string c.statusText)) ++
    entry "submission_time" (c.submissionTime.map .string) ++
    entry "completion_time" (c.completionTime.map .string) ++
    entry "execution_time" (c.executionTime.map .string) ++
    entry "error_message" (c.errorMessage.map .string) ++
    entry "stages" (c.stages.map fun stages => .array (stages.map Stage.toJson)) ++
    entry "links" (some c.links.toJson) ++
    entry "branding" (c.logoUrl.map fun url => .object [("logo_url", .string url)]) ++
    entry "current_year" (some (.number (.whole c.currentYear))) := by
  rw [Context.toAttributes]
  cases c.submissionTime <;> cases c.completionTime <;> cases c.executionTime <;>
    cases c.errorMessage <;> cases c.stages <;> cases c.logoUrl <;> rfl

/-- What stands in the map of a context. -/
theorem get?_toAttributes (c : Context) :
    c.toAttributes.get? "recipient_name" = some (.string c.recipientName) ∧
    c.toAttributes.get? "job_id" = some (.string c.jobId) ∧
    c.toAttributes.get? "is_success" = some (.bool c.isSuccess) ∧
    c.toAttributes.get? "status_text" = some (.string c.statusText) ∧
    c.toAttributes.get? "submission_time" = c.submissionTime.map .string ∧
    c.toAttributes.get? "completion_time" = c.completionTime.map .string ∧
    c.toAttributes.get? "execution_time" = c.executionTime.map .string ∧
    c.toAttributes.get? "error_message" = c.errorMessage.map .string ∧
    c.toAttributes.get? "stages"
      = (c.stages.map fun stages => .array (stages.map Stage.toJson)) ∧
    c.toAttributes.get? "links" = some c.links.toJson ∧
    c.toAttributes.get? "branding"
      = (c.logoUrl.map fun url => .object [("logo_url", .string url)]) ∧
    c.toAttributes.get? "current_year" = some (.number (.whole c.currentYear)) := by
  simp [toAttributes_eq, Members.get?_append, get?_entry]

/-! ### A well-formed context says what its own map says -/

theorem says_string {s : String} (h : isBlankString s = false) : Says (some (.string s)) s :=
  ⟨rfl, h⟩

theorem saysOptional_map {value : Option String} (h : ∀ s ∈ value, isBlankString s = false) :
    SaysOptional (value.map .string) value := by
  cases value with
  | none => exact Or.inl (Or.inl rfl)
  | some s => exact says_string (h s rfl)

theorem TidyLink.leads {url : String} (h : TidyLink url) : Leads (some (.string url)) url := by
  have hlink : IsWebLink url := by
    rw [IsWebLink, h.trim_eq]
    exact h.checkLink
  exact ⟨url, says_string (not_isBlankString_of_isWebLink hlink), h.trim_eq, h.checkLink⟩

theorem isStage_toJson {s : Stage} (h : FullStage s) : IsStage s.toJson s :=
  ⟨_, rfl, says_string h.mainFile, says_string h.imageName, says_string h.imageTag⟩

/-- The outcome of a job is told by its two members. -/
theorem outcome_eq (c : Context) :
    c.outcome = if c.isSuccess then .success else .failure c.errorMessage := by
  rw [Context.isSuccess, Context.errorMessage]
  cases c.outcome <;> rfl

/-- **A well-formed context says what its own map says.** -/
theorem describes_toAttributes {c : Context} (h : c.WellFormed) : Describes c.toAttributes c := by
  obtain ⟨hname, hid, hsuccess, hstatus, hsubmission, hcompletion, hexecution, hmessage, hstages,
    hlinks, hlogo, hyear⟩ := get?_toAttributes c
  constructor
  case recipientName => exact hname ▸ says_string h.recipientName
  case jobId => exact hid ▸ says_string h.jobId
  case outcome =>
    refine ⟨c.isSuccess, c.errorMessage, hsuccess, ?_, outcome_eq c⟩
    exact hmessage ▸ saysOptional_map fun s hs => (h.errorMessage s hs).2
  case statusText => exact hstatus ▸ says_string h.statusText
  case submissionTime => exact hsubmission ▸ saysOptional_map h.submissionTime
  case completionTime => exact hcompletion ▸ saysOptional_map h.completionTime
  case executionTime => exact hexecution ▸ saysOptional_map h.executionTime
  case stages =>
    rw [hstages]
    cases hc : c.stages with
    | none => exact Or.inl (Or.inl rfl)
    | some stages =>
      obtain ⟨hne, hfull⟩ := h.stages stages hc
      refine ⟨_, rfl, by simpa using hne, ?_⟩
      rw [List.forall₂_map_left_iff, List.forall₂_same]
      exact fun s hs => isStage_toJson (hfull s hs)
  case links =>
    rw [hlinks]
    exact ⟨_, rfl, h.submissionUrl.leads, h.docsUrl.leads, h.baseUrl.leads⟩
  case logo =>
    rw [hlogo]
    cases hc : c.logoUrl with
    | none => exact Or.inl ⟨Or.inl rfl, rfl⟩
    | some url => exact Or.inr ⟨_, rfl, (h.logoUrl url hc).leads⟩
  case currentYear => exact ⟨hyear, h.currentYear⟩

/-! ### Normal forms -/

/-- **Checking is a projection.** A context comes out of some map exactly when it comes out of the
map in which it is written back, and these are the well-formed contexts. -/
theorem normalized_iff (c : Context) :
    ((∃ m, Context.ofAttributes m = .ok c) ↔ Context.ofAttributes c.toAttributes = .ok c) ∧
    ((∃ m, Context.ofAttributes m = .ok c) ↔ c.WellFormed) := by
  have hwellFormed {m : Members} (h : Context.ofAttributes m = .ok c) : c.WellFormed :=
    wellFormed_of_describes (ofAttributes_eq_ok.mp h)
  have hwritten (h : c.WellFormed) : Context.ofAttributes c.toAttributes = .ok c :=
    ofAttributes_eq_ok.mpr (describes_toAttributes h)
  constructor
  · constructor
    · rintro ⟨m, hm⟩
      exact hwritten (hwellFormed hm)
    · exact fun h => ⟨_, h⟩
  · constructor
    · rintro ⟨m, hm⟩
      exact hwellFormed hm
    · exact fun h => ⟨_, hwritten h⟩

end JobNotice.Notice
