import JobNotice.Notice.Service
import JobNotice.Proofs.Notice.Acceptance
import JobNotice.Proofs.Text.Trimming
import Mathlib.Data.List.Nodup
import Mathlib.Logic.Relation

/-!
# Maps of attributes that come to the same

Many maps say the same. A field that is null is as good as absent, and so is an optional string that
is blank, a list of stages without stages, a branding without a logo. Blanks around a link do not
count, members with unknown names say nothing, and a job that succeeded has no use for an error
message. Maps that differ in such things, in however many of them and in whatever order one gets
from one to the other, are checked with the same result: the same context or the same report.

A single rewrite touches one member of a map, or one member of an object in it, and leaves all
others as they are. So it is enough to look at the check of that member; only an error message that
goes away makes a difference before it is dropped.

## Main definitions

* `Notice.SameValue` — values of a field that come to the same
* `Notice.GroupRewrite` — objects of fields that differ in one member and come to the same
* `Notice.Rewrite` — maps of attributes that do

## Main results

* `Notice.check_rewrite` — a rewrite keeps the result of the check
* `Notice.ofAttributes_rewrites` — and so does any combination of rewrites
-/

namespace JobNotice.Notice

open Json (Value Members)
open Job (Stage)
open Text (isBlankString)

/-! ### Rewrites -/

/-- Maps that agree on all names but one. -/
def AgreeExcept (key : String) (m m' : Members) : Prop := ∀ k, k ≠ key → m.get? k = m'.get? k

/-- Values of a field that come to the same. -/
inductive SameValue (f : Field) : Option Value → Option Value → Prop
  | refl (v : Option Value) : SameValue f v v
  /-- Null is as good as nothing, even where nothing is wrong. -/
  | absent {v w : Option Value} (hv : Absent v) (hw : Absent w) : SameValue f v w
  /-- So is a blank string, if the field may be absent. -/
  | unsaid {v w : Option Value} (hcontent : f.content = .text ∨ f.content = .link)
      (hoptional : f.required = false) (hv : SaysOptional v none) (hw : SaysOptional w none) :
      SameValue f v w
  | padded {s before after : String} (hcontent : f.content = .link)
      (hbefore : isBlankString before = true) (hafter : isBlankString after = true) :
      SameValue f (some (.string s)) (some (.string (before ++ s ++ after)))

/-- Objects of fields that differ in one member and come to the same. -/
inductive GroupRewrite (fields : List Field) (m m' : Members) : Prop
  | field {f : Field} (hf : f ∈ fields) (hrest : AgreeExcept f.key m m')
      (h : SameValue f (m.get? f.key) (m'.get? f.key)) : GroupRewrite fields m m'
  | unknown {key : String} (hkey : ∀ f ∈ fields, f.key ≠ key) (hrest : AgreeExcept key m m') :
      GroupRewrite fields m m'

/-- The fields of a map that stand by themselves. -/
def singleFields : List Field := leadingFields ++ [yearField]

/-- The names that mean something in a map of attributes. -/
def knownKeys : List String := singleFields.map Field.key ++ ["stages", "links", "branding"]

/-- An error message of any wording, or none. -/
def IsMessage (v : Option Value) : Prop := Absent v ∨ ∃ s, v = some (.string s)

/-- Maps of attributes that differ in one member, or in one member of an object in them, and come to
the same. -/
inductive Rewrite (m m' : Members) : Prop
  | field {f : Field} (hf : f ∈ singleFields) (hrest : AgreeExcept f.key m m')
      (h : SameValue f (m.get? f.key) (m'.get? f.key)) : Rewrite m m'
  | unknown {key : String} (hkey : key ∉ knownKeys) (hrest : AgreeExcept key m m') : Rewrite m m'
  /-- Any other error message, or none, if the job succeeded. -/
  | message (hsuccess : m.get? "is_success" = some (.bool true))
      (hrest : AgreeExcept "error_message" m m') (h : IsMessage (m.get? "error_message"))
      (h' : IsMessage (m'.get? "error_message")) : Rewrite m m'
  | noStages (hrest : AgreeExcept "stages" m m') (h : IsStages (m.get? "stages") none)
      (h' : IsStages (m'.get? "stages") none) : Rewrite m m'
  | stage {before after : List Value} {s s' : Members} (hrest : AgreeExcept "stages" m m')
      (h : m.get? "stages" = some (.array (before ++ .object s :: after)))
      (h' : m'.get? "stages" = some (.array (before ++ .object s' :: after)))
      (hs : GroupRewrite stageFields s s') : Rewrite m m'
  | noLinks (hrest : AgreeExcept "links" m m') (h : Absent (m.get? "links"))
      (h' : Absent (m'.get? "links")) : Rewrite m m'
  | links {l l' : Members} (hrest : AgreeExcept "links" m m')
      (h : m.get? "links" = some (.object l)) (h' : m'.get? "links" = some (.object l'))
      (hl : GroupRewrite linkFields l l') : Rewrite m m'
  | noLogo (hrest : AgreeExcept "branding" m m') (h : HasLogo (m.get? "branding") none)
      (h' : HasLogo (m'.get? "branding") none) : Rewrite m m'
  | branding {b b' : Members} (hrest : AgreeExcept "branding" m m')
      (h : m.get? "branding" = some (.object b)) (h' : m'.get? "branding" = some (.object b'))
      (hb : GroupRewrite brandingFields b b') : Rewrite m m'

/-! ### The fields that a rewrite leaves -/

variable {m m' : Members} {key path : String}

theorem field?_congr (h : m.get? key = m'.get? key) : field? m key = field? m' key := by
  rw [field?, field?, h]

/-- A rewrite of one field leaves all others, since no two have the same name. -/
theorem sameValue_of_field {fields : List Field} (hnodup : (fields.map Field.key).Nodup) {f : Field}
    (hf : f ∈ fields) (hrest : AgreeExcept f.key m m')
    (h : SameValue f (m.get? f.key) (m'.get? f.key)) :
    ∀ g ∈ fields, SameValue g (m.get? g.key) (m'.get? g.key) := by
  intro g hg
  by_cases hkey : g.key = f.key
  · obtain rfl := List.inj_on_of_nodup_map hnodup hg hf hkey
    exact h
  · rw [hrest g.key hkey]
    exact .refl _

theorem sameValue_of_unknown {fields : List Field} (hkey : ∀ f ∈ fields, f.key ≠ key)
    (hrest : AgreeExcept key m m') : ∀ g ∈ fields, SameValue g (m.get? g.key) (m'.get? g.key) := by
  intro g hg
  rw [hrest g.key (hkey g hg)]
  exact .refl _

theorem GroupRewrite.sameValue {fields : List Field} (h : GroupRewrite fields m m')
    (hnodup : (fields.map Field.key).Nodup) :
    ∀ g ∈ fields, SameValue g (m.get? g.key) (m'.get? g.key) := by
  cases h with
  | field hf hrest h => exact sameValue_of_field hnodup hf hrest h
  | unknown hkey hrest => exact sameValue_of_unknown hkey hrest

/-! ### Checks of single fields -/

/-- Where a blank string and blanks around it matter, only null and nothing come to the same. -/
theorem SameValue.field?_eq {f : Field} (h : SameValue f (m.get? f.key) (m'.get? f.key))
    (hrequired : f.required = true) (hlink : f.content ≠ .link) :
    field? m f.key = field? m' f.key := by
  generalize hv : m.get? f.key = v at h
  generalize hw : m'.get? f.key = w at h
  cases h with
  | refl => exact field?_congr (hv.trans hw.symm)
  | absent hv' hw' => rw [field?_eq_none.mpr (hv ▸ hv'), field?_eq_none.mpr (hw ▸ hw')]
  | unsaid _ hoptional => simp [hrequired] at hoptional
  | padded hcontent => exact absurd hcontent hlink

theorem requiredString_eq (h : SameValue ⟨key, .text, true⟩ (m.get? key) (m'.get? key)) :
    requiredString path (field? m key) = requiredString path (field? m' key) :=
  congrArg _ (h.field?_eq rfl (by simp))

theorem requiredBool_eq (h : SameValue ⟨key, .flag, true⟩ (m.get? key) (m'.get? key)) :
    requiredBool path (field? m key) = requiredBool path (field? m' key) :=
  congrArg _ (h.field?_eq rfl (by simp))

theorem requiredYear_eq (h : SameValue ⟨key, .year, true⟩ (m.get? key) (m'.get? key)) :
    requiredYear path (field? m key) = requiredYear path (field? m' key) :=
  congrArg _ (h.field?_eq rfl (by simp))

/-- What is not said is accepted as nothing. -/
theorem optionalString_unsaid (h : SaysOptional (m.get? key) none) :
    optionalString path (field? m key) = .pure none :=
  Checked.eq_pure_of_finish (finish_optionalString.mpr h)

theorem optionalString_eq (h : SameValue ⟨key, .text, false⟩ (m.get? key) (m'.get? key)) :
    optionalString path (field? m key) = optionalString path (field? m' key) := by
  generalize hv : m.get? key = v at h
  generalize hw : m'.get? key = w at h
  cases h with
  | refl => rw [field?_congr (hv.trans hw.symm)]
  | absent hv' hw' =>
    rw [optionalString_unsaid (hv ▸ Or.inl hv'), optionalString_unsaid (hw ▸ Or.inl hw')]
  | unsaid _ _ hv' hw' => rw [optionalString_unsaid (hv ▸ hv'), optionalString_unsaid (hw ▸ hw')]
  | padded hcontent => simp at hcontent

/-- Blanks around a link do not count. -/
theorem checkedLink_padded {before after : String} (hbefore : isBlankString before = true)
    (hafter : isBlankString after = true) (s : String) :
    checkedLink path (before ++ s ++ after) = checkedLink path s := by
  rw [checkedLink, checkedLink, Text.trim_padded hbefore hafter]

theorem field?_string {s : String} (h : m.get? key = some (.string s)) :
    field? m key = some (.string s) :=
  field?_eq_some.mpr ⟨h, by simp⟩

theorem requiredLink_eq (h : SameValue ⟨key, .link, true⟩ (m.get? key) (m'.get? key)) :
    requiredLink path (field? m key) = requiredLink path (field? m' key) := by
  generalize hv : m.get? key = v at h
  generalize hw : m'.get? key = w at h
  cases h with
  | refl => rw [field?_congr (hv.trans hw.symm)]
  | absent hv' hw' => rw [field?_eq_none.mpr (hv ▸ hv'), field?_eq_none.mpr (hw ▸ hw')]
  | unsaid _ hoptional => simp at hoptional
  | @padded s before after _ hbefore hafter =>
    rw [field?_string hv, field?_string hw]
    simp only [requiredLink, requiredString, Text.isBlankString_padded hbefore hafter]
    cases isBlankString s with
    | true => rfl
    | false =>
      simp only [Bool.false_eq_true, if_false, Checked.pure_bind, checkedLink_padded hbefore hafter]

theorem optionalLink_unsaid (h : SaysOptional (m.get? key) none) :
    optionalLink path (field? m key) = .pure none :=
  Checked.eq_pure_of_finish (finish_optionalLink.mpr h)

theorem optionalLink_eq (h : SameValue ⟨key, .link, false⟩ (m.get? key) (m'.get? key)) :
    optionalLink path (field? m key) = optionalLink path (field? m' key) := by
  generalize hv : m.get? key = v at h
  generalize hw : m'.get? key = w at h
  cases h with
  | refl => rw [field?_congr (hv.trans hw.symm)]
  | absent hv' hw' =>
    rw [optionalLink_unsaid (hv ▸ Or.inl hv'), optionalLink_unsaid (hw ▸ Or.inl hw')]
  | unsaid _ _ hv' hw' => rw [optionalLink_unsaid (hv ▸ hv'), optionalLink_unsaid (hw ▸ hw')]
  | @padded s before after _ hbefore hafter =>
    rw [field?_string hv, field?_string hw]
    simp only [optionalLink, optionalString, Text.isBlankString_padded hbefore hafter,
      Checked.pure_bind]
    cases isBlankString s with
    | true => rfl
    | false => simp only [Bool.false_eq_true, if_false, checkedLink_padded hbefore hafter]

/-! ### Checks of groups -/

theorem checkStage_eq {s s' : Members} (h : GroupRewrite stageFields s s') (path : String) :
    checkStage path (.object s) = checkStage path (.object s') := by
  have hsame := h.sameValue (by decide)
  rw [checkStage, checkStage,
    requiredString_eq (hsame ⟨"main_file", .text, true⟩ (by simp [stageFields])),
    requiredString_eq (hsame ⟨"image_name", .text, true⟩ (by simp [stageFields])),
    requiredString_eq (hsame ⟨"image_tag", .text, true⟩ (by simp [stageFields]))]

/-- Only the check of one stage is at stake. -/
theorem checkStagesFrom_eq {v w : Value} (h : ∀ path, checkStage path v = checkStage path w)
    (before after : List Value) (index : Nat) :
    checkStagesFrom index (before ++ v :: after)
      = checkStagesFrom index (before ++ w :: after) := by
  induction before generalizing index with
  | nil => rw [List.nil_append, List.nil_append, checkStagesFrom, checkStagesFrom, h]
  | cons u before ih =>
    rw [List.cons_append, List.cons_append, checkStagesFrom, checkStagesFrom, ih]

theorem checkStages_of_ne_nil {items : List Value} (h : items ≠ []) :
    checkStages (some (.array items)) = (checkStagesFrom 0 items).map some := by
  cases items with
  | nil => exact absurd rfl h
  | cons v rest => rfl

theorem checkLinks_eq {l l' : Members} (h : GroupRewrite linkFields l l') :
    checkLinks (some (.object l)) = checkLinks (some (.object l')) := by
  have hsame := h.sameValue (by decide)
  rw [checkLinks, checkLinks,
    requiredLink_eq (hsame ⟨"submission_url", .link, true⟩ (by simp [linkFields])),
    requiredLink_eq (hsame ⟨"docs_url", .link, true⟩ (by simp [linkFields])),
    requiredLink_eq (hsame ⟨"base_url", .link, true⟩ (by simp [linkFields]))]

theorem checkBranding_eq {b b' : Members} (h : GroupRewrite brandingFields b b') :
    checkBranding (some (.object b)) = checkBranding (some (.object b')) := by
  have hsame := h.sameValue (by decide)
  rw [checkBranding, checkBranding,
    optionalLink_eq (hsame ⟨"logo_url", .link, false⟩ (by simp [brandingFields]))]

/-! ### Rewrites of a map -/

/-- The fields that stand by themselves come to the same. -/
def SameFields (m m' : Members) : Prop :=
  ∀ f ∈ singleFields, SameValue f (m.get? f.key) (m'.get? f.key)

theorem ne_of_mem_singleFields {f : Field} (hf : f ∈ singleFields) :
    f.key ≠ "stages" ∧ f.key ≠ "links" ∧ f.key ≠ "branding" := by
  have hkeys : ∀ key ∈ singleFields.map Field.key,
      key ≠ "stages" ∧ key ≠ "links" ∧ key ≠ "branding" := by
    decide
  exact hkeys f.key (List.mem_map_of_mem hf)

/-- A check is the same when its parts are. -/
theorem check_eq (hfields : SameFields m m')
    (hstages : checkStages (field? m "stages") = checkStages (field? m' "stages"))
    (hlinks : checkLinks (field? m "links") = checkLinks (field? m' "links"))
    (hbranding : checkBranding (field? m "branding") = checkBranding (field? m' "branding")) :
    Context.check m = Context.check m' := by
  simp only [SameFields, singleFields, leadingFields, yearField, List.forall_mem_append,
    List.forall_mem_cons] at hfields
  obtain ⟨⟨hname, hid, hsuccess, hstatus, hsubmission, hcompletion, hexecution, hmessage, -⟩,
    hyear, -⟩ := hfields
  simp only [Context.check, hstages, hlinks, hbranding, requiredString_eq hname,
    requiredString_eq hid, requiredBool_eq hsuccess, requiredString_eq hstatus,
    optionalString_eq hsubmission, optionalString_eq hcompletion, optionalString_eq hexecution,
    optionalString_eq hmessage, requiredYear_eq hyear]

/-- A rewrite of the stages only matters to their check. -/
theorem check_eq_of_stages (hrest : AgreeExcept "stages" m m')
    (h : checkStages (field? m "stages") = checkStages (field? m' "stages")) :
    Context.check m = Context.check m' := by
  refine check_eq (sameValue_of_unknown (fun f hf => (ne_of_mem_singleFields hf).1) hrest) h ?_ ?_
  · rw [field?_congr (hrest _ (by decide))]
  · rw [field?_congr (hrest _ (by decide))]

theorem check_eq_of_links (hrest : AgreeExcept "links" m m')
    (h : checkLinks (field? m "links") = checkLinks (field? m' "links")) :
    Context.check m = Context.check m' := by
  refine check_eq (sameValue_of_unknown (fun f hf => (ne_of_mem_singleFields hf).2.1) hrest) ?_ h ?_
  · rw [field?_congr (hrest _ (by decide))]
  · rw [field?_congr (hrest _ (by decide))]

theorem check_eq_of_branding (hrest : AgreeExcept "branding" m m')
    (h : checkBranding (field? m "branding") = checkBranding (field? m' "branding")) :
    Context.check m = Context.check m' := by
  refine check_eq (sameValue_of_unknown (fun f hf => (ne_of_mem_singleFields hf).2.2) hrest) ?_ ?_ h
  · rw [field?_congr (hrest _ (by decide))]
  · rw [field?_congr (hrest _ (by decide))]

/-- A rewrite of a field leaves the stages, the links and the branding. -/
theorem check_eq_of_field {f : Field} (hf : f ∈ singleFields) (hrest : AgreeExcept f.key m m')
    (h : SameValue f (m.get? f.key) (m'.get? f.key)) : Context.check m = Context.check m' := by
  obtain ⟨hstages, hlinks, hbranding⟩ := ne_of_mem_singleFields hf
  refine check_eq (sameValue_of_field (by decide) hf hrest h) ?_ ?_ ?_
  · rw [field?_congr (hrest _ hstages.symm)]
  · rw [field?_congr (hrest _ hlinks.symm)]
  · rw [field?_congr (hrest _ hbranding.symm)]

theorem check_eq_of_unknown (hkey : key ∉ knownKeys) (hrest : AgreeExcept key m m') :
    Context.check m = Context.check m' := by
  have hne (k : String) (hk : k ∈ knownKeys) : k ≠ key := fun heq => hkey (heq ▸ hk)
  have hsingle (f : Field) (hf : f ∈ singleFields) : f.key ≠ key :=
    hne f.key (List.mem_append_left _ (List.mem_map_of_mem hf))
  refine check_eq (sameValue_of_unknown hsingle hrest) ?_ ?_ ?_
  · rw [field?_congr (hrest _ (hne _ (by decide)))]
  · rw [field?_congr (hrest _ (hne _ (by decide)))]
  · rw [field?_congr (hrest _ (hne _ (by decide)))]

/-- A message is accepted, whatever it says. -/
theorem exists_optionalString_eq (path : String) (h : IsMessage (m.get? key)) :
    ∃ message, optionalString path (field? m key) = .pure message := by
  rcases h with h | ⟨s, h⟩
  · exact ⟨none, optionalString_unsaid (Or.inl h)⟩
  · rw [field?_string h]
    exact ⟨_, rfl⟩

/-- The error message of a job that succeeded is dropped. -/
theorem check_eq_of_message (hsuccess : m.get? "is_success" = some (.bool true))
    (hrest : AgreeExcept "error_message" m m') (h : IsMessage (m.get? "error_message"))
    (h' : IsMessage (m'.get? "error_message")) : Context.check m = Context.check m' := by
  have hagree (key : String) (hkey : key ≠ "error_message") : field? m key = field? m' key :=
    field?_congr (hrest key hkey)
  have htrue : field? m' "is_success" = some (.bool true) := by
    rw [← hagree _ (by decide)]
    exact field?_eq_some.mpr ⟨hsuccess, by simp⟩
  obtain ⟨message, hmessage⟩ := exists_optionalString_eq "error_message" h
  obtain ⟨message', hmessage'⟩ := exists_optionalString_eq "error_message" h'
  simp only [Context.check, hmessage, hmessage', hagree "recipient_name" (by decide),
    hagree "job_id" (by decide), hagree "is_success" (by decide), htrue,
    hagree "status_text" (by decide), hagree "submission_time" (by decide),
    hagree "completion_time" (by decide), hagree "execution_time" (by decide),
    hagree "stages" (by decide), hagree "links" (by decide), hagree "branding" (by decide),
    hagree "current_year" (by decide)]
  -- what has been read before the message says that the job succeeded
  congr 4
  refine Checked.ap_pure_congr fun g hg => ?_
  simp only [Checked.value_ap] at hg
  obtain ⟨_, _, ⟨_, _, ⟨_, _, ⟨_, _, ⟨_, success, ⟨_, _, ⟨_, _, hparts, -, rfl⟩, -, rfl⟩, hvalue,
    rfl⟩, -, rfl⟩, -, rfl⟩, -, rfl⟩, -, rfl⟩ := hg
  obtain rfl : true = success := by simpa [requiredBool, Checked.pure] using hvalue
  obtain rfl : Context.ofParts = _ := by simpa [Checked.pure] using hparts
  rfl

/-- **A rewrite keeps the result of the check.** -/
theorem check_rewrite (h : Rewrite m m') : Context.check m = Context.check m' := by
  cases h with
  | field hf hrest h => exact check_eq_of_field hf hrest h
  | unknown hkey hrest => exact check_eq_of_unknown hkey hrest
  | message hsuccess hrest h h' => exact check_eq_of_message hsuccess hrest h h'
  | noStages hrest h h' =>
    refine check_eq_of_stages hrest ?_
    rw [Checked.eq_pure_of_finish (finish_checkStages.mpr h),
      Checked.eq_pure_of_finish (finish_checkStages.mpr h')]
  | stage hrest h h' hs =>
    refine check_eq_of_stages hrest ?_
    rw [field?_eq_some.mpr ⟨h, by simp⟩, field?_eq_some.mpr ⟨h', by simp⟩,
      checkStages_of_ne_nil (by simp), checkStages_of_ne_nil (by simp),
      checkStagesFrom_eq (checkStage_eq hs)]
  | noLinks hrest h h' =>
    refine check_eq_of_links hrest ?_
    rw [field?_eq_none.mpr h, field?_eq_none.mpr h']
  | links hrest h h' hl =>
    refine check_eq_of_links hrest ?_
    rw [field?_eq_some.mpr ⟨h, by simp⟩, field?_eq_some.mpr ⟨h', by simp⟩, checkLinks_eq hl]
  | noLogo hrest h h' =>
    refine check_eq_of_branding hrest ?_
    rw [Checked.eq_pure_of_finish (finish_checkBranding.mpr h),
      Checked.eq_pure_of_finish (finish_checkBranding.mpr h')]
  | branding hrest h h' hb =>
    refine check_eq_of_branding hrest ?_
    rw [field?_eq_some.mpr ⟨h, by simp⟩, field?_eq_some.mpr ⟨h', by simp⟩, checkBranding_eq hb]

/-! ### Combinations of rewrites -/

theorem check_rewrites (h : Relation.EqvGen Rewrite m m') : Context.check m = Context.check m' := by
  induction h with
  | rel m m' h => exact check_rewrite h
  | refl m => rfl
  | symm m m' _ ih => exact ih.symm
  | trans m m' m'' _ _ ih ih' => exact ih.trans ih'

/-- **Maps that come to the same have the same result**: the same context or the same report, and so
the same documents. -/
theorem ofAttributes_rewrites (h : Relation.EqvGen Rewrite m m') :
    Context.ofAttributes m = Context.ofAttributes m' ∧
      ∀ s : Service, s.renderAttributes m = s.renderAttributes m' := by
  have hcontext : Context.ofAttributes m = Context.ofAttributes m' := by
    rw [Context.ofAttributes, Context.ofAttributes, check_rewrites h]
  refine ⟨hcontext, fun s => ?_⟩
  unfold Service.renderAttributes
  rw [hcontext]

/-- The attributes of a job that succeeded, with further members and with the links given. -/
def successAttributes (further : Members) (links : Members) : Members :=
  further ++ [("recipient_name", .string "Ada"), ("job_id", .string "1"),
    ("is_success", .bool true), ("status_text", .string "Completed"), ("links", .object links),
    ("current_year", .number (.whole 2026))]

def linkMembers (submissionUrl : String) : Members :=
  [("submission_url", .string submissionUrl), ("docs_url", .string "http://[::1]/docs"),
    ("base_url", .string "http://[::1]/")]

/-- An error message that comes late and blanks around a link change nothing. -/
theorem ofAttributes_rewrites_of_late_message :
    Relation.EqvGen Rewrite
      (successAttributes [("error_message", .string "too late")] (linkMembers "http://[::1]/1"))
      (successAttributes [] (linkMembers (" " ++ "http://[::1]/1" ++ "\n"))) ∧
    Context.ofAttributes
        (successAttributes [("error_message", .string "too late")] (linkMembers "http://[::1]/1"))
      = Context.ofAttributes
        (successAttributes [] (linkMembers (" " ++ "http://[::1]/1" ++ "\n"))) ∧
    ∃ c, Context.ofAttributes
      (successAttributes [] (linkMembers (" " ++ "http://[::1]/1" ++ "\n"))) = .ok c := by
  have hmessage : Rewrite
      (successAttributes [("error_message", .string "too late")] (linkMembers "http://[::1]/1"))
      (successAttributes [] (linkMembers "http://[::1]/1")) := by
    refine .message rfl (fun k hk => ?_) (Or.inr ⟨_, rfl⟩) (Or.inl (Or.inl rfl))
    rw [successAttributes, Members.get?_append]
    simp [successAttributes, Members.get?, hk.symm]
  have hlinks : Rewrite (successAttributes [] (linkMembers "http://[::1]/1"))
      (successAttributes [] (linkMembers (" " ++ "http://[::1]/1" ++ "\n"))) := by
    refine .links (fun k hk => ?_) rfl rfl (.field (f := ⟨"submission_url", .link, true⟩)
      (by simp [linkFields]) (fun k hk => ?_) (.padded rfl (by decide) (by decide)))
    · simp [successAttributes, Members.get?, hk.symm]
    · simp [linkMembers, Members.get?, hk.symm]
  have hboth := Relation.EqvGen.trans _ _ _ (.rel _ _ hmessage) (.rel _ _ hlinks)
  refine ⟨hboth, (ofAttributes_rewrites hboth).1, ?_⟩
  exact ⟨_, rfl⟩

end JobNotice.Notice
