import JobNotice.Notice.Context
import JobNotice.Proofs.Notice.Checked

/-!
# What is asked of the attributes of a notification

The requirements are stated here without regard to how they are checked: which fields there are,
what each must hold, and which problem of which path a map of attributes has. A value that is null
counts as absent. A required value must be there, and be no blank string; a value that is there has
the type of its field; links are judged without the blanks around them, and a year is a whole number
of 32 bits.

For every check of a field or of a stage there is one lemma that names its problems in these terms.

## Main definitions

* `Notice.Field`, `Notice.Field.Wrong` — fields, and what is wrong with their values
* `Notice.GroupWrong` — what is wrong with a value that must be an object of fields
* `Notice.Offends` — the problems of a map of attributes
* `Notice.pathOrder` — all paths, in the order in which problems are reported

## Main results

* `Notice.reports_requiredString`, … — what each check of a field reports
* `Notice.reports_checkStage`, `Notice.reports_checkStagesFrom` — and of the stages
-/

namespace JobNotice.Notice

open Json (Value Number Members)

/-! ### Fields -/

/-- What the value of a field says. -/
inductive Content
  | text
  | flag
  | link
  | year
  deriving DecidableEq

namespace Content

/-- The type of the values in words. -/
def typeName : Content → String
  | .text | .link => "a string"
  | .flag => "a boolean"
  | .year => "an integer"

/-- Whether a value has the type. -/
def HasType : Content → Value → Prop
  | .text, v | .link, v => ∃ s, v = .string s
  | .flag, v => ∃ b, v = .bool b
  | .year, v => ∃ n, v = .number n

end Content

structure Field where
  key : String
  content : Content
  required : Bool

/-- Nothing is there, or only null. -/
def Absent (v : Option Value) : Prop := v = none ∨ v = some .null

/-- A whole number of 32 bits. -/
def IsYear (n : Number) : Prop := ∃ y : Int, n = .whole y ∧ -2147483648 ≤ y ∧ y ≤ 2147483647

/-- What is wrong with the value of a field. -/
inductive Field.Wrong (f : Field) (v : Option Value) : Problem → Prop
  | missing (hreq : f.required = true) (h : Absent v) : f.Wrong v .missing
  | wrongType {w : Value} (h : v = some w) (hnull : w ≠ .null) (htype : ¬ f.content.HasType w) :
      f.Wrong v (.wrongType f.content.typeName)
  | empty {s : String} (hreq : f.required = true) (h : v = some (.string s))
      (hcontent : f.content = .text ∨ f.content = .link) (hblank : Text.isBlankString s = true) :
      f.Wrong v .empty
  | badLink {s : String} {e : Url.LinkProblem} (hcontent : f.content = .link)
      (h : v = some (.string s)) (hblank : Text.isBlankString s = false)
      (hlink : Url.checkLink (Text.trim s) = .error e) : f.Wrong v (.malformed e.message)
  | badYear {n : Number} (hcontent : f.content = .year) (h : v = some (.number n))
      (hyear : ¬ IsYear n) : f.Wrong v (.malformed ("must be a whole year, got " ++ n.text))

/-! ### Objects and maps -/

/-- What is wrong with a value that must be an object of fields. -/
inductive GroupWrong (path : String) (fields : List Field) (v : Value) : String → Problem → Prop
  | wrongType (h : ∀ members, v ≠ .object members) :
      GroupWrong path fields v path (.wrongType "an object")
  | field {members : Members} {f : Field} {problem : Problem} (h : v = .object members)
      (hf : f ∈ fields) (hwrong : f.Wrong (members.get? f.key) problem) :
      GroupWrong path fields v (path ++ "." ++ f.key) problem

/-- The fields that stand by themselves, up to the stages. -/
def leadingFields : List Field :=
  [⟨"recipient_name", .text, true⟩, ⟨"job_id", .text, true⟩, ⟨"is_success", .flag, true⟩,
    ⟨"status_text", .text, true⟩, ⟨"submission_time", .text, false⟩,
    ⟨"completion_time", .text, false⟩, ⟨"execution_time", .text, false⟩,
    ⟨"error_message", .text, false⟩]

def yearField : Field := ⟨"current_year", .year, true⟩

def stageFields : List Field :=
  [⟨"main_file", .text, true⟩, ⟨"image_name", .text, true⟩, ⟨"image_tag", .text, true⟩]

def linkFields : List Field :=
  [⟨"submission_url", .link, true⟩, ⟨"docs_url", .link, true⟩, ⟨"base_url", .link, true⟩]

def brandingFields : List Field := [⟨"logo_url", .link, false⟩]

/-- The path of a stage. -/
def stagePath (index : Nat) : String := "stages[" ++ Decimal.natText index ++ "]"

/-- A problem of a map of attributes, with its path. -/
inductive Offends (m : Members) : String → Problem → Prop
  | field {f : Field} {problem : Problem} (hf : f ∈ leadingFields ∨ f = yearField)
      (h : f.Wrong (m.get? f.key) problem) : Offends m f.key problem
  | stagesType {v : Value} (h : m.get? "stages" = some v) (hnull : v ≠ .null)
      (htype : ∀ items, v ≠ .array items) : Offends m "stages" (.wrongType "an array")
  | stage {items : List Value} {index : Nat} {v : Value} {path : String} {problem : Problem}
      (h : m.get? "stages" = some (.array items)) (hv : items[index]? = some v)
      (hwrong : GroupWrong (stagePath index) stageFields v path problem) : Offends m path problem
  | linksMissing (h : Absent (m.get? "links")) : Offends m "links" .missing
  | links {v : Value} {path : String} {problem : Problem} (h : m.get? "links" = some v)
      (hnull : v ≠ .null) (hwrong : GroupWrong "links" linkFields v path problem) :
      Offends m path problem
  | branding {v : Value} {path : String} {problem : Problem} (h : m.get? "branding" = some v)
      (hnull : v ≠ .null) (hwrong : GroupWrong "branding" brandingFields v path problem) :
      Offends m path problem

/-- The paths of an object and of its fields. -/
def groupPaths (path : String) (fields : List Field) : List String :=
  path :: fields.map fun f => path ++ "." ++ f.key

/-- All paths of a map with so many stages, in the order of reports. -/
def pathOrder (stages : Nat) : List String :=
  leadingFields.map Field.key ++
    "stages" :: ((List.range stages).flatMap fun i => groupPaths (stagePath i) stageFields) ++
    groupPaths "links" linkFields ++ groupPaths "branding" brandingFields ++ [yearField.key]

/-- The number of items that the stages have. -/
def stageCount (m : Members) : Nat :=
  match m.get? "stages" with
  | some (.array items) => items.length
  | _ => 0

/-! ### Looking a value up -/

theorem field?_eq_none {members : Members} {key : String} :
    field? members key = none ↔ Absent (members.get? key) := by
  rw [field?, Absent]
  cases members.get? key with
  | none => simp
  | some v => cases v <;> simp

theorem field?_eq_some {members : Members} {key : String} {v : Value} :
    field? members key = some v ↔ members.get? key = some v ∧ v ≠ .null := by
  rw [field?]
  cases members.get? key with
  | none => simp
  | some w => cases w <;> simp <;> grind

theorem absent_field? {members : Members} {key : String} :
    Absent (field? members key) ↔ Absent (members.get? key) := by
  rw [← field?_eq_none, Absent]
  simp [field?_eq_some]

/-! ### What is wrong with each kind of value -/

theorem Field.wrong_of_absent {f : Field} {v : Option Value} (h : Absent v) {problem : Problem} :
    f.Wrong v problem ↔ f.required = true ∧ problem = .missing := by
  constructor
  · rintro (⟨hreq, -⟩ | ⟨hv, hnull, -⟩ | ⟨-, hv, -, -⟩ | ⟨-, hv, -, -⟩ | ⟨-, hv, -⟩)
    · exact ⟨hreq, rfl⟩
    all_goals rcases h with h | h <;> simp_all
  · rintro ⟨hreq, rfl⟩
    exact .missing hreq h

theorem not_absent_of_ne_null {v : Value} (h : v ≠ .null) : ¬ Absent (some v) := by
  simp [Absent, h]

theorem Field.wrong_of_not_hasType {f : Field} {v : Value} (hnull : v ≠ .null)
    (htype : ¬ f.content.HasType v) {problem : Problem} :
    f.Wrong (some v) problem ↔ problem = .wrongType f.content.typeName := by
  constructor
  · rintro (⟨-, h⟩ | ⟨-, -, -⟩ | ⟨-, hv, hcontent, -⟩ | ⟨hcontent, hv, -, -⟩ | ⟨hcontent, hv, -⟩)
    · exact absurd h (not_absent_of_ne_null hnull)
    · rfl
    · rcases hcontent with h | h <;> simp_all [Content.HasType]
    · simp_all [Content.HasType]
    · simp_all [Content.HasType]
  · rintro rfl
    exact .wrongType rfl hnull htype

theorem Field.wrong_text {key : String} {required : Bool} {s : String} {problem : Problem} :
    (Field.mk key .text required).Wrong (some (.string s)) problem ↔
      required = true ∧ Text.isBlankString s = true ∧ problem = .empty := by
  constructor
  · rintro (⟨-, h⟩ | ⟨hv, -, htype⟩ | ⟨hreq, hv, -, hblank⟩ | ⟨hcontent, -⟩ | ⟨hcontent, -⟩)
    · simp [Absent] at h
    · exact absurd ⟨s, (Option.some.inj hv).symm⟩ htype
    · simp_all
    · simp at hcontent
    · simp at hcontent
  · rintro ⟨hreq, hblank, rfl⟩
    exact .empty hreq rfl (Or.inl rfl) hblank

theorem Field.wrong_link {key : String} {required : Bool} {s : String} {problem : Problem} :
    (Field.mk key .link required).Wrong (some (.string s)) problem ↔
      (required = true ∧ Text.isBlankString s = true ∧ problem = .empty) ∨
      (Text.isBlankString s = false ∧
        ∃ e, Url.checkLink (Text.trim s) = .error e ∧ problem = .malformed e.message) := by
  constructor
  · rintro (⟨-, h⟩ | ⟨hv, -, htype⟩ | ⟨hreq, hv, -, hblank⟩ | ⟨-, hv, hblank, hlink⟩ | ⟨hcontent, -⟩)
    · simp [Absent] at h
    · exact absurd ⟨s, (Option.some.inj hv).symm⟩ htype
    · simp_all
    · simp_all
    · simp at hcontent
  · rintro (⟨hreq, hblank, rfl⟩ | ⟨hblank, e, hlink, rfl⟩)
    · exact .empty hreq rfl (Or.inr rfl) hblank
    · exact .badLink rfl rfl hblank hlink

theorem Field.wrong_flag {key : String} {required : Bool} {b : Bool} {problem : Problem} :
    ¬ (Field.mk key .flag required).Wrong (some (.bool b)) problem := by
  rintro (⟨-, h⟩ | ⟨hv, -, htype⟩ | ⟨-, hv, -, -⟩ | ⟨-, hv, -, -⟩ | ⟨-, hv, -⟩)
  · simp [Absent] at h
  · exact htype ⟨b, (Option.some.inj hv).symm⟩
  all_goals simp at hv

theorem Field.wrong_year {key : String} {required : Bool} {n : Number} {problem : Problem} :
    (Field.mk key .year required).Wrong (some (.number n)) problem ↔
      ¬ IsYear n ∧ problem = .malformed ("must be a whole year, got " ++ n.text) := by
  constructor
  · rintro (⟨-, h⟩ | ⟨hv, -, htype⟩ | ⟨-, hv, -, -⟩ | ⟨-, hv, -, -⟩ | ⟨-, hv, hyear⟩)
    · simp [Absent] at h
    · exact absurd ⟨n, (Option.some.inj hv).symm⟩ htype
    · simp at hv
    · simp at hv
    · simp_all
  · rintro ⟨hyear, rfl⟩
    exact .badYear rfl rfl hyear

/-! ### What the checks of single fields report -/

section

variable {α : Type} (path : String) (members : Members) (key : String)

/-- A field that is required, checked against a value that is there. -/
theorem reports_absent {v : Option Value} (h : Absent v) (content : Content) :
    (Checked.fail path .missing : Checked α).Reports [path] fun field problem =>
      field = path ∧ (Field.mk key content true).Wrong v problem :=
  (Checked.Reports.one none path .missing).congr fun field problem => by
    simp [Field.wrong_of_absent h]

theorem reports_not_hasType (f : Field) (value : Option α) {v : Value} (hnull : v ≠ .null)
    (htype : ¬ f.content.HasType v) :
    (⟨value, [⟨path, .wrongType f.content.typeName⟩]⟩ : Checked α).Reports [path]
      fun field problem => field = path ∧ f.Wrong (some v) problem :=
  (Checked.Reports.one value path _).congr fun field problem => by
    rw [Field.wrong_of_not_hasType hnull htype]

/-- A value with which nothing is wrong. -/
theorem reports_nothing (a : α) {f : Field} {v : Option Value}
    (h : ∀ problem, ¬ f.Wrong v problem) :
    (Checked.pure a).Reports [path] fun field problem => field = path ∧ f.Wrong v problem :=
  (Checked.Reports.pure a [path]).congr fun field problem => by simp [h]

theorem reports_requiredString :
    (requiredString path (field? members key)).Reports [path] fun field problem =>
      field = path ∧ (Field.mk key .text true).Wrong (members.get? key) problem := by
  cases h : field? members key with
  | none => exact reports_absent path key (field?_eq_none.mp h) .text
  | some v =>
    obtain ⟨hv, hnull⟩ := field?_eq_some.mp h
    rw [hv]
    cases v with
    | string s =>
      by_cases hblank : Text.isBlankString s = true
      · simp only [requiredString, hblank, if_true]
        exact (Checked.Reports.one none path .empty).congr fun field problem => by
          simp [Field.wrong_text, hblank]
      · simp only [requiredString, hblank]
        exact reports_nothing path s fun problem => by simp [Field.wrong_text, hblank]
    | _ => exact reports_not_hasType path ⟨key, .text, true⟩ none hnull (by simp [Content.HasType])

theorem reports_optionalString :
    (optionalString path (field? members key)).Reports [path] fun field problem =>
      field = path ∧ (Field.mk key .text false).Wrong (members.get? key) problem := by
  cases h : field? members key with
  | none =>
    have habsent := field?_eq_none.mp h
    exact reports_nothing path none fun problem => by simp [Field.wrong_of_absent habsent]
  | some v =>
    obtain ⟨hv, hnull⟩ := field?_eq_some.mp h
    rw [hv]
    cases v with
    | string s => exact reports_nothing path _ fun problem => by simp [Field.wrong_text]
    | _ => exact reports_not_hasType path ⟨key, .text, false⟩ (some none) hnull (by simp [Content.HasType])

theorem reports_requiredBool :
    (requiredBool path (field? members key)).Reports [path] fun field problem =>
      field = path ∧ (Field.mk key .flag true).Wrong (members.get? key) problem := by
  cases h : field? members key with
  | none => exact reports_absent path key (field?_eq_none.mp h) .flag
  | some v =>
    obtain ⟨hv, hnull⟩ := field?_eq_some.mp h
    rw [hv]
    cases v with
    | bool b => exact reports_nothing path b fun problem => Field.wrong_flag
    | _ => exact reports_not_hasType path ⟨key, .flag, true⟩ none hnull (by simp [Content.HasType])

theorem isYear_iff {y : Int} : isYear y = true ↔ IsYear (.whole y) := by
  simp only [isYear, IsYear, Bool.and_eq_true, decide_eq_true_eq, Number.whole.injEq]
  constructor
  · rintro ⟨hlow, hhigh⟩
    exact ⟨y, rfl, hlow, hhigh⟩
  · rintro ⟨z, rfl, hlow, hhigh⟩
    exact ⟨hlow, hhigh⟩

theorem reports_requiredYear :
    (requiredYear path (field? members key)).Reports [path] fun field problem =>
      field = path ∧ (Field.mk key .year true).Wrong (members.get? key) problem := by
  cases h : field? members key with
  | none => exact reports_absent path key (field?_eq_none.mp h) .year
  | some v =>
    obtain ⟨hv, hnull⟩ := field?_eq_some.mp h
    rw [hv]
    cases v with
    | number n =>
      have hbad (hyear : ¬ IsYear n) :
          (Checked.fail path (.malformed ("must be a whole year, got " ++ n.text)) :
            Checked Int).Reports [path] fun field problem =>
            field = path ∧ (Field.mk key .year true).Wrong (some (.number n)) problem :=
        (Checked.Reports.one none path _).congr fun field problem => by
          simp [Field.wrong_year, hyear]
      cases n with
      | whole y =>
        by_cases hyear : isYear y = true
        · simp only [requiredYear, hyear, if_true]
          exact reports_nothing path y fun problem => by
            simp [Field.wrong_year, isYear_iff.mp hyear]
        · simp only [requiredYear, hyear]
          exact hbad (mt isYear_iff.mpr hyear)
      | real x => exact hbad (by simp [IsYear])
    | _ => exact reports_not_hasType path ⟨key, .year, true⟩ none hnull (by simp [Content.HasType])

/-- The check of a link that is not blank. -/
theorem reports_checkedLink {s : String} (hblank : Text.isBlankString s = false) (required : Bool) :
    (checkedLink path s).Reports [path] fun field problem =>
      field = path ∧ (Field.mk key .link required).Wrong (some (.string s)) problem := by
  rw [checkedLink]
  cases h : Url.checkLink (Text.trim s) with
  | ok => exact reports_nothing path _ fun problem => by simp [Field.wrong_link, hblank, h]
  | error e =>
    exact (Checked.Reports.one none path _).congr fun field problem => by
      simp [Field.wrong_link, hblank, h]

theorem reports_requiredLink :
    (requiredLink path (field? members key)).Reports [path] fun field problem =>
      field = path ∧ (Field.mk key .link true).Wrong (members.get? key) problem := by
  cases h : field? members key with
  | none => exact reports_absent path key (field?_eq_none.mp h) .link
  | some v =>
    obtain ⟨hv, hnull⟩ := field?_eq_some.mp h
    rw [hv]
    cases v with
    | string s =>
      by_cases hblank : Text.isBlankString s = true
      · simp only [requiredLink, requiredString, hblank, if_true]
        exact (Checked.Reports.one none path .empty).congr fun field problem => by
          simp [Field.wrong_link, hblank]
      · replace hblank : Text.isBlankString s = false := by simpa using hblank
        have hcheck : requiredLink path (some (.string s)) = checkedLink path s := by
          simp [requiredLink, requiredString, hblank]
        rw [hcheck]
        exact reports_checkedLink path key hblank true
    | _ => exact reports_not_hasType path ⟨key, .link, true⟩ none hnull (by simp [Content.HasType])

theorem reports_optionalLink :
    (optionalLink path (field? members key)).Reports [path] fun field problem =>
      field = path ∧ (Field.mk key .link false).Wrong (members.get? key) problem := by
  cases h : field? members key with
  | none =>
    have habsent := field?_eq_none.mp h
    exact reports_nothing path none fun problem => by simp [Field.wrong_of_absent habsent]
  | some v =>
    obtain ⟨hv, hnull⟩ := field?_eq_some.mp h
    rw [hv]
    cases v with
    | string s =>
      by_cases hblank : Text.isBlankString s = true
      · simp only [optionalLink, optionalString, hblank, if_true, Checked.pure_bind]
        exact reports_nothing path none fun problem => by simp [Field.wrong_link, hblank]
      · replace hblank : Text.isBlankString s = false := by simpa using hblank
        simp only [optionalLink, optionalString, hblank, Checked.pure_bind]
        -- a logo that is no link is dropped, but not without the link's problem
        have hlink := reports_checkedLink path key hblank false
        cases hcheck : checkedLink path s with
        | mk value problems =>
          rw [hcheck] at hlink
          cases value <;> exact hlink.of_problems_eq (by simp [hcheck]) (by simp [hcheck])
    | _ =>
      exact reports_not_hasType path ⟨key, .link, false⟩ (some none) hnull
        (by simp [Content.HasType])

end

/-! ### What the checks of groups report -/

theorem groupWrong_object {path : String} {fields : List Field} {members : Members}
    {field : String} {problem : Problem} :
    GroupWrong path fields (.object members) field problem ↔
      ∃ f ∈ fields, field = path ++ "." ++ f.key ∧ f.Wrong (members.get? f.key) problem := by
  constructor
  · rintro (⟨h⟩ | ⟨h, hf, hwrong⟩)
    · exact absurd rfl (h members)
    · obtain rfl := Value.object.inj h
      exact ⟨_, hf, rfl, hwrong⟩
  · rintro ⟨f, hf, rfl, hwrong⟩
    exact .field rfl hf hwrong

theorem groupWrong_not_object {path : String} {fields : List Field} {v : Value}
    (hobject : ∀ members, v ≠ .object members) {field : String} {problem : Problem} :
    GroupWrong path fields v field problem ↔ field = path ∧ problem = .wrongType "an object" := by
  constructor
  · rintro (⟨h⟩ | ⟨h, -, -⟩)
    · exact ⟨rfl, rfl⟩
    · exact absurd h (hobject _)
  · rintro ⟨rfl, rfl⟩
    exact .wrongType hobject

/-- A value that is no object, whether or not the check has a value for it. -/
theorem reports_not_object {α : Type} (value : Option α) (path : String) (fields : List Field)
    {v : Value} (hobject : ∀ members, v ≠ .object members) :
    (⟨value, [⟨path, .wrongType "an object"⟩]⟩ : Checked α).Reports (groupPaths path fields)
      (GroupWrong path fields v) :=
  ((Checked.Reports.one value path _).mono (by simp [groupPaths])).congr fun field problem => by
    rw [groupWrong_not_object hobject]

/-- The fields of a stage are checked one after the other. -/
theorem reports_checkStage (path : String) (v : Value) :
    (checkStage path v).Reports (groupPaths path stageFields) (GroupWrong path stageFields v) := by
  cases v with
  | object members =>
    have hfile : path ++ "." ++ "main_file" = path ++ ".main_file" := String.append_assoc
    have hname : path ++ "." ++ "image_name" = path ++ ".image_name" := String.append_assoc
    have htag : path ++ "." ++ "image_tag" = path ++ ".image_tag" := String.append_assoc
    have h := (((Checked.Reports.pure Job.Stage.mk []).ap
      (reports_requiredString (path ++ ".main_file") members "main_file")).ap
      (reports_requiredString (path ++ ".image_name") members "image_name")).ap
      (reports_requiredString (path ++ ".image_tag") members "image_tag")
    refine (h.mono ?_).congr fun field problem => ?_
    · simp [groupPaths, stageFields, hfile, hname, htag]
    · simp [groupWrong_object, stageFields, hfile, hname, htag, or_assoc]
  | _ => exact reports_not_object none path stageFields (by simp)

/-- The stages are gone through in their order. -/
theorem reports_checkStagesFrom (index : Nat) (items : List Value) :
    (checkStagesFrom index items).Reports
      ((List.range' index items.length).flatMap fun i => groupPaths (stagePath i) stageFields)
      fun field problem => ∃ i v, items[i]? = some v ∧
        GroupWrong (stagePath (index + i)) stageFields v field problem := by
  induction items generalizing index with
  | nil => exact (Checked.Reports.pure [] []).congr fun field problem => by simp
  | cons v rest ih =>
    have h := ((reports_checkStage (stagePath index) v).map List.cons).ap (ih (index + 1))
    refine (h.mono ?_).congr fun field problem => ?_
    · simp [List.range'_succ]
    · constructor
      · rintro (hwrong | ⟨i, w, hw, hwrong⟩)
        · exact ⟨0, v, rfl, hwrong⟩
        · refine ⟨i + 1, w, hw, ?_⟩
          rwa [show index + (i + 1) = index + 1 + i by omega]
      · rintro ⟨_ | i, w, hw, hwrong⟩
        · obtain rfl : v = w := by simpa using hw
          exact Or.inl hwrong
        · refine Or.inr ⟨i, w, hw, ?_⟩
          rwa [show index + 1 + i = index + (i + 1) by omega]

end JobNotice.Notice
