import JobNotice.Job.Attributes
import JobNotice.Json.Value
import JobNotice.Notice.Problem
import JobNotice.Url.Basic

/-!
# The context of a notification

The attributes of a job come as a loosely typed map. A context is what remains when every field
has been checked: required strings that say something, optional ones that are present only if
they do, links that lead to web pages, and how the job ended. A context that exists can be
rendered.

## Main definitions

* `Notice.Outcome`, `Notice.Context`
* `Notice.Context.ofAttributes` — the context of a map, or every problem of it
* `Notice.Context.toAttributes` — a map that has a given context
-/

namespace JobNotice.Notice

open Json (Value Members)
open Job (Stage Links)

/-- How a job ended. Only a failed job has an error message. -/
inductive Outcome
  | success
  | failure (errorMessage : Option String)
  deriving DecidableEq

/-- What is known about one job, checked and ready to be rendered. -/
structure Context where
  recipientName : String
  jobId : String
  outcome : Outcome
  statusText : String
  submissionTime : Option String
  completionTime : Option String
  executionTime : Option String
  /-- In order of execution; a list that is present is not empty. -/
  stages : Option (List Stage)
  links : Links
  logoUrl : Option String
  currentYear : Int
  deriving DecidableEq

namespace Context

def isSuccess (c : Context) : Bool :=
  match c.outcome with
  | .success => true
  | .failure _ => false

def errorMessage (c : Context) : Option String :=
  match c.outcome with
  | .success => none
  | .failure message => message

end Context

/-! ### Checks of single fields

Each takes the path that is reported and the value found, where null counts as absent. -/

/-- The value of a field, null being absent. -/
def field? (members : Members) (key : String) : Option Value :=
  match members.get? key with
  | some .null => none
  | v => v

def requiredString (path : String) : Option Value → Checked String
  | none => .fail path .missing
  | some (.string s) => if Text.isBlankString s then .fail path .empty else .pure s
  | some _ => .fail path (.wrongType "a string")

/-- A string that is absent when it is blank. -/
def optionalString (path : String) : Option Value → Checked (Option String)
  | none => .pure none
  | some (.string s) => .pure (if Text.isBlankString s then none else some s)
  | some _ => ⟨some none, [⟨path, .wrongType "a string"⟩]⟩

def requiredBool (path : String) : Option Value → Checked Bool
  | none => .fail path .missing
  | some (.bool b) => .pure b
  | some _ => .fail path (.wrongType "a boolean")

/-- The numbers that can be years. -/
def isYear (n : Int) : Bool := -2147483648 ≤ n && n ≤ 2147483647

def requiredYear (path : String) : Option Value → Checked Int
  | none => .fail path .missing
  | some (.number n) =>
    match n with
    | .whole y =>
      if isYear y then .pure y
      else .fail path (.malformed ("must be a whole year, got " ++ n.text))
    | .real _ => .fail path (.malformed ("must be a whole year, got " ++ n.text))
  | some _ => .fail path (.wrongType "an integer")

/-- A link without the blanks around it. -/
def checkedLink (path : String) (s : String) : Checked String :=
  match Url.checkLink (Text.trim s) with
  | .ok () => .pure (Text.trim s)
  | .error e => .fail path (.malformed e.message)

def requiredLink (path : String) (v : Option Value) : Checked String :=
  (requiredString path v).bind (checkedLink path)

def optionalLink (path : String) (v : Option Value) : Checked (Option String) :=
  (optionalString path v).bind fun
    | none => .pure none
    | some s =>
      match checkedLink path s with
      | ⟨some t, problems⟩ => ⟨some (some t), problems⟩
      | ⟨none, problems⟩ => ⟨some none, problems⟩

/-! ### Checks of groups of fields -/

def checkStage (path : String) : Value → Checked Stage
  | .object members =>
    (((Checked.pure Stage.mk).ap
      (requiredString (path ++ ".main_file") (field? members "main_file"))).ap
      (requiredString (path ++ ".image_name") (field? members "image_name"))).ap
      (requiredString (path ++ ".image_tag") (field? members "image_tag"))
  | _ => .fail path (.wrongType "an object")

/-- The stages of an array, the first one having number `index`. -/
def checkStagesFrom (index : Nat) : List Value → Checked (List Stage)
  | [] => .pure []
  | v :: rest =>
    ((checkStage ("stages[" ++ Decimal.natText index ++ "]") v).map List.cons).ap
      (checkStagesFrom (index + 1) rest)

/-- The stages; none when there are no items. -/
def checkStages : Option Value → Checked (Option (List Stage))
  | none => .pure none
  | some (.array []) => .pure none
  | some (.array items) => (checkStagesFrom 0 items).map some
  | some _ => ⟨some none, [⟨"stages", .wrongType "an array"⟩]⟩

def checkLinks : Option Value → Checked Links
  | none => .fail "links" .missing
  | some (.object members) =>
    (((Checked.pure Links.mk).ap
      (requiredLink "links.submission_url" (field? members "submission_url"))).ap
      (requiredLink "links.docs_url" (field? members "docs_url"))).ap
      (requiredLink "links.base_url" (field? members "base_url"))
  | some _ => .fail "links" (.wrongType "an object")

/-- The logo among the branding. -/
def checkBranding : Option Value → Checked (Option String)
  | none => .pure none
  | some (.object members) => optionalLink "branding.logo_url" (field? members "logo_url")
  | some _ => ⟨some none, [⟨"branding", .wrongType "an object"⟩]⟩

/-! ### The context of a map -/

namespace Context

/-- A context from its checked parts; the error message of a successful job is dropped. -/
def ofParts (recipientName jobId : String) (isSuccess : Bool) (statusText : String)
    (submissionTime completionTime executionTime errorMessage : Option String)
    (stages : Option (List Stage)) (links : Links) (logoUrl : Option String)
    (currentYear : Int) : Context :=
  { recipientName, jobId, statusText, submissionTime, completionTime, executionTime, stages, links,
    logoUrl, currentYear, outcome := if isSuccess then .success else .failure errorMessage }

/-- All checks, in the order in which problems are reported. -/
def check (attributes : Members) : Checked Context :=
  let f (key : String) : Option Value := field? attributes key
  ((((((((((((Checked.pure ofParts).ap
    (requiredString "recipient_name" (f "recipient_name"))).ap
    (requiredString "job_id" (f "job_id"))).ap
    (requiredBool "is_success" (f "is_success"))).ap
    (requiredString "status_text" (f "status_text"))).ap
    (optionalString "submission_time" (f "submission_time"))).ap
    (optionalString "completion_time" (f "completion_time"))).ap
    (optionalString "execution_time" (f "execution_time"))).ap
    (optionalString "error_message" (f "error_message"))).ap
    (checkStages (f "stages"))).ap
    (checkLinks (f "links"))).ap
    (checkBranding (f "branding"))).ap
    (requiredYear "current_year" (f "current_year"))

/-- The context of a map of attributes, or every problem of the map. -/
def ofAttributes (attributes : Members) : Except Report Context := (check attributes).finish

/-- A map of attributes that says what a context says; what is absent is left out. -/
def toAttributes (c : Context) : Members :=
  let optional (key : String) (s : Option String) : Members :=
    match s with
    | none => []
    | some s => [(key, .string s)]
  [("recipient_name", .string c.recipientName), ("job_id", .string c.jobId),
    ("is_success", .bool c.isSuccess), ("status_text", .string c.statusText)] ++
  optional "submission_time" c.submissionTime ++ optional "completion_time" c.completionTime ++
  optional "execution_time" c.executionTime ++ optional "error_message" c.errorMessage ++
  (match c.stages with
    | none => []
    | some stages => [("stages", .array (stages.map Stage.toJson))]) ++
  [("links", c.links.toJson)] ++
  (match c.logoUrl with
    | none => []
    | some url => [("branding", .object [("logo_url", .string url)])]) ++
  [("current_year", .number (.whole c.currentYear))]

end Context

end JobNotice.Notice
