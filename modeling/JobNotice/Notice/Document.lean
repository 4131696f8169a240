import JobNotice.Layout.BuiltIn
import JobNotice.Notice.Context

/-!
# The documents of a notification

A notification is one document in HTML, one in plain text, and a subject line. What they say
depends on how the job ended and on nothing else: a success lists what the job has produced, a
failure shows the error message, if there is one, and some advice. In HTML every value is escaped.

## Main definitions

* `Notice.Branch` — the two kinds of notifications and their wording
* `Notice.htmlSlot`, `Notice.textSlot` — what each slot holds
* `Notice.Document`, `Notice.render` — the documents of a context
-/

namespace JobNotice.Notice

open Layout (Slot Format Template LayoutError)
open Text (htmlText)

/-! ### Wording -/

/-- The two kinds of notifications. -/
inductive Branch
  | success
  | failure
  deriving DecidableEq

def Context.branch (c : Context) : Branch :=
  match c.outcome with
  | .success => .success
  | .failure _ => .failure

namespace Branch

def name : Branch → String
  | .success => "success"
  | .failure => "failure"

/-- The text of the banner. -/
def banner : Branch → String
  | .success => "SUCCESS"
  | .failure => "FAILED"

/-- The class of the banner in the style sheet. -/
def cssClass : Branch → String
  | .success => "status-success"
  | .failure => "status-failure"

def summary : Branch → String
  | .success => "completed successfully"
  | .failure => "failed"

def heading : Branch → String
  | .success => "Job Completed"
  | .failure => "Job Failed"

/-- The label of the link to the submission. -/
def action : Branch → String
  | .success => "View Results"
  | .failure => "View Details"

/-- The sentence after the salutation. -/
def sentence (b : Branch) (product : String) : String :=
  match b with
  | .success => "Your " ++ product ++ " job has " ++ b.summary ++ "."
  | .failure => "Unfortunately, your " ++ product ++ " job has " ++ b.summary ++ "."

end Branch

/-- What every successful job delivers. -/
def artifacts : List String :=
  ["Execution logs for every stage",
   "Output files produced by your code",
   "A signed Transparent Research Object (TRO) describing the run",
   "A resource usage report (CPU, memory and network)"]

/-- Advice for failed jobs. -/
def tips : List String :=
  ["Review the execution log of the failing stage for the first reported error",
   "Check that the main file name and path match your uploaded package",
   "Make sure every data file your code reads is included in the upload",
   "Confirm the selected container image and tag provide the software versions you need"]

/-- The rows of details after the job's identifier: the status and the times that are known. -/
def detailRows (c : Context) : List (String × String) :=
  let row (label : String) (value : Option String) : List (String × String) :=
    match value with
    | none => []
    | some v => [(label, v)]
  ("Status:", c.statusText) ::
    (row "Submitted:" c.submissionTime ++ row "Completed:" c.completionTime ++
      row "Execution Time:" c.executionTime)

/-! ### HTML -/

/-- A list of items. -/
def htmlList (items : List String) : String :=
  "<ul>" ++ String.join (items.map fun i => "\n<li>" ++ htmlText i ++ "</li>") ++ "\n</ul>"

/-- A row of the table of details; the value is HTML. -/
def htmlRow (label value : String) : String :=
  "\n<tr><th>" ++ label ++ "</th><td>" ++ value ++ "</td></tr>"

def htmlDetails (c : Context) : String :=
  "<table class=\"details\">" ++ htmlRow "Job ID:" ("<code>" ++ htmlText c.jobId ++ "</code>") ++
    String.join ((detailRows c).map fun r => htmlRow r.1 (htmlText r.2)) ++ "\n</table>"

def htmlStage (s : Job.Stage) : String :=
  "\n<li><code>" ++ htmlText s.mainFile ++ " - " ++ htmlText s.imageName ++ ":" ++
    htmlText s.imageTag ++ "</code></li>"

def htmlStages (stages : List Job.Stage) : String :=
  "<div class=\"stages\">\n<strong>Stages:</strong>\n<ol>" ++ String.join (stages.map htmlStage) ++
    "\n</ol>\n</div>"

def htmlError (message : String) : String :=
  "<div class=\"error-block\"><strong>Error details:</strong><pre>" ++ htmlText message ++
    "</pre></div>\n"

def htmlLink (url label : String) : String :=
  "<a href=\"" ++ htmlText url ++ "\">" ++ label ++ "</a>"

def htmlFooter (c : Context) (product support : String) : String :=
  "<p>" ++ htmlLink c.links.docsUrl "Documentation" ++ " &middot; " ++
    htmlLink c.links.baseUrl (htmlText product) ++ "</p>\n" ++
    "<p>Questions? Contact us at <a href=\"mailto:" ++ htmlText support ++ "\">" ++
    htmlText support ++ "</a>.</p>\n" ++
    "<p>&copy; " ++ Decimal.intText c.currentYear ++ " " ++ htmlText product ++
    ". All rights reserved.</p>"

/-- What a slot holds in the HTML document. -/
def htmlSlot (c : Context) (product support : String) : Slot → String
  | .title => htmlText product ++ " " ++ c.branch.heading
  | .logo =>
    match c.logoUrl with
    | none => ""
    | some url =>
      "<img src=\"" ++ htmlText url ++ "\" alt=\"" ++ htmlText product ++ " logo\" class=\"logo\">"
  | .statusBanner =>
    "<div class=\"status-banner " ++ c.branch.cssClass ++ "\">" ++ c.branch.banner ++ "</div>"
  | .greeting =>
    "<p>Dear " ++ htmlText c.recipientName ++ ",</p>\n<p>" ++
      c.branch.sentence (htmlText product) ++ "</p>"
  | .jobDetails => htmlDetails c
  | .stages =>
    match c.stages with
    | none => ""
    | some stages => htmlStages stages
  | .branchContent =>
    match c.outcome with
    | .success => "<p>Your results include:</p>\n" ++ htmlList artifacts
    | .failure message =>
      (match message with
        | none => ""
        | some m => htmlError m) ++ "<p>Troubleshooting tips:</p>\n" ++ htmlList tips
  | .action =>
    "<div class=\"button-container\"><a href=\"" ++ htmlText c.links.submissionUrl ++
      "\" class=\"button\">" ++ c.branch.action ++ "</a></div>"
  | .footer => htmlFooter c product support

/-! ### Plain text -/

/-- A list of items. -/
def textList (items : List String) : String :=
  "\n".intercalate (items.map ("  - " ++ ·))

def textDetails (c : Context) : String :=
  "\n".intercalate ((("Job ID:", c.jobId) :: detailRows c).map fun r => r.1 ++ " " ++ r.2)

/-- The stages of a list, numbered from `number`. -/
def textStagesFrom (number : Nat) : List Job.Stage → String
  | [] => ""
  | s :: rest =>
    "\n  " ++ Decimal.natText number ++ ". " ++ s.line ++ textStagesFrom (number + 1) rest

def textError (message : String) : String := "Error details:\n" ++ message ++ "\n\n"

def textFooter (c : Context) (product support : String) : String :=
  "Documentation: " ++ c.links.docsUrl ++ "\n" ++ product ++ ": " ++ c.links.baseUrl ++
    "\nSupport: " ++ support ++ "\n(c) " ++ Decimal.intText c.currentYear ++ " " ++ product ++
    ". All rights reserved."

/-- What a slot holds in the plain text. -/
def textSlot (c : Context) (product support : String) : Slot → String
  | .title => product ++ " " ++ c.branch.heading
  | .logo => ""
  | .statusBanner => "Result: " ++ c.branch.banner
  | .greeting => "Dear " ++ c.recipientName ++ ",\n\n" ++ c.branch.sentence product
  | .jobDetails => textDetails c
  | .stages =>
    match c.stages with
    | none => ""
    | some stages => "Stages:" ++ textStagesFrom 1 stages
  | .branchContent =>
    match c.outcome with
    | .success => "Your results include:\n" ++ textList artifacts
    | .failure message =>
      (match message with
        | none => ""
        | some m => textError m) ++ "Troubleshooting tips:\n" ++ textList tips
  | .action => c.branch.action ++ ": " ++ c.links.submissionUrl
  | .footer => textFooter c product support

/-! ### Documents -/

/-- What is delivered. -/
structure Document where
  branch : Branch
  /-- Plain text on one line. -/
  subject : String
  statusText : String
  html : String
  text : String
  deriving DecidableEq

/-- A header has to stay on one line, so every control character becomes a blank. -/
def oneLine (s : List Char) : List Char := s.map fun c => if Text.isControl c then ' ' else c

def subjectLine (c : Context) (product : String) : String :=
  String.ofList (oneLine
    ("[" ++ product ++ "] Job " ++ c.jobId ++ " " ++ c.branch.summary).toList)

/-- The documents of a context; they can only fail where a layout depends on values. -/
def render (t : Template) (c : Context) : Except LayoutError Document := do
  let html ← t.fill .html (htmlSlot c t.product t.support)
  let text ← t.fill .text (textSlot c t.product t.support)
  .ok { branch := c.branch, subject := subjectLine c t.product, statusText := c.statusText,
        html, text }

end JobNotice.Notice
