import JobNotice.Calendar.Phrase
import JobNotice.Job.Record

/-!
# From a job record to the attributes of its notification

The attributes of a finished job are strings ready to be shown: timestamps in the display offset
and with its label, the time between creation and last update in words, the owner's full name.
Jobs that have not come to their end have no notification.

## Main definitions

* `Job.Defaults` — what every notification of a service shares
* `Job.NotFinished` — the refusal of an unfinished job
* `Job.Record.attributes`
-/

namespace JobNotice.Job

open Json (Value Members)

/-- The links of every notification. -/
structure Links where
  submissionUrl : String
  docsUrl : String
  baseUrl : String
  deriving DecidableEq, Inhabited

def Links.toJson (links : Links) : Value :=
  .object [("submission_url", .string links.submissionUrl), ("docs_url", .string links.docsUrl),
    ("base_url", .string links.baseUrl)]

/-- What a service adds to the attributes of every job. -/
structure Defaults where
  links : Links
  logoUrl : Option String
  /-- The offset in which timestamps are shown. -/
  offset : Calendar.Offset
  /-- The name of that offset, shown after timestamps. -/
  label : String
  deriving DecidableEq, Inhabited

/-- An unfinished job and its status. -/
structure NotFinished where
  jobId : String
  status : Status
  deriving DecidableEq

def NotFinished.message (e : NotFinished) : String :=
  "job " ++ e.jobId ++ " is " ++ e.status.name ++
    "; notifications are only sent for finished jobs"

namespace Record

/-- The time from creation to the last update in words; none when a timestamp is missing or the
update lies before the creation. -/
def executionTime (r : Record) : Option String :=
  match r.created, r.updated with
  | some start, some finish =>
    if finish.before start then none else some (Calendar.phrase (start.elapsed finish))
  | _, _ => none

/-- The attributes of a finished job; the clock only gives the year of the copyright line. -/
def attributes (r : Record) (defaults : Defaults) (now : Calendar.Instant) :
    Except NotFinished Members :=
  if r.status.isFinished then
    let display (t : Calendar.Instant) : String := t.display defaults.offset defaults.label
    .ok [
      ("recipient_name", .string r.owner.fullName),
      ("job_id", .string r.id),
      ("is_success", .bool (r.status = .success)),
      ("status_text", .string r.status.label),
      ("submission_time", .ofString? (r.created.map display)),
      ("completion_time", .ofString? (r.updated.map display)),
      ("execution_time", .ofString? r.executionTime),
      ("error_message", .ofString? r.errorMessage),
      ("stages", .array (r.stages.map Stage.toJson)),
      ("links", Links.toJson defaults.links),
      ("branding", .object [("logo_url", .ofString? defaults.logoUrl)]),
      ("current_year", .number (.whole now.year))]
  else .error ⟨r.id, r.status⟩

end Record

end JobNotice.Job
