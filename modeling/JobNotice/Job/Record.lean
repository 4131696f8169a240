import JobNotice.Calendar.Rfc3339
import JobNotice.Json.Decode
import JobNotice.Json.Printer

/-!
# Job records

A job record is what the tracker reports when a job changes its state: who submitted the job, the
stages it ran, when it was created and last updated, and its status. Records are read from JSON in
either form of a record and written as objects with their members in order of declaration.

## Main definitions

* `Job.Status`, `Job.Owner`, `Job.Stage`, `Job.Record`
* `Job.Record.ofText` — the record of a JSON text
* `Job.Record.toJson` — the record as a JSON value
-/

namespace JobNotice.Job

open Json (Node Reading ReadError Value Members)

/-! ### Status -/

/-- The states of a job. -/
inductive Status
  | inactive
  | queued
  | running
  | success
  | error
  | cancelled
  deriving DecidableEq, Inhabited

namespace Status

def all : List Status := [.inactive, .queued, .running, .success, .error, .cancelled]

/-- A job that has come to its end, in whatever way. -/
def isFinished : Status → Bool
  | .success | .error | .cancelled => true
  | .inactive | .queued | .running => false

/-- The name of a state in job records. -/
def name : Status → String
  | .inactive => "inactive"
  | .queued => "queued"
  | .running => "running"
  | .success => "success"
  | .error => "error"
  | .cancelled => "cancelled"

/-- What people are told about a state. -/
def label : Status → String
  | .inactive => "Inactive"
  | .queued => "Queued"
  | .running => "Running"
  | .success => "Completed"
  | .error => "Failed"
  | .cancelled => "Cancelled"

def read : Node → Reading Status := Node.readVariant (all.map fun s => (s.name, s))

end Status

/-- A field that holds a string. -/
def readString : Node → Reading String := Node.readString "a string"

/-! ### Owner -/

/-- Who submitted the job. -/
structure Owner where
  firstName : String
  lastName : String
  email : String
  deriving DecidableEq, Inhabited

inductive OwnerField
  | firstName
  | lastName
  | email
  deriving DecidableEq

namespace Owner

/-- First and last name, trimmed, with a blank between them if neither is blank. -/
def fullName (o : Owner) : String :=
  Text.trim (Text.trim o.firstName ++ " " ++ Text.trim o.lastName)

def schema : Json.Schema OwnerField where
  title := "JobOwner"
  fields := [.firstName, .lastName, .email]
  name
    | .firstName => "first_name"
    | .lastName => "last_name"
    | .email => "email"
  Value _ := String
  read _ := readString
  absent _ := none
  beyond _ := none

def read (node : Node) : Reading Owner := do
  let d ← schema.read? node
  .ok ⟨← d.need .firstName, ← d.need .lastName, ← d.need .email⟩

def toJson (o : Owner) : Value :=
  .object [("first_name", .string o.firstName), ("last_name", .string o.lastName),
    ("email", .string o.email)]

end Owner

/-! ### Stages -/

/-- A step of a job: the file that was run and the container image it ran in. -/
structure Stage where
  mainFile : String
  imageName : String
  imageTag : String
  deriving DecidableEq, Inhabited

inductive StageField
  | mainFile
  | imageName
  | imageTag
  deriving DecidableEq

namespace Stage

/-- The line that shows a stage: `main.do - image:tag`. -/
def line (s : Stage) : String := s.mainFile ++ " - " ++ s.imageName ++ ":" ++ s.imageTag

def schema : Json.Schema StageField where
  title := "StageSpec"
  fields := [.mainFile, .imageName, .imageTag]
  name
    | .mainFile => "main_file"
    | .imageName => "image_name"
    | .imageTag => "image_tag"
  Value _ := String
  read _ := readString
  absent _ := none
  beyond _ := none

def read (node : Node) : Reading Stage := do
  let d ← schema.read? node
  .ok ⟨← d.need .mainFile, ← d.need .imageName, ← d.need .imageTag⟩

def toJson (s : Stage) : Value :=
  .object [("main_file", .string s.mainFile), ("image_name", .string s.imageName),
    ("image_tag", .string s.imageTag)]

end Stage

/-! ### Records -/

/-- A job as the tracker reports it. -/
structure Record where
  id : String
  status : Status
  created : Option Calendar.Instant
  updated : Option Calendar.Instant
  owner : Owner
  stages : List Stage
  errorMessage : Option String
  deriving DecidableEq

inductive RecordField
  | id
  | status
  | created
  | updated
  | owner
  | stages
  | errorMessage
  deriving DecidableEq

/-- A timestamp. -/
def readInstant (node : Node) : Reading Calendar.Instant := do
  let s ← node.readString "an RFC 3339 formatted date and time string"
  match Calendar.Instant.ofText s with
  | .ok t => .ok t
  | .error e => .error (.mismatch (.unusable e.message))

namespace RecordField

/-- The type of a field's values. -/
def Value : RecordField → Type
  | .id => String
  | .status => Status
  | .created => Option Calendar.Instant
  | .updated => Option Calendar.Instant
  | .owner => Owner
  | .stages => List Stage
  | .errorMessage => Option String

def read : (f : RecordField) → Node → Reading f.Value
  | .id => readString
  | .status => Status.read
  | .created => Node.readOption readInstant
  | .updated => Node.readOption readInstant
  | .owner => Owner.read
  | .stages => Node.readList Stage.read
  | .errorMessage => Node.readOption readString

/-- Timestamps, stages and the error message may be absent from an object. -/
def absent : (f : RecordField) → Option f.Value
  | .created => some none
  | .updated => some none
  | .stages => some []
  | .errorMessage => some none
  | .id | .status | .owner => none

/-- An array may end before the stages. -/
def beyond : (f : RecordField) → Option f.Value
  | .stages => some []
  | .errorMessage => some none
  | .id | .status | .created | .updated | .owner => none

end RecordField

namespace Record

def schema : Json.Schema RecordField where
  title := "JobRecord"
  fields := [.id, .status, .created, .updated, .owner, .stages, .errorMessage]
  name
    | .id => "id"
    | .status => "status"
    | .created => "created"
    | .updated => "updated"
    | .owner => "owner"
    | .stages => "stages"
    | .errorMessage => "error_message"
  Value := RecordField.Value
  read := RecordField.read
  absent := RecordField.absent
  beyond := RecordField.beyond

def read (node : Node) : Reading Record := do
  let d ← schema.read? node
  .ok {
    id := ← d.need .id
    status := ← d.need .status
    created := ← d.need .created
    updated := ← d.need .updated
    owner := ← d.need .owner
    stages := ← d.need .stages
    errorMessage := ← d.need .errorMessage }

/-- The record that a JSON text holds. -/
def ofText : String → Reading Record := Json.readText read

def toJson (r : Record) : Value :=
  .object [
    ("id", .string r.id),
    ("status", .string r.status.name),
    ("created", .ofString? (r.created.map Calendar.Instant.text)),
    ("updated", .ofString? (r.updated.map Calendar.Instant.text)),
    ("owner", r.owner.toJson),
    ("stages", .array (r.stages.map Stage.toJson)),
    ("error_message", .ofString? r.errorMessage)]

/-- The JSON text of a record. -/
def text (r : Record) : String := r.toJson.compact

end Record

end JobNotice.Job
