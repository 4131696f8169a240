import JobNotice.Notice.Document

/-!
# Preparing and delivering notifications

A service turns job records and maps of attributes into documents and hands finished documents to
a sender. Nothing is sent before a document is complete. The clock is given with every operation
that needs the year; what a sender has sent so far is its only state.

## Main definitions

* `Notice.NoticeError` — what can go wrong on the way
* `Notice.Service`, `Service.prepare`, `Service.renderAttributes`
* `Notice.Sender` — a sender that keeps what it sent
* `Notice.Operation`, `Notice.Service.perform`, `Notice.Service.performAll` — runs of a service
-/

namespace JobNotice.Notice

open Json (Members)
open Job (Record Defaults NotFinished)
open Layout (Template LayoutError)

/-- What can go wrong between a job record and the delivery of its notification. -/
inductive NoticeError
  | invalid (report : Report)
  | layout (e : LayoutError)
  | notFinished (e : NotFinished)
  | delivery (reason : String)

def NoticeError.message : NoticeError → String
  | .invalid report => report.message
  | .layout e => e.message
  | .notFinished e => e.message
  | .delivery reason => "failed to deliver notification: " ++ reason

/-- A template and what all notifications share. -/
structure Service where
  template : Template
  defaults : Defaults

namespace Service

/-- The document of a map of attributes. -/
def renderAttributes (s : Service) (attributes : Members) : Except NoticeError Document :=
  match Context.ofAttributes attributes with
  | .error report => .error (.invalid report)
  | .ok context =>
    match render s.template context with
    | .error e => .error (.layout e)
    | .ok document => .ok document

/-- The document of a finished job at a point of time. -/
def prepare (s : Service) (now : Calendar.Instant) (job : Record) : Except NoticeError Document :=
  match job.attributes s.defaults now with
  | .error e => .error (.notFinished e)
  | .ok attributes => s.renderAttributes attributes

end Service

/-! ### Senders -/

/-- A sender that keeps what it sent, in order. -/
structure Sender where
  /-- Whether the sender only says what it would send. -/
  dry : Bool
  sent : List (String × Document)
  /-- The reason for which every delivery fails at present. -/
  broken : Option String

namespace Sender

/-- A sender that has not sent anything. -/
def fresh (dry : Bool) : Sender := ⟨dry, [], none⟩

/-- Sends a document, or refuses to. -/
def send (s : Sender) (recipient : String) (document : Document) :
    Except NoticeError Unit × Sender :=
  if s.dry then (.ok (), s)
  else
    match s.broken with
    | some reason => (.error (.delivery reason), s)
    | none => (.ok (), { s with sent := s.sent ++ [(recipient, document)] })

end Sender

/-! ### Runs -/

/-- What a service is asked to do. -/
inductive Operation
  | prepare (now : Calendar.Instant) (job : Record)
  | render (attributes : Members)
  | notify (now : Calendar.Instant) (job : Record)
  | notifyBestEffort (now : Calendar.Instant) (job : Record)
  | deliver (recipient : String) (document : Document)
  /-- The sender stops working, for a reason, or works again. -/
  | break (reason : Option String)

/-- What an operation answers. -/
inductive Answer
  | document (result : Except NoticeError Document)
  | delivered (result : Except NoticeError Unit)
  | bestEffort (delivered : Bool)
  | done

namespace Service

/-- Sends the document of a job to its owner. -/
def notify (s : Service) (sender : Sender) (now : Calendar.Instant) (job : Record) :
    Except NoticeError Document × Sender :=
  match s.prepare now job with
  | .error e => (.error e, sender)
  | .ok document =>
    match sender.send job.owner.email document with
    | (.error e, sender) => (.error e, sender)
    | (.ok (), sender) => (.ok document, sender)

/-- Sends the document of a job and only tells whether that worked. -/
def notifyBestEffort (s : Service) (sender : Sender) (now : Calendar.Instant) (job : Record) :
    Bool × Sender :=
  match s.notify sender now job with
  | (.ok _, sender) => (true, sender)
  | (.error _, sender) => (false, sender)

def perform (s : Service) (sender : Sender) : Operation → Answer × Sender
  | .prepare now job => (.document (s.prepare now job), sender)
  | .render attributes => (.document (s.renderAttributes attributes), sender)
  | .notify now job =>
    let (result, sender) := s.notify sender now job
    (.document result, sender)
  | .notifyBestEffort now job =>
    let (result, sender) := s.notifyBestEffort sender now job
    (.bestEffort result, sender)
  | .deliver recipient document =>
    let (result, sender) := sender.send recipient document
    (.delivered result, sender)
  | .break reason => (.done, { sender with broken := reason })

/-- The answers of operations one after the other, and the sender after them. -/
def performAll (s : Service) (sender : Sender) : List Operation → List Answer × Sender
  | [] => ([], sender)
  | op :: rest =>
    let (answer, sender) := s.perform sender op
    let (answers, sender) := s.performAll sender rest
    (answer :: answers, sender)

end Service

end JobNotice.Notice
