import JobNotice.Command.Invocation
import JobNotice.Mail.Delivery
import JobNotice.Settings.Reading

/-!
# Carrying out commands

A command loads the settings and the template, reads its input and makes a document of it. What it
prints and whether it succeeds is its outcome; files are read and written through a disk, and
documents are posted through a relay.

## Main definitions

* `Command.RunError` — what can go wrong
* `Command.Surroundings`, `Command.Outcome` — what a command needs, and what comes of it
* `Command.render`, `Command.send`, `Command.checkTemplates`
* `Command.loadSettings`, `Command.run`
-/

namespace JobNotice.Command

open Json (Members)
open Layout (Format LayoutError)
open Notice (Document NoticeError Service)

/-! ### Errors -/

/-- What can go wrong when a command is carried out. -/
inductive RunError
  | unreadableSettings (path : String)
  | badSettings
  | badTemplates (why : LayoutError)
  | badOffset (why : Settings.OffsetError)
  | unreadableInput (path : String)
  | noAttributes
  | noRecord
  | notice (why : NoticeError)
  | noFolder (folder : String)
  | notWritten (path : String)
  | noMail
  | noRecipient
  | checkFailed

def RunError.message : RunError → String
  | .unreadableSettings path => "Failed to read config file: " ++ path
  | .badSettings => "Failed to parse configuration file"
  | .badTemplates _ => "Failed to load notification templates"
  | .badOffset why => why.message
  | .unreadableInput path => "Failed to read input file: " ++ path
  | .noAttributes => "Input must be a JSON object"
  | .noRecord => "Failed to parse job record"
  | .notice why => why.message
  | .noFolder folder => "Failed to create output directory: " ++ folder
  | .notWritten path => "Failed to write " ++ path
  | .noMail =>
    "Email is not configured. Set [email] smtp_host and from_address, or use --dry-run."
  | .noRecipient => "--to is required when sending a raw attribute map"
  | .checkFailed => "Invalid notification templates"

/-- Whether the program stops at once, and reports nothing. -/
def RunError.isStop : RunError → Bool
  | .badOffset (.overflow _) => true
  | _ => false

/-- What a command needs: an engine for layouts, files, the time, a boundary for messages, and a
relay that takes posts or says why it does not. -/
structure Surroundings (m : Type → Type) where
  engine : Layout.Engine
  disk : Files.Disk m
  now : Calendar.Instant
  boundary : String
  relay : Mail.Post → m (Except String Unit)

/-- What comes of a command. -/
structure Outcome where
  printed : String
  result : Except RunError Unit

def Outcome.ok (printed : String) : Outcome := ⟨printed, .ok ()⟩

def Outcome.failed (e : RunError) : Outcome := ⟨"", .error e⟩

/-- The exit code tells success from failure, and a failure from a stop. -/
def Outcome.exitCode (o : Outcome) : Nat :=
  match o.result with
  | .ok () => 0
  | .error e => if e.isStop then 101 else 1

variable {m : Type → Type} [Monad m]

/-! ### Loading -/

/-- The settings of a file; without the file all settings have their preset values. -/
def loadSettings (disk : Files.Disk m) (path : String) : m (Except RunError Settings) := do
  if ← disk.isThere path then
    match ← disk.read path with
    | .error _ => return .error (.unreadableSettings path)
    | .ok text =>
      match Settings.ofText text with
      | .error _ => return .error .badSettings
      | .ok s => return .ok s
  else return .ok {}

/-- The service that the settings describe. -/
def loadService (engine : Layout.Engine) (disk : Files.Disk m) (s : Settings) :
    m (Except RunError Service) := do
  match ← s.loadTemplate engine disk with
  | .error e => return .error (.badTemplates e)
  | .ok template =>
    match s.defaults with
    | .error e => return .error (.badOffset e)
    | .ok defaults => return .ok ⟨template, defaults⟩

/-- What an input file holds. -/
inductive Loaded
  | job (record : Job.Record)
  | attributes (members : Members)

def loadInput (disk : Files.Disk m) (input : Input) : m (Except RunError Loaded) := do
  match ← disk.read input.path with
  | .error _ => return .error (.unreadableInput input.path)
  | .ok text =>
    if input.raw then
      match Members.ofText text with
      | .error _ => return .error .noAttributes
      | .ok members => return .ok (.attributes members)
    else
      match Job.Record.ofText text with
      | .error _ => return .error .noRecord
      | .ok record => return .ok (.job record)

/-- The document of an input. -/
def Loaded.document (service : Service) (now : Calendar.Instant) :
    Loaded → Except NoticeError Document
  | .job record => service.prepare now record
  | .attributes members => service.renderAttributes members

/-! ### Rendering -/

def line (s : String) : String := s ++ "\n"

/-- The texts of a document that are wanted, after its subject. -/
def printed (selection : Selection) (d : Document) : String :=
  line ("Subject: " ++ d.subject) ++ line "" ++
    match selection with
    | .html => line d.html
    | .text => line d.text
    | .both =>
      line d.text ++ line (String.ofList (List.replicate 72 '-')) ++ line d.html

/-- The files of a document's wanted texts. -/
def filesOf (selection : Selection) (folder : String) (d : Document) : List (String × String) :=
  let html := (Files.join folder Format.html.fileName, d.html)
  let text := (Files.join folder Format.text.fileName, d.text)
  match selection with
  | .html => [html]
  | .text => [text]
  | .both => [html, text]

/-- Writes files one after the other, up to the first that cannot be written. -/
def writeAll (disk : Files.Disk m) : List (String × String) → m (Except RunError Unit)
  | [] => return .ok ()
  | (path, text) :: rest => do
    match ← disk.write path text with
    | .error _ => return .error (.notWritten path)
    | .ok () => writeAll disk rest

/-- Writes the wanted texts of a document into a folder. -/
def writeDocument (disk : Files.Disk m) (selection : Selection) (folder : String) (d : Document) :
    m Outcome := do
  match ← disk.createFolders folder with
  | .error _ => return .failed (.noFolder folder)
  | .ok () =>
    let files := filesOf selection folder d
    match ← writeAll disk files with
    | .error e => return .failed e
    | .ok () => return .ok (String.join (files.map fun f => line ("Wrote " ++ f.1)))

def render (around : Surroundings m) (settings : Settings) (input : Input) (selection : Selection)
    (folder : Option String) : m Outcome := do
  match ← loadService around.engine around.disk settings with
  | .error e => return .failed e
  | .ok service =>
    match ← loadInput around.disk input with
    | .error e => return .failed e
    | .ok loaded =>
      match loaded.document service around.now with
      | .error e => return .failed (.notice e)
      | .ok d =>
        match folder with
        | none => return .ok (printed selection d)
        | some folder => writeDocument around.disk selection folder d

/-! ### Sending -/

/-- Posts a document, or does as if it had in a dry run. -/
def deliver (around : Surroundings m) (settings : Settings) (isDry : Bool) (recipient : String)
    (d : Document) : m (Except NoticeError Unit) := do
  if isDry then return .ok ()
  else
    match Mail.Post.prepare settings.email around.boundary around.now recipient d with
    | .error p => return .error p.toNoticeError
    | .ok post =>
      match ← around.relay post with
      | .error reason => return .error (.delivery reason)
      | .ok () => return .ok ()

/-- The recipient of an input and what is said when its notification has been sent. The owner of a
job is its recipient when no other is named. -/
def Loaded.addressed (to? : Option String) : Loaded → Except RunError (Loaded × String × String)
  | .job record =>
    let email := to?.getD record.owner.email
    .ok (.job { record with owner := { record.owner with email } }, email,
      "[OK] Notification for job " ++ record.id ++ " sent to " ++ email)
  | .attributes members =>
    match to? with
    | none => .error .noRecipient
    | some email => .ok (.attributes members, email, "[OK] Notification sent to " ++ email)

def send (around : Surroundings m) (settings : Settings) (input : Input) (to? : Option String)
    (isDry : Bool) : m Outcome := do
  if !isDry && !settings.email.isConfigured then return .failed .noMail
  else
    match ← loadService around.engine around.disk settings with
    | .error e => return .failed e
    | .ok service =>
      match ← loadInput around.disk input with
      | .error e => return .failed e
      | .ok loaded =>
        match loaded.addressed to? with
        | .error e => return .failed e
        | .ok (loaded, recipient, done) =>
          match loaded.document service around.now with
          | .error e => return .failed (.notice e)
          | .ok d =>
            match ← deliver around settings isDry recipient d with
            | .error e => return .failed (.notice e)
            | .ok () => return .ok (line done)

/-! ### Checking -/

/-- Says whether the template can be loaded, and for whom it is. -/
def checkTemplates (around : Surroundings m) (settings : Settings) : m Outcome := do
  let heading := line ("Checking notification templates: " ++
    settings.templates.folder.getD "built-in") ++ line ""
  match ← settings.loadTemplate around.engine around.disk with
  | .ok t =>
    return .ok (heading ++ line "[OK] Templates are valid!" ++ line "" ++
      line ("  Product:       " ++ t.product) ++ line ("  Support email: " ++ t.support) ++ line "")
  | .error e =>
    return ⟨heading ++ line "[!!] Templates are invalid!" ++ line "" ++
      line ("Error: " ++ e.message) ++ line "", .error .checkFailed⟩

/-! ### Commands -/

def runRequest (around : Surroundings m) (settings : Settings) : Request → m Outcome
  | .render input selection folder => render around settings input selection folder
  | .send input to? isDry => send around settings input to? isDry
  | .checkTemplates => checkTemplates around settings

/-- Loads the settings and carries out the command. -/
def run (around : Surroundings m) (i : Invocation) : m Outcome := do
  match ← loadSettings around.disk i.settingsPath with
  | .error e => return .failed e
  | .ok settings => runRequest around settings i.request

end JobNotice.Command
