import JobNotice.Command.Usage

/-!
# What the program is asked to do

The program renders a notification, sends one, or checks the layouts. Before the command stand the
path of the settings, which an environment variable may also name, and the level of the log.

## Main definitions

* `Command.Input`, `Command.Selection`, `Command.Request` — the commands
* `Command.Invocation`, `Command.Invocation.ofWords` — a command line and how it is read
-/

namespace JobNotice.Command

/-- The file that holds a job record or, with `raw`, attributes. -/
structure Input where
  path : String
  raw : Bool
  deriving DecidableEq

/-- The texts of a document that are wanted. -/
inductive Selection
  | html
  | text
  | both
  deriving DecidableEq

inductive Request
  | render (input : Input) (selection : Selection) (folder : Option String)
  | send (input : Input) (recipient : Option String) (isDry : Bool)
  | checkTemplates
  deriving DecidableEq

structure Invocation where
  settingsPath : String
  logLevel : Option String
  request : Request
  deriving DecidableEq

/-! ### The levels -/

def isPath (s : String) : Bool := !s.isEmpty

def selections : List (String × Selection) := [("html", .html), ("text", .text), ("both", .both)]

def selectionOf? (s : String) : Option Selection := (selections.find? fun p => p.1 = s).map (·.2)

def helpChoice : Choice := ⟨"help", some 'h', .stop .help⟩

def rawChoice : Choice := ⟨"raw", none, .switch⟩

def programLevel : Level where
  options :=
    [⟨"config", some 'c', .value isPath⟩, ⟨"log-level", some 'l', .value fun _ => true⟩,
      helpChoice, ⟨"version", some 'V', .stop .version⟩]
  argument := none
  commands := ["render", "send", "check-templates", "help"]

def renderLevel : Level where
  options :=
    [rawChoice, ⟨"format", some 'f', .value fun s => (selectionOf? s).isSome⟩,
      ⟨"output-dir", some 'o', .value isPath⟩, helpChoice]
  argument := some ("input", isPath)
  commands := []

def sendLevel : Level where
  options :=
    [rawChoice, ⟨"to", none, .value fun _ => true⟩, ⟨"dry-run", none, .switch⟩, helpChoice]
  argument := some ("input", isPath)
  commands := []

def checkLevel : Level where
  options := [helpChoice]
  argument := none
  commands := []

/-! ### Reading a command line -/

def valueOf (found : Values) (name : String) : Option String :=
  (found.find? fun p => p.1 = name).map (·.2)

/-- The values of the last level of a command line. -/
def readLast (l : Level) (words : List String) : Except Stop Values := do
  let (s, _) ← l.scan false ⟨[], none⟩ words
  .ok (← s.settle).found

def readInput (found : Values) : Except Stop Input :=
  match valueOf found "input" with
  | some path => .ok ⟨path, (valueOf found "raw").isSome⟩
  | none => .error .noArgument

/-- Help is asked for on the program or on one of its commands. -/
def readHelp : List String → Stop
  | [] => .help
  | [word] => if programLevel.commands.contains word then .help else .unknownCommand
  | _ => .unknownCommand

/-- A command and its words. -/
def readRequest (command : String) (words : List String) : Except Stop Request :=
  match command with
  | "render" => do
    let found ← readLast renderLevel words
    let input ← readInput found
    let selection := ((valueOf found "format").bind selectionOf?).getD .html
    .ok (.render input selection (valueOf found "output-dir"))
  | "send" => do
    let found ← readLast sendLevel words
    let input ← readInput found
    .ok (.send input (valueOf found "to") (valueOf found "dry-run").isSome)
  | "check-templates" => do
    let _ ← readLast checkLevel words
    .ok .checkTemplates
  | _ => .error (readHelp words)

/-- The path of the settings when nothing names another. -/
def presetSettingsPath : String := "sivacor-notify.toml"

/-- The environment variable that names the settings. -/
def settingsVariable : String := "SIVACOR_NOTIFY_CONFIG"

/-- The name of the program and its version. -/
def versionText : String := "sivacor-notify 0.1.0"

/-- The invocation of a command line, `environment` being the value of `settingsVariable`. The words
after a command are read before the values in front of it are judged. -/
def Invocation.ofWords (environment : Option String) (words : List String) :
    Except Stop Invocation := do
  let (s, command) ← programLevel.scan false ⟨[], none⟩ words
  let request ← match command with
    | some (name, rest) => (readRequest name rest).map some
    | none => .ok none
  let s ← s.settle
  let s ← match environment with
    | some path => if s.has "config" then .ok s else s.take "config" path (isPath path)
    | none => .ok s
  match request with
  | some request =>
    .ok
      { settingsPath := (valueOf s.found "config").getD presetSettingsPath
        logLevel := valueOf s.found "log-level"
        request }
  | none => .error (if s.found.isEmpty then .nothing else .noCommand)

end JobNotice.Command
