import JobNotice.Command.Run
import Std.Time.DateTime.Timestamp

/-!
# The program

The command line is carried out on the machine's files and clock. What a command prints goes to
standard output, the message of a failure to standard error after `Error: `. The layouts are filled
in the environment of the program. No connection to a mail server is opened: the relay refuses every
post.

## Main definitions

* `Program.disk`, `Program.surroundings` — the machine as commands see it
* `main`
-/

namespace JobNotice.Program

open Files (FileError)

/-! ### Files -/

/-- The reason that the machine gives. -/
def fileError : IO.Error → FileError
  | .noFileOrDirectory .. => .missing
  | .alreadyExists .. => .occupied
  | .inappropriateType _ code _ => if code = 21 then .isFolder else .notFolder
  | e => .other (toString e)

def attempt {α : Type} (act : IO α) : IO (Except FileError α) := do
  try return .ok (← act) catch e => return .error (fileError e)

/-- A file is there unless opening it says that it is missing. -/
def isThere (path : String) : IO Bool := do
  match ← attempt (IO.FS.Handle.mk path .read) with
  | .ok _ => return true
  | .error .missing => return false
  | .error .notFolder => return false
  | .error _ => return true

def readText (path : String) : IO (Except FileError String) := do
  match ← attempt (IO.FS.readBinFile path) with
  | .error e => return .error e
  | .ok bytes =>
    match (Files.Content.bytes (bytes.toList.map fun b => b.toNat)).text? with
    | some s => return .ok s
    | none => return .error .notText

/-- The files of the machine. -/
def disk : Files.Disk IO where
  isThere := isThere
  read := readText
  createFolders path := attempt (IO.FS.createDirAll path)
  write path text := attempt (IO.FS.writeFile path text)

/-! ### Surroundings -/

/-- The time of the machine's clock. -/
def readClock : IO Calendar.Instant := do
  let nanos := (← Std.Time.Timestamp.now).toNanosecondsSinceUnixEpoch.val
  let seconds := nanos / Calendar.nanosPerSecond
  let instant? := Calendar.Instant.ofParts? (seconds / 86400) (seconds % 86400).toNat
    (nanos % Calendar.nanosPerSecond).toNat
  return instant?.getD default

def alphanumerics : List Char :=
  "ABCDEFGHIJKLMNOPQRSTUVWXYZabcdefghijklmnopqrstuvwxyz0123456789".toList

/-- Forty letters and digits that no text is likely to hold. -/
def drawBoundary : IO String := do
  let cs ← (List.range 40).mapM fun _ => do
    let i ← IO.rand 0 (alphanumerics.length - 1)
    return (alphanumerics[i]?).getD '0'
  return String.ofList cs

/-- The file in which the machine lists the environment variables of a program. -/
def environmentFile : String := "/proc/self/environ"

/-- The name and the value of a variable. -/
def assignment? (entry : List Char) : Option (String × String) :=
  match entry.dropWhile (· != '=') with
  | _ :: value => some (String.ofList (entry.takeWhile (· != '=')), String.ofList value)
  | [] => none

/-- The environment variables; none where the machine does not list them. -/
def readEnvironment : IO Layout.Environment := do
  match ← readText environmentFile with
  | .ok text => return (Text.splitChars '\x00' text.toList).filterMap assignment?
  | .error _ => return []

def surroundings : IO (Command.Surroundings IO) := do
  return {
    engine := .standard (← readEnvironment)
    disk
    now := ← readClock
    boundary := ← drawBoundary
    relay := fun _ => return .error "mail servers cannot be reached" }

/-! ### The command line -/

def usageText : String :=
  String.intercalate "\n"
    ["Usage: sivacor-notify [OPTIONS] <COMMAND>", "",
      "Commands:",
      "  render <INPUT> [--raw] [-f html|text|both] [-o <DIR>]",
      "  send <INPUT> [--raw] [--to <ADDRESS>] [--dry-run]",
      "  check-templates", "",
      "Options:",
      "  -c, --config <FILE>", "  -l, --log-level <LEVEL>", "  -h, --help", "  -V, --version"]

/-- Says what went wrong. A stop is no error that the program tells of. -/
def sayError (e : Command.RunError) : IO Unit :=
  IO.eprintln (if e.isStop then e.message else "Error: " ++ e.message)

/-- Says why the command line is not carried out; what was asked for goes to standard output. -/
def sayStop : Command.Stop → IO Unit
  | .help => IO.println usageText
  | .version => IO.println Command.versionText
  | _ => IO.eprintln usageText

end JobNotice.Program

/-- Carries out the command line; the exit code says what came of it. -/
def main (args : List String) : IO UInt32 := do
  let settings? ← IO.getEnv JobNotice.Command.settingsVariable
  match JobNotice.Command.Invocation.ofWords settings? args with
  | .error stop =>
    JobNotice.Program.sayStop stop
    return UInt32.ofNat stop.exitCode
  | .ok invocation =>
    let outcome ← JobNotice.Command.run (← JobNotice.Program.surroundings) invocation
    IO.print outcome.printed
    match outcome.result with
    | .ok () => pure ()
    | .error e => JobNotice.Program.sayError e
    return UInt32.ofNat outcome.exitCode
