import JobNotice.Files.Tree
import JobNotice.Layout.Eval

/-!
# Templates: a pair of layouts with slots

A notification is written twice, in HTML and in plain text. A template holds a layout for each
format. A layout prints named slots, and every slot that its format requires must really be
printed: the layout is filled once with a marker for each slot, and the markers are looked for.

Layouts are filled by an engine, which a template holds on to. What is said of templates is said of
every engine; the one of the language that is read here is `Engine.standard`.

## Main definitions

* `Layout.Slot`, `Layout.Format`, `Layout.Slot.requiredIn`
* `Layout.LayoutError` — why a template cannot be loaded or filled
* `Layout.Engine`, `Layout.Engine.standard` — what fills layouts
* `Layout.Template`, `Layout.Template.load`, `Layout.Template.ofSources` — a template from the texts of
  its layouts
* `Layout.Template.ofFolder` — a template from the files of its layouts
* `Layout.Template.fill` — a layout filled with the values of its slots
-/

namespace JobNotice.Layout

/-! ### Slots and formats -/

/-- The places of a notification that layouts print. -/
inductive Slot
  | title
  | logo
  | statusBanner
  | greeting
  | jobDetails
  | stages
  | branchContent
  | action
  | footer
  deriving DecidableEq

inductive Format
  | html
  | text
  deriving DecidableEq

namespace Format

def name : Format → String
  | .html => "html"
  | .text => "text"

/-- The name of a format's layout, as a file and for other layouts. -/
def fileName : Format → String
  | .html => "notification.html"
  | .text => "notification.txt"

end Format

namespace Slot

def all : List Slot :=
  [.title, .logo, .statusBanner, .greeting, .jobDetails, .stages, .branchContent, .action, .footer]

/-- The name that prints a slot. -/
def name : Slot → String
  | .title => "title"
  | .logo => "logo"
  | .statusBanner => "status_banner"
  | .greeting => "greeting"
  | .jobDetails => "job_details"
  | .stages => "stages"
  | .branchContent => "branch_content"
  | .action => "action"
  | .footer => "footer"

/-- Plain text has no place for an image. -/
def requiredIn (s : Slot) (f : Format) : Bool := !(s = .logo && f = .text)

/-- What a slot is filled with to see whether it is printed. -/
def marker (s : Slot) : String := "\x01slot:" ++ s.name ++ "\x01"

end Slot

/-! ### Errors -/

/-- Why a template cannot be loaded or filled. -/
inductive LayoutError
  /-- A layout cannot be read, or extends one that does not exist. -/
  | malformed
  | failed (format : Format) (base : Option String) (why : Failure)
  | missingSlot (format : Format) (slot : Slot)
  /-- A layout's file in a folder cannot be read. -/
  | unreadable (folder : String) (format : Format) (why : Files.FileError)

/-- Where the filling of a layout failed. -/
def failedPlace (format : Format) (base : Option String) : String :=
  "Failed to render '" ++ format.fileName ++ "'" ++
    (match base with
      | none => ""
      | some b => " (error happened in '" ++ b ++ "').")

def LayoutError.message : LayoutError → String
  | .malformed => "invalid layout syntax"
  | .failed format base why =>
    format.name ++ " layout failed to render: " ++ failedPlace format base ++ ": " ++ why.message
  | .missingSlot format slot =>
    format.name ++ " layout is missing required slot '" ++ slot.name ++ "'"
  | .unreadable folder format why =>
    "failed to read template " ++ Files.join folder format.fileName ++ ": " ++ why.message

/-! ### Engines -/

/-- What stopped the filling of a layout, and in which other layout that happened, if in another. -/
structure Breakdown where
  place : Option String
  why : Failure

/-- Two layouts as an engine fills them with the values of the slots. -/
abbrev Layouts := Format → (Slot → String) → Except Breakdown String

/-- What reads the texts of two layouts, the HTML layout first; none when they are malformed.

Layouts may ask for more than their slots: for environment variables, for the time, for numbers
drawn at random. An engine stands for the answers that they get in one run of the program, in which
no layout is filled twice with the same values. In another run the answers may be others. -/
abbrev Engine := (html text : String) → Option Layouts

/-- Whether two layouts extend layouts that exist, and not each other. -/
def basesExist (html text : Source) : Bool :=
  match html.base, text.base with
  | none, none => true
  | some b, none => b = Format.text.fileName
  | none, some b => b = Format.html.fileName
  | some _, some _ => false

/-- The values of the slots by their names. -/
def slotValues (value : Slot → String) : List (String × Json.Value) :=
  Slot.all.map fun s => (s.name, .string (value s))

/-- Two layouts that have been read. -/
structure Pair where
  html : Source
  text : Source
  /-- How deep nodes may be nested when the layouts are filled. -/
  depth : Nat

namespace Pair

def source (p : Pair) : Format → Source
  | .html => p.html
  | .text => p.text

/-- The layouts by their names. -/
def library (p : Pair) : Library :=
  [(Format.html.fileName, p.html), (Format.text.fileName, p.text)]

/-- The layouts that two texts hold. -/
def ofTexts? (html text : String) : Option Pair :=
  match Source.ofChars? html.toList, Source.ofChars? text.toList with
  | some h, some x =>
    if basesExist h x then some ⟨h, x, 8 * (html.length + text.length) + 64⟩ else none
  | _, _ => none

/-- A layout filled in an environment. -/
def fill (p : Pair) (environment : Environment) : Layouts := fun format value =>
  match Layout.fill p.library p.depth format.fileName (slotValues value) environment with
  | .ok cs => .ok (String.ofList cs)
  | .error e => .error ⟨(p.source format).base, e⟩

end Pair

/-- The engine of the language that is read here, in an environment. It draws no numbers and does
not know the time. -/
def Engine.standard (environment : Environment) : Engine := fun html text =>
  (Pair.ofTexts? html text).map fun p => p.fill environment

/-! ### Templates -/

/-- Two layouts and what is the same in every notification. -/
structure Template where
  layouts : Layouts
  product : String
  support : String

namespace Template

/-- A layout filled with the values of its slots. -/
def fill (t : Template) (format : Format) (value : Slot → String) : Except LayoutError String :=
  match t.layouts format value with
  | .ok s => .ok s
  | .error b => .error (.failed format b.place b.why)

/-- The first slot that a format requires and a text does not show. -/
def missingSlot? (format : Format) (filled : String) : Option Slot :=
  Slot.all.find? fun s => s.requiredIn format && !Text.isInfix s.marker.toList filled.toList

/-- Whether a layout prints every slot that its format requires, and nothing unknown. -/
def checkSlots (t : Template) (format : Format) : Except LayoutError Unit := do
  let filled ← t.fill format Slot.marker
  match missingSlot? format filled with
  | none => .ok ()
  | some s => .error (.missingSlot format s)

/-- A template once both of its layouts have been checked. -/
def checked (t : Template) : Except LayoutError Template := do
  t.checkSlots .html
  t.checkSlots .text
  .ok t

/-- A template from the texts of its layouts, both checked. -/
def load (engine : Engine) (html text product support : String) : Except LayoutError Template :=
  match engine html text with
  | none => .error .malformed
  | some layouts => checked ⟨layouts, product, support⟩

/-- A template from the texts of its layouts, in an environment without variables. -/
def ofSources (html text product support : String) : Except LayoutError Template :=
  load (.standard []) html text product support

/-- A template from the files of its layouts in a folder. -/
def ofFolder {m : Type → Type} [Monad m] (engine : Engine) (disk : Files.Disk m)
    (folder product support : String) : m (Except LayoutError Template) := do
  match ← disk.read (Files.join folder Format.html.fileName) with
  | .error e => return .error (.unreadable folder .html e)
  | .ok html =>
    match ← disk.read (Files.join folder Format.text.fileName) with
    | .error e => return .error (.unreadable folder .text e)
    | .ok text => return load engine html text product support

end Template

end JobNotice.Layout
