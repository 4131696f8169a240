import JobNotice.Decimal.Shortest
import JobNotice.Settings.Basic
import JobNotice.Text.Quoted
import JobNotice.Toml.Document

/-!
# Settings from a document

A document gives settings by section and key; what it does not give keeps its preset value, and
names that mean nothing are passed over. A section may also be an array of its values in order.

## Main definitions

* `Settings.Fault` — why a document gives no settings
* `Settings.Field`, `Settings.readSection` — the keys of a section
* `Settings.ofText` — the settings of a document
-/

namespace JobNotice.Settings

open Toml (Value)

/-- Why a document gives no settings. -/
inductive Fault
  /-- It is no document. -/
  | malformed
  | wrongType (got : Value) (expected : String)
  | outOfRange (n : Int) (expected : String)
  /-- An array ends before a value that a section needs there. -/
  | shortArray

/-- A value in messages. -/
def describe : Value → String
  | .string s => "string " ++ Text.quoted s
  | .integer n => "integer `" ++ Decimal.intText n ++ "`"
  | .real x => "floating point `" ++ x.pointedText ++ "`"
  | .bool b => "boolean `" ++ (if b then "true" else "false") ++ "`"
  | .moment => "map"
  | .array .. => "sequence"
  | .table .. => "map"

/-- What is wrong with a value, where that has a fixed wording. -/
def Fault.cause? : Fault → Option String
  | .wrongType got expected =>
    some ("invalid type: " ++ describe got ++ ", expected " ++ expected)
  | .outOfRange n expected =>
    some ("invalid value: integer `" ++ Decimal.intText n ++ "`, expected " ++ expected)
  | .malformed => none
  | .shortArray => none

/-! ### Values -/

def readString (expected : String) : Value → Except Fault String
  | .string s => .ok s
  | v => .error (.wrongType v expected)

def readText : Value → Except Fault String := readString "a string"

def readBool : Value → Except Fault Bool
  | .bool b => .ok b
  | v => .error (.wrongType v "a boolean")

/-- A whole number between bounds. -/
def readBounded (low high : Int) (expected : String) : Value → Except Fault Int
  | .integer n => if low ≤ n ∧ n ≤ high then .ok n else .error (.outOfRange n expected)
  | v => .error (.wrongType v expected)

/-! ### Sections -/

/-- A key of a section. -/
structure Field (σ : Type) where
  key : String
  /-- Whether an array of the section's values must go as far as this one. -/
  needed : Bool
  /-- Takes over the value of the key. -/
  set : Value → Except Fault (σ → σ)

/-- A key whose value is read and put into its place. -/
def Field.of {σ α : Type} (key : String) (needed : Bool) (read : Value → Except Fault α)
    (put : α → σ → σ) : Field σ :=
  ⟨key, needed, fun v => (read v).map put⟩

variable {σ : Type}

/-- Takes over the values of the keys that mean something. -/
def readEntries (fields : List (Field σ)) : Toml.Entries → σ → Except Fault σ
  | [], s => .ok s
  | (k, v) :: r, s =>
    match fields.find? fun f => f.key = k with
    | none => readEntries fields r s
    | some f => do
      let change ← f.set v
      readEntries fields r (change s)

/-- Takes over values in the order of the keys. -/
def readItems : List (Field σ) → List Value → σ → Except Fault σ
  | [], _, s => .ok s
  | f :: fields, [], s => if f.needed then .error .shortArray else readItems fields [] s
  | f :: fields, v :: items, s => do
    let change ← f.set v
    readItems fields items (change s)

/-- A section, with preset values where it gives none. -/
def readSection (name : String) (fields : List (Field σ)) (preset : σ) :
    Value → Except Fault σ
  | .table _ entries => readEntries fields entries preset
  | .array _ items => readItems fields items preset
  | .moment => .ok preset
  | v => .error (.wrongType v ("struct " ++ name))

def linksFields : List (Field Job.Links) :=
  [.of "submission_url" false readText fun x s => { s with submissionUrl := x },
    .of "docs_url" false readText fun x s => { s with docsUrl := x },
    .of "base_url" false readText fun x s => { s with baseUrl := x }]

def brandingFields : List (Field Branding) :=
  [.of "product_name" false readText fun x s => { s with productName := x },
    .of "support_email" false readText fun x s => { s with supportEmail := x },
    .of "logo_url" true readText fun x s => { s with logoUrl := some x }]

def templatesFields : List (Field Templates) :=
  [.of "dir" true (readString "path string") fun x s => { s with folder := some x }]

def displayFields : List (Field Display) :=
  [.of "timezone_offset_minutes" false (readBounded (-2147483648) 2147483647 "i32")
      fun x s => { s with offsetMinutes := Int32.ofInt x },
    .of "timezone_label" false readText fun x s => { s with label := x }]

def emailFields : List (Field Email) :=
  [.of "smtp_host" true readText fun x s => { s with host := some x },
    .of "smtp_port" false (readBounded 0 65535 "u16")
      fun x s => { s with port := UInt16.ofNat x.toNat },
    .of "smtp_username" true readText fun x s => { s with username := some x },
    .of "smtp_password" true readText fun x s => { s with password := some x },
    .of "smtp_tls" false readBool fun x s => { s with tls := x },
    .of "from_address" true readText fun x s => { s with fromAddress := some x },
    .of "from_name" false readText fun x s => { s with fromName := x }]

def loggingFields : List (Field Logging) :=
  [.of "level" false readText fun x s => { s with level := x }]

/-- The sections of the settings. -/
def fields : List (Field Settings) :=
  [.of "links" false (readSection "LinksConfig" linksFields presetLinks)
      fun x s => { s with links := x },
    .of "branding" false (readSection "BrandingConfig" brandingFields {})
      fun x s => { s with branding := x },
    .of "templates" false (readSection "TemplatesConfig" templatesFields {})
      fun x s => { s with templates := x },
    .of "display" false (readSection "DisplayConfig" displayFields {})
      fun x s => { s with display := x },
    .of "email" false (readSection "EmailConfig" emailFields {})
      fun x s => { s with email := x },
    .of "logging" false (readSection "LoggingConfig" loggingFields {})
      fun x s => { s with logging := x }]

/-- The settings of a document's table. -/
def ofValue (v : Value) : Except Fault Settings := readSection "Config" fields {} v

/-- The settings of a document. -/
def ofText (s : String) : Except Fault Settings :=
  match Value.ofText s with
  | none => .error .malformed
  | some v => ofValue v

end JobNotice.Settings
