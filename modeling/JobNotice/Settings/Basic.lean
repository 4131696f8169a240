import JobNotice.Job.Attributes
import JobNotice.Layout.BuiltIn

/-!
# Settings

Every setting has a preset value. From the settings follow the template of the notifications and
what they share: links, logo and the offset in which times are shown.

## Main definitions

* `Settings` and its sections `Links`, `Branding`, `Templates`, `Display`, `Email`, `Logging`
* `Settings.defaults` — what all notifications share, if the offset is possible
* `Settings.loadTemplate` — the template
-/

namespace JobNotice

namespace Settings

/-- The links to which notifications lead by default. -/
def presetLinks : Job.Links where
  submissionUrl := "https://submit.sivacor.org"
  docsUrl := "https://docs.sivacor.org"
  baseUrl := "https://sivacor.org"

structure Branding where
  productName : String := "SIVACOR"
  supportEmail : String := "support@sivacor.org"
  logoUrl : Option String := none
  deriving DecidableEq

structure Templates where
  /-- The folder of the layouts; without one the built-in layouts are used. -/
  folder : Option String := none
  deriving DecidableEq

structure Display where
  offsetMinutes : Int32 := -300
  label : String := "EST"
  deriving DecidableEq

structure Email where
  host : Option String := none
  port : UInt16 := 465
  username : Option String := none
  password : Option String := none
  tls : Bool := true
  fromAddress : Option String := none
  fromName : String := "SIVACOR"
  deriving DecidableEq

/-- Mail can be sent when there is a server and an address to send from. -/
def Email.isConfigured (e : Email) : Bool := e.host.isSome && e.fromAddress.isSome

structure Logging where
  level : String := "info"
  deriving DecidableEq

end Settings

/-- The settings of the program. -/
structure Settings where
  links : Job.Links := Settings.presetLinks
  branding : Settings.Branding := {}
  templates : Settings.Templates := {}
  display : Settings.Display := {}
  email : Settings.Email := {}
  logging : Settings.Logging := {}
  deriving DecidableEq

namespace Settings

/-- The product of 32-bit numbers, none when it does not fit 32 bits. -/
def checkedMul (a b : Int32) : Option Int32 :=
  let product := a.toInt * b.toInt
  if Int32.minValue.toInt ≤ product ∧ product ≤ Int32.maxValue.toInt then some (.ofInt product)
  else none

/-- Why the display offset cannot be used. -/
inductive OffsetError
  /-- The offset is not less than a day. -/
  | outOfRange (minutes : Int32)
  /-- The offset in seconds does not fit 32 bits. This is not reported: the program stops in the
  middle of the multiplication. A build that leaves out the checks of arithmetic would go on with the
  product less a multiple of `2 ^ 32`. -/
  | overflow (minutes : Int32)
  deriving DecidableEq

def OffsetError.message : OffsetError → String
  | .outOfRange minutes =>
    "display.timezone_offset_minutes out of range: " ++ Decimal.intText minutes.toInt
  | .overflow _ => "attempt to multiply with overflow"

/-- What all notifications share. The offset is multiplied before its range is looked at. -/
def defaults (s : Settings) : Except OffsetError Job.Defaults :=
  match checkedMul s.display.offsetMinutes 60 with
  | none => .error (.overflow s.display.offsetMinutes)
  | some seconds =>
    match Calendar.Offset.ofSeconds? seconds.toInt with
    | none => .error (.outOfRange s.display.offsetMinutes)
    | some offset =>
      .ok { links := s.links, logoUrl := s.branding.logoUrl, offset, label := s.display.label }

/-- The template that the settings name. -/
def loadTemplate {m : Type → Type} [Monad m] (engine : Layout.Engine) (disk : Files.Disk m)
    (s : Settings) : m (Except Layout.LayoutError Layout.Template) :=
  match s.templates.folder with
  | some folder =>
    Layout.Template.ofFolder engine disk folder s.branding.productName s.branding.supportEmail
  | none => pure (Layout.builtInBy engine s.branding.productName s.branding.supportEmail)

end Settings

end JobNotice
