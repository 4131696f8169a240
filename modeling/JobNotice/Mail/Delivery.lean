import JobNotice.Mail.Message
import JobNotice.Notice.Service
import JobNotice.Settings.Basic

/-!
# Delivery by mail

A document is posted to a recipient with the mail settings. Everything that can be wrong with the
recipient, the sender and the settings is found before a connection to the server is made.

## Main definitions

* `Mail.PostProblem` — why nothing can be posted
* `Mail.senderOf` — the mailbox from which mail is sent
* `Mail.Post`, `Mail.Post.prepare` — a message ready for its server
-/

namespace JobNotice.Mail

/-- Why a document cannot be posted. -/
inductive PostProblem
  | badRecipient (why : AddressError)
  | noSender
  | badSender (why : AddressError)
  | noHost
  deriving DecidableEq

def PostProblem.message : PostProblem → String
  | .badRecipient why => "invalid recipient address: " ++ why.message
  | .noSender => "From address not configured"
  | .badSender why => "invalid from address: " ++ why.message
  | .noHost => "SMTP host not configured"

/-- The mailbox from which mail is sent: the sender's name with the address after it. -/
def senderOf (e : Settings.Email) : Except PostProblem Mailbox :=
  match e.fromAddress with
  | none => .error .noSender
  | some address =>
    match Mailbox.ofText (e.fromName ++ " <" ++ address ++ ">") with
    | .ok m => .ok m
    | .error why => .error (.badSender why)

/-- A message and the server that is to take it. -/
structure Post where
  host : String
  port : UInt16
  tls : Bool
  /-- User name and password. -/
  login : Option (String × String)
  message : Message
  deriving DecidableEq

/-- User name and password, when both are given. -/
def loginOf (e : Settings.Email) : Option (String × String) :=
  match e.username, e.password with
  | some name, some password => some (name, password)
  | _, _ => none

/-- Gets a document ready for its recipient. -/
def Post.prepare (e : Settings.Email) (boundary : String) (now : Calendar.Instant)
    (recipient : String) (document : Notice.Document) : Except PostProblem Post :=
  match Mailbox.ofText recipient with
  | .error why => .error (.badRecipient why)
  | .ok target => do
    let sender ← senderOf e
    match e.host with
    | none => .error .noHost
    | some host =>
      .ok
        { host, port := e.port, tls := e.tls, login := loginOf e
          message := compose boundary now sender target document }

/-- The failure of a delivery. -/
def PostProblem.toNoticeError (p : PostProblem) : Notice.NoticeError := .delivery p.message

end JobNotice.Mail
