import JobNotice.Calendar.Rfc3339
import JobNotice.Mail.Mailbox
import JobNotice.Mail.Transfer
import JobNotice.Notice.Document

/-!
# Messages

The message of a document offers it twice, in plain text and in HTML, as two parts between
boundary lines.

## Main definitions

* `Mail.Message`, `Mail.compose` — messages, and the message of a document
* `Mail.Message.text` — a message as it is sent
* `Mail.splitParts` — the parts between boundary lines
-/

namespace JobNotice.Mail

/-- A header and the body after it. -/
structure Message where
  /-- The fields of the header with their folded texts. -/
  fields : List (String × String)
  body : String
  deriving DecidableEq

/-! ### Parts -/

/-- The end of a line. -/
def lineEnd : List Char := ['\r', '\n']

/-- A part that says what it is and how it is sent. -/
def partOf (kind : String) (content : List Char) : List Char :=
  let transfer := Transfer.choose content
  ("Content-Type: " ++ kind ++ "; charset=utf-8").toList ++ lineEnd ++
    ("Content-Transfer-Encoding: " ++ transfer.name).toList ++ lineEnd ++ lineEnd ++
    transfer.encode (withLineEnds content)

/-- Parts between boundary lines. -/
def bodyOf (boundary : String) (parts : List (List Char)) : List Char :=
  let mark := ("--" ++ boundary).toList
  parts.flatMap (fun part => mark ++ lineEnd ++ part ++ lineEnd) ++ mark ++ "--".toList ++ lineEnd

/-! ### Messages -/

def weekdays : List String := ["Mon", "Tue", "Wed", "Thu", "Fri", "Sat", "Sun"]

def months : List String :=
  ["Jan", "Feb", "Mar", "Apr", "May", "Jun", "Jul", "Aug", "Sep", "Oct", "Nov", "Dec"]

/-- A point of time in a header; day 0 was a Thursday. -/
def dateText (t : Calendar.Instant) : String :=
  let date := Calendar.Date.ofDay t.day
  let weekday := (weekdays[((t.day + 3) % 7).toNat]?).getD ""
  let month := (months[date.month - 1]?).getD ""
  let two (n : Nat) : String := String.ofList (Calendar.padded 2 n)
  weekday ++ ", " ++ two date.day ++ " " ++ month ++ " " ++ Decimal.intText date.year ++ " " ++
    two (t.second / 3600) ++ ":" ++ two (t.second % 3600 / 60) ++ ":" ++ two (t.second % 60) ++
    " +0000"

/-- The message that carries a document from one mailbox to another. -/
def compose (boundary : String) (now : Calendar.Instant) (sender recipient : Mailbox)
    (document : Notice.Document) : Message where
  fields :=
    [("From", sender.header "From"), ("To", recipient.header "To"),
      ("Subject", headerOf "Subject" document.subject), ("MIME-Version", "1.0"),
      ("Date", dateText now),
      ("Content-Type",
        headerOf "Content-Type" ("multipart/alternative; boundary=\"" ++ boundary ++ "\""))]
  body := String.ofList <|
    bodyOf boundary
      [partOf "text/plain" document.text.toList, partOf "text/html" document.html.toList]

/-- The lines of a header: fields, some of them with folded lines. -/
def Message.headerText (m : Message) : String :=
  String.join (m.fields.map fun f => f.1 ++ ": " ++ f.2 ++ "\r\n")

def Message.text (m : Message) : String := m.headerText ++ "\r\n" ++ m.body

/-! ### Taking a message apart -/

/-- The lines of a text, without their ends. -/
def linesOf : List Char → List (List Char)
  | [] => [[]]
  | '\r' :: '\n' :: r => [] :: linesOf r
  | c :: r =>
    match linesOf r with
    | [] => [[c]]
    | line :: rest => (c :: line) :: rest

/-- Lines as a text. -/
def joinLines : List (List Char) → List Char
  | [] => []
  | [line] => line
  | line :: rest => line ++ lineEnd ++ joinLines rest

/-- The lines of each part, up to the last boundary line; `open?` holds the lines of the part that
has begun. -/
def partLines (mark : List Char) (open? : Option (List (List Char))) :
    List (List Char) → Option (List (List (List Char)))
  | [] => none
  | line :: rest =>
    if line = mark ++ "--".toList then some open?.toList
    else if line = mark then (partLines mark (some []) rest).map (open?.toList ++ ·)
    else partLines mark (open?.map (· ++ [line])) rest

/-- The parts between boundary lines, none when the last boundary line is missing. -/
def splitParts (boundary : String) (body : List Char) : Option (List (List Char)) :=
  (partLines ("--" ++ boundary).toList none (linesOf body)).map (·.map joinLines)

/-- The header lines of a part and its body. -/
def splitPart (part : List Char) : List (List Char) × List Char :=
  let lines := linesOf part
  (lines.takeWhile fun line => !line.isEmpty,
    joinLines ((lines.dropWhile fun line => !line.isEmpty).drop 1))

/-- The way of sending that a part declares. -/
def declaredTransfer? (header : List (List Char)) : Option Transfer :=
  [Transfer.sevenBit, .quotedPrintable, .base64].find? fun t =>
    header.contains ("Content-Transfer-Encoding: " ++ t.name).toList

/-- The text that a part carries. -/
def contentOf? (part : List Char) : Option (List Char) := do
  let (header, body) := splitPart part
  let transfer ← declaredTransfer? header
  transfer.decode? body

end JobNotice.Mail
