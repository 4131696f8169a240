import JobNotice.Mail.Address
import JobNotice.Mail.Header

/-!
# Mailboxes

A mailbox is an address, or a name followed by an address in angle brackets. A name has words and
dots; a word is plain or stands in quotation marks. Of several blanks before a word the first is
part of the name.

## Main definitions

* `Mail.Mailbox`, `Mail.Mailbox.ofText` — mailboxes and how they are read
* `Mail.Mailbox.header` — the header that names a mailbox
-/

namespace JobNotice.Mail

structure Mailbox where
  name : Option String
  address : Address
  deriving DecidableEq

/-! ### Reading -/

def isSpaceOrTab (c : Char) : Bool := c = ' ' || c = '\t'

/-- The first blank of a run of blanks, and the text after the run. -/
def readBlanks (s : List Char) : List Char × List Char :=
  ((s.takeWhile isSpaceOrTab).take 1, s.dropWhile isSpaceOrTab)

/-- Characters that stand for themselves between quotation marks. -/
def isQuotedChar (c : Char) : Bool :=
  let n := c.toNat
  n == 33 || (35 ≤ n && n ≤ 91) || (93 ≤ n && n ≤ 126) || 0x80 ≤ n ||
    (1 ≤ n && n ≤ 8) || n == 11 || n == 12 || (14 ≤ n && n ≤ 31) || n == 127

/-- Characters that may stand after a backslash. -/
def isPairChar (c : Char) : Bool :=
  let n := c.toNat
  (1 ≤ n && n ≤ 9) || n == 11 || n == 12 || (14 ≤ n && n ≤ 127)

/-- A quoted text after its first mark, of which at most `count` characters are read. Blanks before
the last mark do not count. -/
def readQuotedFrom : Nat → List Char → Option (List Char × List Char)
  | 0, _ => none
  | count + 1, s =>
    let (blank, r) := readBlanks s
    let closing : Option (List Char × List Char) :=
      match s.dropWhile Text.isBlank with
      | '"' :: r => some ([], r)
      | _ => none
    match r with
    | '\\' :: c :: r =>
      if isPairChar c then
        (readQuotedFrom count r).map fun p => (blank ++ c :: p.1, p.2)
      else closing
    | c :: r =>
      if isQuotedChar c then
        (readQuotedFrom count r).map fun p => (blank ++ c :: p.1, p.2)
      else closing
    | [] => closing

def readQuoted : List Char → Option (List Char × List Char)
  | '"' :: r => readQuotedFrom (r.length + 1) r
  | _ => none

/-- A word in quotation marks or a plain one, with a blank before it. -/
def readWord (s : List Char) : Option (List Char × List Char) :=
  let (blank, r) := readBlanks s
  match readQuoted r with
  | some (word, r) => some (blank ++ word, r)
  | none =>
    let word := r.takeWhile isAtomChar
    if word.isEmpty then none else some (blank ++ word, r.dropWhile isAtomChar)

/-- Words and dots, at most `count` of them. -/
def readMoreWords : Nat → List Char → List Char × List Char
  | 0, s => ([], s)
  | count + 1, s =>
    match readWord s with
    | some (word, r) =>
      let (more, r) := readMoreWords count r
      (word ++ more, r)
    | none =>
      match s with
      | '.' :: r =>
        let (more, r) := readMoreWords count r
        ('.' :: more, r)
      | s => ([], s)

/-- A name, which begins with a word. -/
def readPhrase (s : List Char) : Option (List Char × List Char) := do
  let (word, r) ← readWord s
  let (more, r) := readMoreWords r.length r
  some (word ++ more, r)

/-- Plain words between dots, as far as they go; at most `count` of them. -/
def readMoreAtoms : Nat → List Char → List Char × List Char
  | 0, s => ([], s)
  | count + 1, s =>
    match s with
    | '.' :: r =>
      let word := r.takeWhile isAtomChar
      if word.isEmpty then ([], s)
      else
        let (more, r) := readMoreAtoms count (r.dropWhile isAtomChar)
        ('.' :: (word ++ more), r)
    | s => ([], s)

/-- Plain words between dots, with a blank before them. -/
def readDotted (s : List Char) : Option (List Char × List Char) :=
  let (blank, r) := readBlanks s
  let word := r.takeWhile isAtomChar
  if word.isEmpty then none
  else
    let (more, r) := readMoreAtoms r.length (r.dropWhile isAtomChar)
    some (blank ++ word ++ more, r)

/-- A quoted text, with a blank before it. -/
def readQuotedWord (s : List Char) : Option (List Char × List Char) := do
  let (blank, r) := readBlanks s
  let (word, r) ← readQuoted r
  some (blank ++ word, r)

/-- The user and the domain of an address. -/
def readAddress (s : List Char) : Option ((List Char × List Char) × List Char) := do
  let (user, r) ← match readDotted s with
    | some p => some p
    | none => readQuotedWord s
  match r with
  | '@' :: r =>
    let (domain, r) ← readDotted r
    some ((user, domain), r)
  | _ => none

/-- An address in angle brackets with blanks around them. -/
def readAngled (s : List Char) : Option ((List Char × List Char) × List Char) :=
  match s.dropWhile Text.isBlank with
  | '<' :: r => do
    let (address, r) ← readAddress r
    match r with
    | '>' :: r => some (address, r.dropWhile Text.isBlank)
    | _ => none
  | _ => none

/-- A name, if there is one, and an address in angle brackets. -/
def readNamed (s : List Char) :
    Option ((Option (List Char) × List Char × List Char) × List Char) :=
  match readPhrase s with
  | some (name, r) => (readAngled r).map fun p => ((some name, p.1), p.2)
  | none => (readAngled s).map fun p => ((none, p.1), p.2)

/-- An address with or without a name. -/
def readMailbox (s : List Char) :
    Option ((Option (List Char) × List Char × List Char) × List Char) :=
  match readNamed s with
  | some p => some p
  | none => (readAddress s).map fun p => ((none, p.1), p.2)

/-- The mailbox of a text, which may have blanks around it. -/
def Mailbox.ofText (s : String) : Except AddressError Mailbox :=
  let s := s.toList.dropWhile Text.isBlank
  match readMailbox s with
  | some ((name, user, domain), r) =>
    if r.all Text.isBlank then do
      let address ← Address.of user domain
      .ok ⟨name.map String.ofList, address⟩
    else .error .badText
  | none => .error .badText

/-! ### Writing -/

/-- How a name is written. -/
inductive NameStyle
  | plain
  | quoted
  | escaped
  | encoded

/-- Letters and digits are written plainly, with spaces and dots in quotation marks; marks and
backslashes there need a backslash. All other names are encoded. -/
def nameStyle (name : List Char) : NameStyle :=
  if name.all Char.isAlphanum then .plain
  else if name.all fun c => c.isAlphanum || c = ' ' || c = '.' then .quoted
  else if name.all fun c => c.isAlphanum || c = ' ' || c = '.' || c = '"' || c = '\\' then .escaped
  else .encoded

/-- Writes a character of a name, folded. -/
def HeaderText.putChar (h : HeaderText) (c : Char) : HeaderText :=
  if c = ' ' then h.space else h.putWord [c]

def HeaderText.putName (h : HeaderText) (name : List Char) : HeaderText :=
  match nameStyle name with
  | .plain => h.putWords name
  | .quoted => ((h.put ['"']).putWords name).put ['"']
  | .escaped =>
    (name.foldl (fun h c =>
      (if c = '"' ∨ c = '\\' then h.putChar '\\' else h).putChar c) (h.put ['"'])).put ['"']
  | .encoded => h.putEncoded name

namespace Mailbox

/-- The header that names a mailbox. -/
def header (field : String) (m : Mailbox) : String :=
  let h := HeaderText.start field
  String.ofList <| HeaderText.finish <|
    match m.name with
    | some name => (((h.putName name.toList).space.put ['<']).put m.address.text.toList).put ['>']
    | none => h.put m.address.text.toList

end Mailbox

end JobNotice.Mail
