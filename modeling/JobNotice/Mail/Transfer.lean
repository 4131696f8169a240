import JobNotice.Mail.Base64
import JobNotice.Text.Utf8

/-!
# Bodies of parts

Lines of a body end with CR and LF. A body of short ASCII lines is sent as it is. Any other body
is sent quoted-printable, or in base64 when more than a third of its bytes would have to be quoted.

## Main definitions

* `Mail.withLineEnds` — a text whose line feeds all have a carriage return before them
* `Mail.Transfer`, `Mail.Transfer.choose` — the ways of sending, and the one for a text
* `Mail.Transfer.encode`, `Mail.Transfer.decode?` — a body as it is sent, and the body of that
-/

namespace JobNotice.Mail

/-- Puts a carriage return before every line feed that has none; `afterReturn` tells whether one
comes before the text. -/
def withLineEndsFrom (afterReturn : Bool) : List Char → List Char
  | [] => []
  | c :: r =>
    if c = '\n' && !afterReturn then '\r' :: '\n' :: withLineEndsFrom false r
    else c :: withLineEndsFrom (c = '\r') r

/-- A text with a carriage return before every line feed. -/
def withLineEnds (s : List Char) : List Char := withLineEndsFrom false s

/-- The greatest length of a line. -/
def lineLimit : Nat := 76

/-! ### Quoted-printable -/

/-- Whether a byte is the last of its line. -/
def endsLine : List Nat → Bool
  | [] => true
  | 13 :: 10 :: _ => true
  | _ => false

def upperHexDigit (n : Nat) : Char := if n < 10 then Char.ofNat (48 + n) else Char.ofNat (55 + n)

/-- Equals sign and two hexadecimal digits. -/
def quotedByte (b : Nat) : List Char := ['=', upperHexDigit (b / 16), upperHexDigit (b % 16)]

/-- A byte in quoted-printable. Blanks are quoted at the end of a line. -/
def printableByte (isLast : Bool) (b : Nat) : List Char :=
  if b = 9 ∨ b = 32 then if isLast then quotedByte b else [Char.ofNat b]
  else if 33 ≤ b ∧ b ≤ 126 ∧ b ≠ 61 then [Char.ofNat b]
  else quotedByte b

/-- Bytes in quoted-printable, `column` characters standing before them on their line. A line that
would grow too long is broken after an equals sign. -/
def quotedPrintable (column : Nat) : List Nat → List Char
  | [] => []
  | 13 :: 10 :: r => '\r' :: '\n' :: quotedPrintable 0 r
  | b :: r =>
    let isLast := endsLine r
    let token := printableByte isLast b
    let next := column + token.length
    if next < lineLimit ∨ (next = lineLimit ∧ isLast) then token ++ quotedPrintable next r
    else '=' :: '\r' :: '\n' :: (token ++ quotedPrintable token.length r)

def upperHexValue? (c : Char) : Option Nat :=
  let n := c.toNat
  if 48 ≤ n ∧ n ≤ 57 then some (n - 48)
  else if 65 ≤ n ∧ n ≤ 70 then some (n - 55)
  else none

/-- The bytes of a text in quoted-printable. -/
def ofQuotedPrintable? : List Char → Option (List Nat)
  | [] => some []
  | '=' :: '\r' :: '\n' :: r => ofQuotedPrintable? r
  | '=' :: a :: b :: r => do
    let x ← upperHexValue? a
    let y ← upperHexValue? b
    let rest ← ofQuotedPrintable? r
    some ((x * 16 + y) :: rest)
  | c :: r =>
    if c = '=' then none
    else do
      let rest ← ofQuotedPrintable? r
      some (c.toNat :: rest)

/-! ### Lines of base64 -/

/-- Breaks a text into lines of `lineLimit` characters; `left` of them fit the current line. -/
def breakLines (left : Nat) : List Char → List Char
  | [] => []
  | c :: r =>
    match left with
    | 0 => '\r' :: '\n' :: c :: breakLines (lineLimit - 1) r
    | left + 1 => c :: breakLines left r

/-! ### The choice -/

/-- How a body is sent. -/
inductive Transfer
  | sevenBit
  | quotedPrintable
  | base64
  deriving DecidableEq

namespace Transfer

def name : Transfer → String
  | .sevenBit => "7bit"
  | .quotedPrintable => "quoted-printable"
  | .base64 => "base64"

/-- Whether a line is too long to be sent as it is, `column` bytes of it, with the line feed before
it, having been seen. -/
def hasLongLineFrom (column : Nat) : List Char → Bool
  | [] => lineLimit ≤ column
  | c :: r =>
    if c = '\n' then lineLimit ≤ column || hasLongLineFrom 1 r
    else hasLongLineFrom (column + c.utf8Size) r

def hasLongLine (s : List Char) : Bool := hasLongLineFrom 0 s

/-- Whether quoted-printable would quote a byte. -/
def isQuoted (b : Nat) : Bool := !(b == 9 || (32 ≤ b && b ≤ 126))

/-- The way in which a text is sent. -/
def choose (s : List Char) : Transfer :=
  let bytes := Text.utf8Bytes s
  if !hasLongLine s && bytes.all fun b => b < 128 then .sevenBit
  else if bytes.countP isQuoted ≤ bytes.length / 3 then .quotedPrintable
  else .base64

/-- A body as it is sent. -/
def encode (t : Transfer) (body : List Char) : List Char :=
  match t with
  | .sevenBit => body
  | .quotedPrintable => Mail.quotedPrintable 0 (Text.utf8Bytes body)
  | .base64 => breakLines lineLimit (Base64.encode (Text.utf8Bytes body))

/-- The body that has been sent. -/
def decode? (t : Transfer) (sent : List Char) : Option (List Char) :=
  match t with
  | .sevenBit => some sent
  | .quotedPrintable => do Text.ofUtf8? (← ofQuotedPrintable? sent)
  | .base64 => do
    Text.ofUtf8? (← Base64.decode? (sent.filter fun c => c != '\r' && c != '\n'))

end Transfer

end JobNotice.Mail
