import JobNotice.Idna.Domain
import JobNotice.Text.Alphanumeric
import JobNotice.Text.CodePoints
import JobNotice.Text.Utf8
import JobNotice.Url.Address

/-!
# Mail addresses

An address has a user and a domain. Characters outside ASCII may stand in both. A domain that does
not hold letters and digits where it should may still have an ASCII form that does.

## Main definitions

* `Mail.Address`, `Mail.AddressError`
* `Mail.Address.of` — an address from its two parts
-/

namespace JobNotice.Mail

/-- An address; `isUser` and `isDomain` hold of its parts. -/
structure Address where
  user : String
  domain : String
  deriving DecidableEq

/-- Why a text is no address. -/
inductive AddressError
  | badText
  | badUser
  | badDomain
  deriving DecidableEq

def AddressError.message : AddressError → String
  | .badText => "Invalid input"
  | .badUser => "Invalid email user"
  | .badDomain => "Invalid email domain"

/-- Characters of words in addresses: letters, digits, some marks and all outside ASCII. -/
def isAtomChar (c : Char) : Bool :=
  c.isAlphanum || "!#$%&'*+-/=?^_`\x7b|\x7d~".toList.contains c || 0x80 ≤ c.toNat

def isAtom (s : List Char) : Bool := !s.isEmpty && s.all isAtomChar

/-- What may stand between the quotation marks of a quoted user. -/
def isQuotedContent : List Char → Bool
  | [] => true
  | '\\' :: c :: r => 0x21 ≤ c.toNat && c.toNat ≤ 0x7E && isQuotedContent r
  | c :: r =>
    (c = ' ' || c = '\t' || (0x21 ≤ c.toNat && c.toNat != 0x7F)) && c != '"' && c != '\\' &&
      isQuotedContent r

/-- Words between dots, or quoted content, of at most 64 bytes. -/
def isUser (s : List Char) : Bool :=
  !s.isEmpty && Text.utf8Length s ≤ 64 &&
    if s.head? = some '"' && s.getLast? = some '"' then
      2 < s.length && isQuotedContent s.dropLast.tail
    else (Text.splitChars '.' s).all isAtom

/-- A part of a domain: at most 63 bytes with letters or digits at both ends. -/
def isLabel (s : List Char) : Bool :=
  isAtom s && Text.utf8Length s ≤ 63 && s.head?.any Text.isAlphanumeric &&
    s.getLast?.any Text.isAlphanumeric

def isDomain (s : List Char) : Bool :=
  Text.utf8Length s ≤ 254 && (Text.splitChars '.' s).all isLabel

/-- Whether a text is a domain or an IPv6 address, which may stand in brackets. -/
def isHost (s : List Char) : Bool :=
  isDomain s ||
    let inner :=
      if s.head? = some '[' && s.getLast? = some ']' && 2 ≤ s.length then s.dropLast.tail else s
    Url.Ipv6.isValid inner

/-- The address that a user and a domain make up. -/
def Address.of (user domain : List Char) : Except AddressError Address :=
  if !isUser user then .error .badUser
  else if isHost domain || ((Idna.toAscii (fun _ => false) domain).any isHost) then
    .ok ⟨String.ofList user, String.ofList domain⟩
  else .error .badDomain

/-- The address as it is written. -/
def Address.text (a : Address) : String := a.user ++ "@" ++ a.domain

end JobNotice.Mail
