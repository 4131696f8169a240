import JobNotice.Text.Blank
import JobNotice.Url.Domain

/-!
# Absolute URLs

An absolute URL begins with a scheme. The web's own schemes need a host; other schemes may have
one after two slashes. A URL is read as browsers read it: controls and blanks around it do not
count, tabs and line breaks within it neither, and a web scheme may be followed by any number of
slashes, forward or backward.

## Main definitions

* `Url.ParseError`, `Url.Parsed`
* `Url.parse` — scheme and host of an absolute URL
* `Url.LinkProblem`, `Url.checkLink` — whether a link may stand in a notification
-/

namespace JobNotice.Url

/-- Why a text is no absolute URL. -/
inductive ParseError
  | noScheme
  | emptyHost
  | badDomain
  | badPort
  | badIpv4
  | badIpv6
  | badHostCharacter
  deriving DecidableEq

def ParseError.message : ParseError → String
  | .noScheme => "relative URL without a base"
  | .emptyHost => "empty host"
  | .badDomain => "invalid international domain name"
  | .badPort => "invalid port number"
  | .badIpv4 => "invalid IPv4 address"
  | .badIpv6 => "invalid IPv6 address"
  | .badHostCharacter => "invalid domain character"

/-- The kinds of schemes that are read differently. -/
inductive SchemeKind
  | web
  | file
  | other
  deriving DecidableEq

/-- The kind of a scheme in lower case. -/
def schemeKind (scheme : List Char) : SchemeKind :=
  let name := String.ofList scheme
  if name = "http" ∨ name = "https" ∨ name = "ws" ∨ name = "wss" ∨ name = "ftp" then .web
  else if name = "file" then .file
  else .other

/-- The host of a URL: none, or a text that is not empty. -/
inductive Host
  | domain (name : List Char)
  | ipv4 (text : List Char)
  | ipv6 (text : List Char)
  | verbatim (name : List Char)
  deriving DecidableEq

/-- What matters of an absolute URL. -/
structure Parsed where
  /-- The scheme in lower case. -/
  scheme : List Char
  host : Option Host
  deriving DecidableEq

/-! ### Scheme -/

/-- Controls and blanks that do not count around a URL. -/
def isAround (c : Char) : Bool := c.toNat ≤ 0x20

/-- Characters that do not count within a URL. -/
def isIgnored (c : Char) : Bool := c = '\t' || c = '\n' || c = '\r'

/-- The characters of a URL that count. -/
def significant (s : List Char) : List Char :=
  (Text.dropEndWhile isAround (s.dropWhile isAround)).filter fun c => !isIgnored c

def isSchemeChar (c : Char) : Bool := c.isAlphanum || c = '+' || c = '-' || c = '.'

/-- The scheme in lower case and what follows its colon. -/
def splitScheme (s : List Char) : Option (List Char × List Char) :=
  match s with
  | [] => none
  | c :: _ =>
    if c.isAlpha then
      match s.dropWhile isSchemeChar with
      | ':' :: r => some ((s.takeWhile isSchemeChar).map Char.toLower, r)
      | _ => none
    else none

/-! ### Host -/

/-- Two hexadecimal digits as a byte. -/
def hexByte? (a b : Char) : Option Nat :=
  match Text.digitValue? a, Text.digitValue? b with
  | some a, some b => some (a * 16 + b)
  | _, _ => none

/-- The bytes of a text in which `%` and two hexadecimal digits stand for a byte. -/
def percentDecode : List Char → List Nat
  | '%' :: a :: b :: r =>
    match hexByte? a b with
    | some n => n :: percentDecode r
    | none => 37 :: percentDecode (a :: b :: r)
  | c :: r => Text.utf8Char c ++ percentDecode r
  | [] => []

/-- An address between brackets. -/
def bracketHost (s : List Char) : Except ParseError Host :=
  if s.getLast? = some ']' ∧ Ipv6.isValid (s.dropLast.drop 1) then .ok (.ipv6 s)
  else .error .badIpv6

/-- The host of a web or file URL. -/
def webHost (s : List Char) : Except ParseError Host :=
  if s.head? = some '[' then bracketHost s
  else
    match (Text.ofUtf8? (percentDecode s)).bind domainToAscii with
    | none => .error .badDomain
    | some d =>
      if d.isEmpty then .error .emptyHost
      else if Ipv4.endsInNumber d then
        if Ipv4.isValid d then .ok (.ipv4 d) else .error .badIpv4
      else .ok (.domain d)

/-- Characters that no host of another scheme may hold. -/
def isForbiddenInHost (c : Char) : Bool :=
  c.toNat == 0 || "\t\n\r #/:<>?@[\\]^|".toList.contains c

/-- The host of a URL of another scheme, which may be empty. -/
def verbatimHost (s : List Char) : Except ParseError (Option Host) :=
  if s.head? = some '[' then (bracketHost s).map some
  else if s.any isForbiddenInHost then .error .badHostCharacter
  else .ok (if s.isEmpty then none else some (.verbatim s))

/-! ### Authority -/

/-- Whether a character ends the authority of a URL. -/
def endsAuthority (kind : SchemeKind) (c : Char) : Bool :=
  c = '/' || c = '?' || c = '#' || (kind != .other && c = '\\')

/-- The host at the head of a text: a colon ends it outside of brackets. -/
def splitHost (kind : SchemeKind) (bracket : Bool) : List Char → List Char × List Char
  | [] => ([], [])
  | c :: r =>
    if (c = ':' && !bracket) || endsAuthority kind c then ([], c :: r)
    else
      let bracket := if c = '[' then true else if c = ']' then false else bracket
      let (host, rest) := splitHost kind bracket r
      (c :: host, rest)

/-- Whether a port is all right: digits up to 65535, then the end of the authority. -/
def checkPort (port : Nat) : List Char → Except ParseError Unit
  | [] => .ok ()
  | c :: r =>
    if c.isDigit then
      let port := port * 10 + (c.toNat - 48)
      if port > 65535 then .error .badPort else checkPort port r
    else if c = '/' ∨ c = '\\' ∨ c = '?' ∨ c = '#' then .ok ()
    else .error .badPort

/-- What stands before the last `@` of an authority, if there is one, and what follows. -/
def splitUserinfo (authority rest : List Char) : Option (List Char) × List Char :=
  if authority.contains '@' then
    let host := (authority.reverse.takeWhile (· != '@')).reverse
    (some (authority.take (authority.length - host.length - 1)), host ++ rest)
  else (none, authority ++ rest)

/-- Whether a user or a password is given. -/
def hasUser : Option (List Char) → Bool
  | none | some [] | some [':'] => false
  | some _ => true

/-- The host of an authority. -/
def authorityHost (kind : SchemeKind) (s : List Char) : Except ParseError (Option Host) := do
  let authority := s.takeWhile fun c => !endsAuthority kind c
  let (userinfo, s) := splitUserinfo authority (s.dropWhile fun c => !endsAuthority kind c)
  if userinfo = some [] ∧ (s.head?.any (endsAuthority kind)) then .error .emptyHost
  let (text, rest) := splitHost kind false s
  if kind = .web ∧ text.isEmpty then .error .emptyHost
  let host ← if kind = .other then verbatimHost text else (webHost text).map some
  if host.isNone ∧ rest.head? = some ':' then .error .emptyHost
  match rest with
  | ':' :: r => checkPort 0 r
  | _ => .ok ()
  if host.isNone && hasUser userinfo then .error .emptyHost
  .ok host

/-- The host of a file URL. A drive letter is part of the path, and `localhost` is no host. -/
def fileHost (s : List Char) : Except ParseError (Option Host) :=
  match s with
  | a :: b :: r =>
    if (a = '/' ∨ a = '\\') ∧ (b = '/' ∨ b = '\\') then
      let text := r.takeWhile fun c => !endsAuthority .file c
      match text with
      | [] => .ok none
      | [d, e] =>
        if d.isAlpha ∧ (e = ':' ∨ e = '|') then .ok none else (webHost text).map some
      | text =>
        (webHost text).map fun h =>
          if h = .domain "localhost".toList then none else some h
    else .ok none
  | _ => .ok none

/-- Scheme and host of an absolute URL. -/
def parse (s : List Char) : Except ParseError Parsed :=
  match splitScheme (significant s) with
  | none => .error .noScheme
  | some (scheme, r) =>
    match schemeKind scheme with
    | .web =>
      (authorityHost .web (r.dropWhile fun c => c = '/' || c = '\\')).map fun h => ⟨scheme, h⟩
    | .file => (fileHost r).map fun h => ⟨scheme, h⟩
    | .other =>
      match r with
      | '/' :: '/' :: r => (authorityHost .other r).map fun h => ⟨scheme, h⟩
      | _ => .ok ⟨scheme, none⟩

/-! ### Links of a notification -/

/-- Why a link may not stand in a notification. -/
inductive LinkProblem
  | notAbsolute (e : ParseError)
  | wrongScheme (scheme : String)
  | noHost (scheme : String)
  deriving DecidableEq

def LinkProblem.message : LinkProblem → String
  | .notAbsolute e => "must be an absolute URL (" ++ e.message ++ ")"
  | .wrongScheme scheme => "must use http or https, got '" ++ scheme ++ "'"
  | .noHost scheme => "must include a host, got scheme '" ++ scheme ++ "' only"

/-- Links end up in attributes that browsers follow, so only web pages are allowed. -/
def checkLink (s : String) : Except LinkProblem Unit :=
  match parse s.toList with
  | .error e => .error (.notAbsolute e)
  | .ok url =>
    let scheme := String.ofList url.scheme
    if scheme = "http" ∨ scheme = "https" then
      if url.host.isSome then .ok () else .error (.noHost scheme)
    else .error (.wrongScheme scheme)

end JobNotice.Url
