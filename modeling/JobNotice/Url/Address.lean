import JobNotice.Text.Digits
import JobNotice.Text.Search

/-!
# Numeric hosts

An IPv4 address has one to four parts, in decimal, octal after `0` or hexadecimal after `0x`; the
last part fills the bytes that the others leave. An IPv6 address stands in brackets: eight groups
of up to four hexadecimal digits, one run of zero groups left out, the last two groups possibly
written as four decimal bytes.

## Main definitions

* `Url.Ipv4.endsInNumber` — whether a domain has to be an IPv4 address
* `Url.Ipv4.isValid`, `Url.Ipv6.isValid`
-/

namespace JobNotice.Url

def isHexDigit (c : Char) : Bool := (Text.digitValue? c).isSome

namespace Ipv4

/-- A number when its digits are of its base. -/
def checked (base : Nat) (ok : Char → Bool) (ds : List Char) : Option Nat :=
  if ds.all ok then some (Text.digitsNat base ds) else none

/-- The number of a part. -/
def part? : List Char → Option Nat
  | [] => none
  | '0' :: 'x' :: r => checked 16 isHexDigit r
  | '0' :: 'X' :: r => checked 16 isHexDigit r
  | '0' :: c :: r => checked 8 (fun d => '0' ≤ d && d ≤ '7') (c :: r)
  | s => checked 10 Char.isDigit s

/-- The parts of an address; an empty last one is left out. -/
def parts (domain : List Char) : List (List Char) :=
  let ps := Text.splitChars '.' domain
  if ps.getLast? = some [] then ps.dropLast else ps

/-- Whether the last part of a domain is a number. -/
def endsInNumber (domain : List Char) : Bool :=
  match (parts domain).getLast? with
  | none => false
  | some p => (!p.isEmpty && p.all Char.isDigit) || (part? p).isSome

/-- Whether a domain is an address: at most four numbers, all but the last within a byte, the
last within the bytes that are left. -/
def isValid (domain : List Char) : Bool :=
  let ps := parts domain
  if ps.length > 4 then false
  else
    match ps.mapM part? with
    | none => false
    | some ns =>
      match ns.getLast? with
      | none => false
      | some last =>
        decide (last < Nat.pow 256 (5 - ns.length)) && ns.dropLast.all fun n => n ≤ 255

end Ipv4

namespace Ipv6

/-- A decimal byte without a zero in front. -/
def isByte (ds : List Char) : Bool :=
  !ds.isEmpty && ds.all Char.isDigit && (ds.length == 1 || ds.head? != some '0') &&
    decide (ds.length ≤ 3) && decide (Text.digitsNat 10 ds ≤ 255)

/-- Four decimal bytes, which stand for two groups. -/
def isQuad (s : List Char) : Bool :=
  let ps := Text.splitChars '.' s
  ps.length == 4 && ps.all isByte

/-- Whether a text goes on as an address after `seen` groups, `gap` telling whether groups have
been left out. -/
def groups : Nat → Nat → Bool → List Char → Bool
  | 0, _, _, _ => false
  | fuel + 1, seen, gap, s =>
    match s with
    | [] => gap || seen == 8
    | ':' :: r => seen != 8 && !gap && groups fuel (seen + 1) true r
    | s =>
      let ds := (s.take 4).takeWhile isHexDigit
      match s.drop ds.length with
      | [] => seen != 8 && groups fuel (seen + 1) gap []
      | '.' :: _ => !ds.isEmpty && decide (seen ≤ 6) && isQuad s && (gap || seen == 6)
      | ':' :: r => seen != 8 && !r.isEmpty && groups fuel (seen + 1) gap r
      | _ => false

/-- Whether the text between brackets is an address. -/
def isValid (s : List Char) : Bool :=
  match s with
  | ':' :: ':' :: r => groups (s.length + 1) 1 true r
  | ':' :: _ => false
  | s => decide (2 ≤ s.length) && groups (s.length + 1) 0 false s

end Ipv6

end JobNotice.Url
