import JobNotice.Idna.Label
import JobNotice.Idna.Punycode

/-!
# Domains in ASCII

A domain is replaced character by character and composed. Its labels stand between dots; a label
that begins with `xn--` is one with characters outside ASCII in its ASCII form, and in the ASCII
form of the domain all such labels begin so.

## Main definitions

* `Idna.Label`, `Idna.labelOf?` — a label and its ASCII form
* `Idna.toAscii` — the ASCII form of a domain
-/

namespace JobNotice.Idna

/-- A label and its ASCII form. -/
structure Label where
  text : List Char
  ascii : List Char

/-- What ASCII forms of labels begin with. -/
def acePrefix : List Char := ['x', 'n', '-', '-']

def isAscii (s : List Char) : Bool := s.all fun c => c.toNat < 0x80

/-- The label that a text between dots writes. -/
def labelOf? (s : List Char) : Option Label :=
  if acePrefix.isPrefixOf s then
    match Punycode.decode? (s.drop acePrefix.length) with
    | some text =>
      if !isAscii text && isSettled text && isLabel text then some ⟨text, s⟩ else none
    | none => none
  else if isAscii s then some ⟨s, s⟩
  else if isLabel s then some ⟨s, acePrefix ++ Punycode.encode s⟩
  else none

/-- The ASCII form of a domain, none when the domain breaks a rule or holds an ASCII character that
is forbidden. -/
def toAscii (isForbidden : Char → Bool) (s : List Char) : Option (List Char) := do
  let s := Text.composed (← mapped s)
  if s.any fun c => c.toNat < 0x80 && isForbidden c then none
  else
    let labels ← (Text.splitChars '.' s).mapM labelOf?
    if (labels.any fun l => hasRightToLeft l.text) &&
        !(labels.all fun l => hasOneDirection l.text) then none
    else some (['.'].intercalate (labels.map (·.ascii)))

end JobNotice.Idna
