import JobNotice.Text.CasingTable

/-!
# Upper and lower case

Casing works on whole texts, as one character may become several. A capital sigma at the end of a
word becomes a final sigma: a letter that has a case stands before it and none after it,
characters that are not part of a word's letters passed over.

## Main definitions

* `Text.upper`, `Text.lower`
* `Text.capitalize` — the first character in upper case, the others in lower case
-/

namespace JobNotice.Text

/-- The image of a character in a table of runs; in an alternating run every second one has one. -/
def imageIn (runs : CodePoints) (step : Nat) (n : Nat) : Option Nat :=
  match runs.search n with
  | none => none
  | some r => if (n - r.first) % step = 0 then some (r.value + (n - r.first)) else none

/-- The images of a character outside ASCII. -/
def images (many : List (Nat × List Nat)) (runs alternating : CodePoints) (c : Char) : List Char :=
  match many.lookup c.toNat with
  | some cs => cs.map Char.ofNat
  | none =>
    match (imageIn runs 1 c.toNat).orElse fun _ => imageIn alternating 2 c.toNat with
    | some n => [Char.ofNat n]
    | none => [c]

/-- A character in upper case. -/
def upperChar (c : Char) : List Char :=
  if c.toNat < 0x80 then [c.toUpper] else images upperMany upperRuns upperAlternating c

/-- A character in lower case, wherever it stands. -/
def lowerChar (c : Char) : List Char :=
  if c.toNat < 0x80 then [c.toLower] else images lowerMany lowerRuns lowerAlternating c

def upper (s : List Char) : List Char := s.flatMap upperChar

/-- Whether the first character that is not passed over has a case. -/
def meetsCased (s : List Char) : Bool :=
  match s.dropWhile caseIgnorable.contains with
  | [] => false
  | c :: _ => cased.contains c

/-- The lower case of a text, given what stands before it in reverse. -/
def lowerFrom (before : List Char) : List Char → List Char
  | [] => []
  | c :: r =>
    let image :=
      if c.toNat = 0x3A3 then
        [if meetsCased before && !meetsCased r then Char.ofNat 0x3C2 else Char.ofNat 0x3C3]
      else lowerChar c
    image ++ lowerFrom (c :: before) r

def lower (s : List Char) : List Char := lowerFrom [] s

def capitalize : List Char → List Char
  | [] => []
  | c :: r => upperChar c ++ lower r

end JobNotice.Text
