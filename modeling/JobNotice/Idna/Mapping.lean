import JobNotice.Idna.MappingTable

/-!
# Characters of domains

Domains are compared without regard to case and to compatibility variants of characters. A
character stays, is left out, is replaced, or may not stand in a domain.

## Main definitions

* `Idna.Treatment`, `Idna.treatmentOf`
* `Idna.mapped` — a domain after replacement
-/

namespace JobNotice.Idna

/-- What happens to a character of a domain. -/
inductive Treatment
  | stays
  | vanishes
  | becomes (image : List Char)
  | isRefused

/-- A range of replaced code points; `moves` tells whether the image moves along with them. -/
structure MappedRange where
  first : Nat
  last : Nat
  image : List Nat
  moves : Bool
  deriving Inhabited

/-- The range that a word writes. -/
def mappedRangeOf (word : List Char) : MappedRange :=
  let range := word.takeWhile fun c => c ≠ ':' ∧ c ≠ '='
  let image := (Text.splitChars ',' (word.drop (range.length + 1))).map (Text.digitsNat 16)
  let r := Text.CodePoints.rangeOf range
  ⟨r.first, r.last, image, word.contains ':'⟩

def mappedRanges : Array MappedRange := ((Text.words mappedWords).map mappedRangeOf).toArray

def treatmentOf (c : Char) : Treatment :=
  if validPoints.contains c then .stays
  else if ignoredPoints.contains c then .vanishes
  else
    match Text.findRange MappedRange.first MappedRange.last mappedRanges c.toNat with
    | some r =>
      .becomes (r.image.map fun n => Char.ofNat (if r.moves then n + (c.toNat - r.first) else n))
    | none => .isRefused

/-- A domain after replacement, none when it holds a character that is refused. -/
def mapped : List Char → Option (List Char)
  | [] => some []
  | c :: r =>
    match treatmentOf c with
    | .stays => (mapped r).map (c :: ·)
    | .vanishes => mapped r
    | .becomes image => (mapped r).map (image ++ ·)
    | .isRefused => none

end JobNotice.Idna
