import JobNotice.Text.Digits
import JobNotice.Text.Search

/-!
# Sets of code points

A character property is held as ascending, disjoint ranges of code points, written in hexadecimal
in one text: `41-5A 61-7A AA`. Membership is a binary search.

## Main definitions

* `Text.findRange` — binary search among ranges
* `Text.CodePoints.ofText` — the ranges of a text
* `Text.CodePoints.contains` — membership
* `Text.CodePoints.lookup` — the value that a range carries
-/

namespace JobNotice.Text

/-- The words of a text, parted by blanks and line breaks. -/
def words (s : String) : List (List Char) :=
  let step (acc : List (List Char) × List Char) (c : Char) : List (List Char) × List Char :=
    if c = ' ' ∨ c = '\n' then if acc.2.isEmpty then acc else (acc.2.reverse :: acc.1, [])
    else (acc.1, c :: acc.2)
  let (done, last) := s.toList.foldl step ([], [])
  (if last.isEmpty then done else last.reverse :: done).reverse

/-! ### Search -/

/-- The item whose range holds `n`, among items of ascending, disjoint ranges from `low` up to
`high`. -/
def findRangeFrom {α : Type} (first last : α → Nat) (items : Array α) (n low high : Nat) :
    Option α :=
  if low < high then
    let mid := (low + high) / 2
    match items[mid]? with
    | none => none
    | some r =>
      if n < first r then findRangeFrom first last items n low mid
      else if last r < n then findRangeFrom first last items n (mid + 1) high
      else some r
  else none
termination_by high - low

/-- The item whose range holds `n`, among items of ascending, disjoint ranges. -/
def findRange {α : Type} (first last : α → Nat) (items : Array α) (n : Nat) : Option α :=
  findRangeFrom first last items n 0 items.size

/-! ### Sets -/

/-- A range of code points and a number that belongs to it. -/
structure CodeRange where
  first : Nat
  last : Nat
  value : Nat
  deriving Inhabited

/-- Ascending, disjoint ranges. -/
structure CodePoints where
  ranges : Array CodeRange

namespace CodePoints

/-- A range such as `61-7A` or `AA`, with an optional value as in `61-7A:3`. -/
def rangeOf (word : List Char) : CodeRange :=
  let (range, value) :=
    match splitChars ':' word with
    | [r, v] => (r, digitsNat 16 v)
    | _ => (word, 0)
  match splitChars '-' range with
  | [a, b] => ⟨digitsNat 16 a, digitsNat 16 b, value⟩
  | _ => ⟨digitsNat 16 range, digitsNat 16 range, value⟩

def ofText (text : String) : CodePoints := ⟨((words text).map rangeOf).toArray⟩

def search (s : CodePoints) (n : Nat) : Option CodeRange :=
  findRange CodeRange.first CodeRange.last s.ranges n

/-- The value of the range around a code point. -/
def lookup (s : CodePoints) (n : Nat) : Option Nat := (s.search n).map CodeRange.value

def contains (s : CodePoints) (c : Char) : Bool := (s.search c.toNat).isSome

end CodePoints

end JobNotice.Text
