import JobNotice.Decimal.Binary64

/-!
# The shortest decimal that reads back

A double is written with the fewest digits from which reading gives the same double again, and
among those with the digits nearest to its value. The numbers that read back as `m * 2 ^ e` form
an interval around it, which holds its ends exactly when `m` is even.

## Main definitions

* `Digits` — decimal digits with the place of the point
* `Binary64.shortest` — the digits of a finite double
* `Digits.positional` — all digits written out, no exponent
* `Digits.scientific` — positional from `1e-5` up to `1e16`, with an exponent outside
-/

namespace JobNotice.Decimal

/-- The number `0.d₁d₂… * 10 ^ point`, where the `dᵢ` are the decimal digits of `digits`. -/
structure Digits where
  digits : Nat
  point : Int
  deriving DecidableEq, Inhabited

/-- The decimal digits of a natural number. -/
def natChars (n : Nat) : List Char := (Nat.repr n).toList

/-- Decimal digits of a natural number as text. -/
def natText (n : Nat) : String := Nat.repr n

/-- A whole number as text, a minus sign before a negative one. -/
def intText (i : Int) : String := if i < 0 then "-" ++ Nat.repr i.natAbs else Nat.repr i.natAbs

/-- `10 ^ k` as a fraction. -/
def powerOfTen (k : Int) : Nat × Nat :=
  match k with
  | .ofNat k => (Nat.pow 10 k, 1)
  | .negSucc k => (1, Nat.pow 10 (k + 1))

namespace Binary64

/-- The fraction `m * 2 ^ e`. -/
def ratio (m : Nat) (e : Int) : Nat × Nat :=
  match e with
  | .ofNat k => (m * Nat.pow 2 k, 1)
  | .negSucc k => (m, Nat.pow 2 (k + 1))

/-- The numbers that read back as one double: two fractions over four times its step, and
whether they belong to the interval. -/
structure Reach where
  low : Nat × Nat
  high : Nat × Nat
  closed : Bool

/-- The interval of numbers that round to `m * 2 ^ e`; below a power of two its lower half is
half as long. -/
def reach (m : Nat) (e : Int) : Reach :=
  let below := if m = leastNormal ∧ e > minExponent then 1 else 2
  { low := ratio (4 * m - below) (e - 2), high := ratio (4 * m + 2) (e - 2), closed := m % 2 == 0 }

/-- Whether the fraction `n / d` lies in an interval. -/
def Reach.holds (r : Reach) (n d : Nat) : Bool :=
  if r.closed then
    decide (r.low.1 * d ≤ n * r.low.2) && decide (n * r.high.2 ≤ r.high.1 * d)
  else
    decide (r.low.1 * d < n * r.low.2) && decide (n * r.high.2 < r.high.1 * d)

/-- The least `k` with `n / d < 10 ^ k`, searched upward from `k`. -/
def pointFrom (n d : Nat) : Nat → Int → Int
  | 0, k => k
  | fuel + 1, k =>
    let (a, b) := powerOfTen k
    if n * b < a * d then k else pointFrom n d fuel (k + 1)

/-- The point of a positive number `m * 2 ^ e`: the least `k` with the number below `10 ^ k`. -/
def pointOf (m : Nat) (e : Int) : Int :=
  let (n, d) := ratio m e
  pointFrom n d 8 (((m.log2 : Int) + e) * 1233 / 4096 - 2)

/-- The grid of `count` digits: the number's neighbours on it, if one of them reads back. -/
def onGrid (n d : Nat) (r : Reach) (point : Int) (count : Nat) : Option Nat :=
  let (a, b) := powerOfTen (point - count)
  let q := n * b / (d * a)
  let fits (k : Nat) : Bool := r.holds (k * a) b
  let above := n * b - q * (d * a)
  match fits q && decide (q > 0), fits (q + 1) with
  | true, true => some (if 2 * above > d * a ∨ (2 * above = d * a ∧ q % 2 = 1) then q + 1 else q)
  | true, false => some q
  | false, true => some (q + 1)
  | false, false => none

/-- The first grid of at least `count` digits on which the number reads back. -/
def shortestFrom (n d : Nat) (r : Reach) (point : Int) : Nat → Nat → Nat × Nat
  | 0, count => (n, count)
  | fuel + 1, count =>
    match onGrid n d r point count with
    | some k => (k, count)
    | none => shortestFrom n d r point fuel (count + 1)

/-- Drops zeros at the end of a number's decimal digits. -/
def dropZeros : Nat → Nat → Nat
  | 0, k => k
  | fuel + 1, k => if k ≠ 0 ∧ k % 10 = 0 then dropZeros fuel (k / 10) else k

/-- The fewest digits that read back as `m * 2 ^ e`, for a positive `m`. -/
def shortest (m : Nat) (e : Int) : Digits :=
  let (n, d) := ratio m e
  let point := pointOf m e
  let (k, count) := shortestFrom n d (reach m e) point 17 1
  if k = Nat.pow 10 count then ⟨1, point + 1⟩ else ⟨dropZeros 20 k, point⟩

end Binary64

namespace Digits

/-- The digits with a point among or after them and no exponent; `whole` follows a number
without a fraction. -/
def positional (whole : String) (x : Digits) : String :=
  let ds := natText x.digits
  let count : Int := ds.length
  if x.point ≤ 0 then
    "0." ++ String.ofList (List.replicate (-x.point).toNat '0') ++ ds
  else if count ≤ x.point then
    ds ++ String.ofList (List.replicate (x.point - count).toNat '0') ++ whole
  else
    String.ofList (ds.toList.take x.point.toNat) ++ "." ++
      String.ofList (ds.toList.drop x.point.toNat)

/-- Positional with `.0` after whole numbers when the number is at least `1e-5` and below `1e16`,
else one digit before the point and an exponent with its sign. -/
def scientific (x : Digits) : String :=
  if -5 < x.point ∧ x.point ≤ 16 then x.positional ".0"
  else
    let ds := (natText x.digits).toList
    let fraction := if ds.length ≤ 1 then "" else "." ++ String.ofList (ds.drop 1)
    let sign := if 1 ≤ x.point then "+" else ""
    String.ofList (ds.take 1) ++ fraction ++ "e" ++ sign ++ intText (x.point - 1)

end Digits

namespace Binary64

/-- A double in text: digits written by `layout`, zeros as `zeroText`. -/
def textWith (digits : Digits → String) (zeroText infinity : String) : Binary64 → String
  | .nan => "NaN"
  | .infinite s => (if s then "-" else "") ++ infinity
  | .finite s m e =>
    (if s then "-" else "") ++ (if m = 0 then zeroText else digits (shortest m e))

/-- The text of a double in a JSON document: `1.5`, `2026.0`, `1e+16`, `1e-7`, `-0.0`. -/
def jsonText : Binary64 → String := textWith Digits.scientific "0.0" "inf"

/-- The text of a double with all its digits and no exponent, and a point only before a
fraction: `1.5`, `2026`, `-0`. -/
def plainText : Binary64 → String := textWith (Digits.positional "") "0" "inf"

/-- As `plainText`, with `.0` after a whole number. -/
def pointedText : Binary64 → String := textWith (Digits.positional ".0") "0.0" "inf"

end Binary64

end JobNotice.Decimal
