import JobNotice.Json.Value

/-!
# Reading numbers

The digits of a number are gathered into a significand that has to fit 64 bits; digits that no
longer fit are dropped and only shift the exponent. A number without fraction and exponent that
fits 64 bits, signed or unsigned, is whole. Every other one is the double of the significand,
multiplied with or divided by the double of a power of ten, so its last digit may differ from the
nearest double's. `-0` is the double minus zero.

## Main definitions

* `Json.Fault` — why a text is not JSON
* `Json.Numeral` — the written parts of a number
* `Json.Numeral.scan` — the parts at the head of a text
* `Json.Numeral.value?` — the number, unless it is beyond every finite double
-/

namespace JobNotice.Json

open Decimal (Binary64)

/-- Why a text is not JSON: it ends within a value, or something else stands where it must not. -/
inductive Fault
  | ended
  | malformed
  deriving DecidableEq, Inhabited

/-- The fault of a place where something is missing. -/
def Fault.at (rest : List Char) : Fault := if rest.isEmpty then .ended else .malformed

/-- The written parts of a number. -/
structure Numeral where
  negative : Bool
  whole : List Char
  fraction : Option (List Char)
  /-- Whether the exponent is negative, and its digits. -/
  exponent : Option (Bool × List Char)
  deriving DecidableEq, Inhabited

namespace Numeral

def digitValue (c : Char) : Nat := c.toNat - 48

/-! ### Scanning -/

/-- The digits at the head of a text and what follows them. -/
def takeDigits (s : List Char) : List Char × List Char :=
  (s.takeWhile Char.isDigit, s.dropWhile Char.isDigit)

/-- An optional fraction: a point must be followed by a digit. -/
def scanFraction : List Char → Except Fault (Option (List Char) × List Char)
  | '.' :: r =>
    match takeDigits r with
    | ([], r) => .error (Fault.at r)
    | (ds, r) => .ok (some ds, r)
  | s => .ok (none, s)

/-- The digits of an exponent after its sign. -/
def scanExponentDigits (negative : Bool) (s : List Char) :
    Except Fault (Option (Bool × List Char) × List Char) :=
  match takeDigits s with
  | ([], r) => .error (Fault.at r)
  | (ds, r) => .ok (some (negative, ds), r)

/-- An optional exponent. -/
def scanExponent : List Char → Except Fault (Option (Bool × List Char) × List Char)
  | c :: r =>
    if c = 'e' ∨ c = 'E' then
      match r with
      | '+' :: r => scanExponentDigits false r
      | '-' :: r => scanExponentDigits true r
      | r => scanExponentDigits false r
    else .ok (none, c :: r)
  | [] => .ok (none, [])

/-- A number after its minus sign. A zero at the head stands alone before the point. -/
def scan (negative : Bool) (s : List Char) : Except Fault (Numeral × List Char) := do
  let (ds, r) := takeDigits s
  match ds with
  | [] => .error (Fault.at r)
  | '0' :: _ :: _ => .error .malformed
  | ds =>
    let (fraction, r) ← scanFraction r
    let (exponent, r) ← scanExponent r
    .ok (⟨negative, ds, fraction, exponent⟩, r)

/-! ### The number -/

/-- The greatest unsigned number of 64 bits. -/
def maxUnsigned : Nat := 18446744073709551615

/-- The greatest exponent that is read as a number. -/
def maxExponent : Nat := 2147483647

/-- Appends digits to a significand as long as it fits, and gives the digits left over. -/
def gather (limit : Nat) : Nat → List Char → Nat × List Char
  | n, [] => (n, [])
  | n, c :: r =>
    if n * 10 + digitValue c ≤ limit then gather limit (n * 10 + digitValue c) r else (n, c :: r)

/-- The double of a power of ten. -/
def power (k : Nat) : Binary64 := .ofNat (Nat.pow 10 k)

/-- A double times a power of ten, `none` when that is infinite. -/
def scale (x : Binary64) (e : Int) : Option Binary64 :=
  if 0 ≤ e then
    if x.isZero then some x
    else if e ≤ 308 then
      let y := x.mul (power e.toNat)
      if y.isInfinite then none else some y
    else none
  else if -308 ≤ e then some (x.div (power (-e).toNat))
  else if x.isZero then some x
  else scale (x.div (power 308)) (e + 308)
termination_by (-e).toNat
decreasing_by omega

/-- The significand of all digits, and the power of ten it is to be multiplied with. -/
def significand (x : Numeral) : Nat × Int :=
  let (n, left) := gather maxUnsigned 0 x.whole
  match x.fraction with
  | none => (n, left.length)
  | some ds =>
    let (m, rest) := gather maxUnsigned n ds
    (m, (left.length : Int) - ((ds.length - rest.length : Nat) : Int))

/-- The double, `none` when it is beyond the finite ones. -/
def real? (x : Numeral) : Option Binary64 :=
  let (n, e) := x.significand
  let signed (y : Binary64) : Binary64 := if x.negative then y.neg else y
  match x.exponent with
  | none => (scale (.ofNat n) e).map signed
  | some (negative, ds) =>
    match gather maxExponent 0 ds with
    | (k, []) => (scale (.ofNat n) (if negative then e - k else e + k)).map signed
    | (_, _ :: _) => if n ≠ 0 ∧ !negative then none else some (.zero x.negative)

/-- The whole number, if the numeral is one and fits 64 bits. -/
def whole? (x : Numeral) : Option Int :=
  if x.fraction.isSome ∨ x.exponent.isSome then none
  else
    match gather maxUnsigned 0 x.whole with
    | (_, _ :: _) => none
    | (n, []) =>
      if x.negative then if n ≠ 0 ∧ n ≤ 9223372036854775808 then some (-(n : Int)) else none
      else some n

def value? (x : Numeral) : Option Number :=
  match x.whole? with
  | some n => some (.whole n)
  | none => x.real?.map .real

end Numeral

end JobNotice.Json
