/-!
# Double-precision numbers

A number with a fraction is held as a sign, a whole mantissa and a power of two. Every operation
computes the exact rational result first and then rounds it once, to the nearest representable
number, a tie going to the even mantissa.

## Canonical form

`ofRatio` only builds mantissas below `2 ^ 53`, with exponent at least `-1074`, and a mantissa
below `2 ^ 52` only at that exponent. So equal numbers are equal as values, the two zeros apart.

## Main definitions

* `Binary64` — finite numbers, infinities and not-a-number
* `Binary64.ofRatio` — the nearest double to a fraction of natural numbers
* `Binary64.add`, `mul`, `div`, `rem` — arithmetic, rounded once
* `Binary64.compare` — the numeric order, in which the zeros are equal
-/

namespace JobNotice.Decimal

/-- A double-precision number; the finite ones are `± mantissa * 2 ^ exponent`. -/
inductive Binary64
  | finite (negative : Bool) (mantissa : Nat) (exponent : Int)
  | infinite (negative : Bool)
  | nan
  deriving DecidableEq, Inhabited

namespace Binary64

/-- The exponent of the smallest steps. -/
def minExponent : Int := -1074

/-- The least mantissa of a number that is not among the smallest, `2 ^ 52`. -/
def leastNormal : Nat := 4503599627370496

/-- The greatest exponent of a finite number. -/
def maxExponent : Int := 971

def zero (negative : Bool) : Binary64 := .finite negative 0 minExponent

/-- `num / den` scaled by `2 ^ (-e)`, as a fraction of natural numbers. -/
def scaled (num den : Nat) (e : Int) : Nat × Nat :=
  match e with
  | .ofNat k => (num, den * Nat.pow 2 k)
  | .negSucc k => (num * Nat.pow 2 (k + 1), den)

/-- A fraction rounded to a whole number, a tie going to the even neighbour. -/
def roundHalfEven (num den : Nat) : Nat :=
  let q := num / den
  let r := num % den
  if 2 * r > den ∨ (2 * r = den ∧ q % 2 = 1) then q + 1 else q

/-- The `l` with `2 ^ l ≤ num / den < 2 ^ (l + 1)`, for a positive fraction. -/
def binaryOrder (num den : Nat) : Int :=
  let guess : Int := (num.log2 : Int) - (den.log2 : Int)
  let (n, d) := scaled num den guess
  if d ≤ n then guess else guess - 1

/-- The double nearest to `num / den`; past the greatest finite one it is infinite. -/
def ofRatio (negative : Bool) (num den : Nat) : Binary64 :=
  if num = 0 then zero negative
  else
    let e := max (binaryOrder num den - 52) minExponent
    let (n, d) := scaled num den e
    let m := roundHalfEven n d
    let (m, e) := if m = 2 * leastNormal then (leastNormal, e + 1) else (m, e)
    if e > maxExponent then .infinite negative else .finite negative m e

/-- The double nearest to `m * 2 ^ e`. -/
def ofScaled (negative : Bool) (m : Nat) (e : Int) : Binary64 :=
  match e with
  | .ofNat k => ofRatio negative (m * Nat.pow 2 k) 1
  | .negSucc k => ofRatio negative m (Nat.pow 2 (k + 1))

def ofNat (n : Nat) : Binary64 := ofRatio false n 1

def ofInt (i : Int) : Binary64 := ofRatio (i < 0) i.natAbs 1

/-- The double nearest to `m * 10 ^ e`. -/
def ofDecimal (negative : Bool) (m : Nat) (e : Int) : Binary64 :=
  match e with
  | .ofNat k => ofRatio negative (m * Nat.pow 10 k) 1
  | .negSucc k => ofRatio negative m (Nat.pow 10 (k + 1))

def isZero : Binary64 → Bool
  | .finite _ m _ => m == 0
  | _ => false

def isInfinite : Binary64 → Bool
  | .infinite _ => true
  | _ => false

def isFinite : Binary64 → Bool
  | .finite .. => true
  | _ => false

def isNegative : Binary64 → Bool
  | .finite s _ _ => s
  | .infinite s => s
  | .nan => false

def neg : Binary64 → Binary64
  | .finite s m e => .finite (!s) m e
  | .infinite s => .infinite (!s)
  | .nan => .nan

/-- The signed mantissa once the exponent is lowered to `low`. -/
def mantissaAt (negative : Bool) (m : Nat) (e low : Int) : Int :=
  let a : Int := (m * Nat.pow 2 (e - low).toNat : Nat)
  if negative then -a else a

/-- A signed whole number of steps `2 ^ e`, with the sign that an exact zero is to have. -/
def ofSteps (zeroNegative : Bool) (steps : Int) (e : Int) : Binary64 :=
  if steps = 0 then zero zeroNegative else ofScaled (steps < 0) steps.natAbs e

def add : Binary64 → Binary64 → Binary64
  | .nan, _ => .nan
  | _, .nan => .nan
  | .infinite s, .infinite t => if s = t then .infinite s else .nan
  | .infinite s, _ => .infinite s
  | _, .infinite t => .infinite t
  | .finite s m e, .finite t n f =>
    let low := min e f
    ofSteps (s && t) (mantissaAt s m e low + mantissaAt t n f low) low

def sub (x y : Binary64) : Binary64 := add x (neg y)

def mul : Binary64 → Binary64 → Binary64
  | .nan, _ => .nan
  | _, .nan => .nan
  | .infinite s, y => if y.isZero then .nan else .infinite (s != y.isNegative)
  | x, .infinite t => if x.isZero then .nan else .infinite (x.isNegative != t)
  | .finite s m e, .finite t n f => ofScaled (s != t) (m * n) (e + f)

def div : Binary64 → Binary64 → Binary64
  | .nan, _ => .nan
  | _, .nan => .nan
  | .infinite _, .infinite _ => .nan
  | .infinite s, y => .infinite (s != y.isNegative)
  | x, .infinite t => zero (x.isNegative != t)
  | .finite s m e, .finite t n f =>
    if n = 0 then if m = 0 then .nan else .infinite (s != t)
    else
      let (a, b) := scaled m n (f - e)
      ofRatio (s != t) a b

/-- The remainder of a division rounded toward zero, with the sign of the first number. -/
def rem : Binary64 → Binary64 → Binary64
  | .nan, _ => .nan
  | _, .nan => .nan
  | .infinite _, _ => .nan
  | x, .infinite _ => x
  | .finite s m e, .finite _ n f =>
    if n = 0 then .nan
    else
      let low := min e f
      ofSteps s (Int.tmod (mantissaAt s m e low) (mantissaAt false n f low)) low

/-- The numeric order; nothing is comparable with not-a-number. -/
def compare? : Binary64 → Binary64 → Option Ordering
  | .nan, _ => none
  | _, .nan => none
  | .infinite s, .infinite t => some (if s = t then .eq else if s then .lt else .gt)
  | .infinite s, _ => some (if s then .lt else .gt)
  | _, .infinite t => some (if t then .gt else .lt)
  | .finite s m e, .finite t n f =>
    let low := min e f
    some (Ord.compare (mantissaAt s m e low) (mantissaAt t n f low))

end Binary64

end JobNotice.Decimal
