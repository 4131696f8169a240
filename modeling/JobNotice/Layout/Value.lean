import JobNotice.Json.Printer
import JobNotice.Layout.Expr
import JobNotice.Layout.Failure
import JobNotice.Text.Quoted

/-!
# Values in layouts

The values of expressions are JSON values. Whole numbers are computed with exactly as long as they
fit 64 bits; everything else is computed with doubles.

## Main definitions

* `Layout.Value.chars` — how a value is printed
* `Layout.Value.isTruthy` — which values count as true
* `Layout.Number.compute` — arithmetic
-/

namespace JobNotice.Layout

open Json (Value Number)
open Decimal (Binary64)

/-! ### Printing -/

/-- A number as it is printed: doubles without an exponent and without a point when whole. -/
def numberText : Number → String
  | .whole n => Decimal.intText n
  | .real x => x.plainText

mutual

/-- What a value prints. -/
def printed : Value → List Char
  | .null => []
  | .bool b => if b then "true".toList else "false".toList
  | .number n => (numberText n).toList
  | .string s => s.toList
  | .array items => '[' :: (printedItems items ++ [']'])
  | .object _ => "[object]".toList

def printedItems : List Value → List Char
  | [] => []
  | [v] => printed v
  | v :: rest => printed v ++ (',' :: ' ' :: printedItems rest)

end

mutual

/-- A value as a message shows it, with its kind. -/
def shown : Value → String
  | .null => "Null"
  | .bool b => if b then "Bool(true)" else "Bool(false)"
  | .number n => "Number(" ++ n.text ++ ")"
  | .string s => "String(" ++ Text.quoted s ++ ")"
  | .array items => "Array [" ++ shownItems items ++ "]"
  | .object _ => "Object"

def shownItems : List Value → String
  | [] => ""
  | [v] => shown v
  | v :: rest => shown v ++ ", " ++ shownItems rest

end

/-! ### Truth and equality -/

/-- Zero, `false`, `null` and everything empty count as false. -/
def isTruthy : Value → Bool
  | .null => false
  | .bool b => b
  | .number (.whole n) => n != 0
  | .number (.real x) => !x.isZero && x != .nan
  | .string s => !s.isEmpty
  | .array items => !items.isEmpty
  | .object members => !members.isEmpty

mutual

/-- Equality of values; whole numbers and doubles differ. -/
def sameValue : Value → Value → Bool
  | .null, .null => true
  | .bool a, .bool b => a == b
  | .number (.whole a), .number (.whole b) => a == b
  | .number (.real a), .number (.real b) => a.compare? b == some .eq
  | .string a, .string b => a == b
  | .array a, .array b => sameItems a b
  | _, _ => false

def sameItems : List Value → List Value → Bool
  | [], [] => true
  | a :: as, b :: bs => sameValue a b && sameItems as bs
  | _, _ => false

end

/-! ### Numbers -/

/-- A number as a double. -/
def toReal : Number → Binary64
  | .whole n => .ofInt n
  | .real x => x

/-- The greatest signed number of 64 bits. -/
def maxSigned : Int := 9223372036854775807

/-- Whether a whole number fits 64 bits with its sign. -/
def fitsSigned (n : Int) : Bool := -9223372036854775808 ≤ n && n ≤ maxSigned

/-- A finite double as a number. -/
def ofReal? (x : Binary64) : Option Number := if x.isFinite then some (.real x) else none

/-- A finite double rounded toward zero, clamped to signed 64 bits. -/
def truncated (x : Binary64) : Int :=
  match x with
  | .finite s m e =>
    let n : Int := match e with
      | .ofNat k => (m * Nat.pow 2 k : Nat)
      | .negSucc k => (m / Nat.pow 2 (k + 1) : Nat)
    let n := if s then -n else n
    max (-9223372036854775808) (min maxSigned n)
  | _ => 0

/-- Whether a finite double is a whole number. -/
def isWhole (x : Binary64) : Bool :=
  match x with
  | .finite _ m (.negSucc k) => m % Nat.pow 2 (k + 1) == 0
  | .finite .. => true
  | _ => false

/-- An operation on two whole numbers within 64 bits, or else on doubles. -/
def computeWith (word : String) (whole : Int → Int → Int)
    (real : Binary64 → Binary64 → Binary64) : Number → Number → Except Failure (Option Number)
  | .whole a, .whole b =>
    if fitsSigned a && fitsSigned b then
      if fitsSigned (whole a b) then .ok (some (.whole (whole a b)))
      else .error (.overflow (Decimal.intText a) word (Decimal.intText b) "i64")
    else if 0 ≤ a ∧ 0 ≤ b then
      let c := whole a b
      if 0 ≤ c ∧ c ≤ 18446744073709551615 then .ok (some (.whole c))
      else .error (.overflow (Decimal.intText a) word (Decimal.intText b) "u64")
    else .ok (ofReal? (real (.ofInt a) (.ofInt b)))
  | x, y => .ok (ofReal? (real (toReal x) (toReal y)))

/-- A quotient of doubles, whole when it can be. -/
def quotient (x y : Number) : Option Number :=
  let q := (toReal x).div (toReal y)
  if isWhole q then some (.whole (truncated q)) else ofReal? q

/-- The result of an operation; none when it is not a number. -/
def compute (op : MathOp) (lhs rhs : String) (x y : Number) : Except Failure (Option Number) :=
  match op with
  | .add => computeWith "+" (· + ·) Binary64.add x y
  | .sub => computeWith "-" (· - ·) Binary64.sub x y
  | .mul => computeWith "x" (· * ·) Binary64.mul x y
  | .div => .ok (quotient x y)
  | .mod =>
    match x, y with
    | .whole a, .whole b =>
      if b = 0 then .error (.moduloByZero lhs rhs) else .ok (some (.whole (Int.tmod a b)))
    | x, y => .ok (ofReal? ((toReal x).rem (toReal y)))

/-- A comparison of doubles. -/
def Comparison.holds (op : Comparison) (x y : Binary64) : Bool :=
  match op, x.compare? y with
  | .eq, some .eq => true
  | .ne, r => r != some .eq
  | .lt, some .lt => true
  | .le, some .lt => true
  | .le, some .eq => true
  | .gt, some .gt => true
  | .ge, some .gt => true
  | .ge, some .eq => true
  | _, _ => false

/-- A term as a message shows it. -/
def termShown : Term → String
  | .int n => "Int(" ++ Decimal.intText n ++ ")"
  | .real x => "Float(" ++ x.pointedText ++ ")"
  | .string s => "String(" ++ Text.quoted s ++ ")"
  | .bool b => if b then "Bool(true)" else "Bool(false)"
  | .path p => "Ident(" ++ Text.quoted p ++ ")"
  | _ => "Math"

/-- An expression as a message shows it. -/
def exprShown (e : Expr) : String :=
  "Expr \x7b val: " ++ termShown e.term ++ ", negated: " ++
    (if e.negated then "true" else "false") ++ ", filters: [] \x7d"

end JobNotice.Layout
