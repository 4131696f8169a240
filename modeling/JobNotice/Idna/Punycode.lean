import JobNotice.Text.CodePoints

/-!
# Punycode

A label with characters outside ASCII is written in ASCII: its ASCII characters come first, and
after a hyphen the others in the order of their code points, as distances in a number system of 36
digits whose thresholds adapt.

## Main definitions

* `Idna.Punycode.encode` — a label in ASCII
* `Idna.Punycode.decode?` — the label of a text in ASCII
-/

namespace JobNotice.Idna.Punycode

/-- The digit for a number below 36. -/
def digit (n : Nat) : Char := if n < 26 then Char.ofNat (97 + n) else Char.ofNat (22 + n)

def value? (c : Char) : Option Nat :=
  let n := c.toNat
  if 97 ≤ n ∧ n ≤ 122 then some (n - 97)
  else if 65 ≤ n ∧ n ≤ 90 then some (n - 65)
  else if 48 ≤ n ∧ n ≤ 57 then some (n - 22)
  else none

/-- The threshold of the digit at a position, positions being counted in steps of 36. -/
def threshold (position bias : Nat) : Nat :=
  if position ≤ bias then 1 else if bias + 26 ≤ position then 26 else position - bias

/-- Divides a distance by 35 until it is small; `count` bounds the divisions. -/
def adaptFrom : Nat → Nat → Nat → Nat
  | 0, k, delta => k + 36 * delta / (delta + 38)
  | count + 1, k, delta =>
    if delta > 455 then adaptFrom count (k + 36) (delta / 35)
    else k + 36 * delta / (delta + 38)

/-- The bias after a distance. -/
def adapt (delta points : Nat) (isFirst : Bool) : Nat :=
  let delta := if isFirst then delta / 700 else delta / 2
  adaptFrom 16 0 (delta + delta / points)

/-! ### Writing -/

/-- The digits of a distance; `count` bounds their number. -/
def digitsOf (bias : Nat) : Nat → Nat → Nat → List Char
  | 0, _, q => [digit q]
  | count + 1, position, q =>
    let t := threshold position bias
    if q < t then [digit q]
    else digit (t + (q - t) % (36 - t)) :: digitsOf bias count (position + 36) ((q - t) / (36 - t))

/-- What writing has come to. -/
structure Writer where
  delta : Nat
  bias : Nat
  /-- The number of characters written. -/
  written : Nat
  isFirst : Bool
  digits : List Char

/-- Goes past a character of the label while the code point `n` is written. -/
def Writer.pass (n : Nat) (w : Writer) (c : Nat) : Writer :=
  if c < n then { w with delta := w.delta + 1 }
  else if c = n then
    { delta := 0, bias := adapt w.delta (w.written + 1) w.isFirst, written := w.written + 1
      isFirst := false, digits := w.digits ++ digitsOf w.bias 32 36 w.delta }
  else w

/-- Writes the code points of a label from `n` on, `count` of which are left at most. -/
def writeFrom (label : List Nat) : Nat → Nat → Writer → Writer
  | 0, _, w => w
  | count + 1, n, w =>
    match (label.filter fun c => n ≤ c).min? with
    | none => w
    | some m =>
      let w := { w with delta := w.delta + (m - n) * (w.written + 1) }
      let w := label.foldl (Writer.pass m) w
      writeFrom label count (m + 1) { w with delta := w.delta + 1 }

/-- A label in ASCII. -/
def encode (label : List Char) : List Char :=
  let points := label.map Char.toNat
  let ascii := label.filter fun c => c.toNat < 0x80
  let start := if ascii.isEmpty then [] else ascii ++ ['-']
  start ++ (writeFrom points label.length 0x80 ⟨0, 72, ascii.length, true, []⟩).digits

/-! ### Reading -/

/-- The distance that digits write, and the digits after it. -/
def readDistance (bias : Nat) (position weight total : Nat) :
    List Char → Option (Nat × List Char)
  | [] => none
  | c :: r => do
    let d ← value? c
    let t := threshold position bias
    let total := total + d * weight
    if d < t then some (total, r) else readDistance bias (position + 36) (weight * (36 - t)) total r

/-- Puts characters into a label, `count` of them at most; `i` is the place after the last one put
in and `n` its code point. -/
def readFrom : Nat → Nat → Nat → Nat → List Char → List Char → Option (List Char)
  | _, _, _, _, label, [] => some label
  | 0, _, _, _, _, _ => none
  | count + 1, n, i, bias, label, digits => do
    let (delta, rest) ← readDistance bias 36 1 0 digits
    let size := label.length + 1
    let n := n + (i + delta) / size
    let place := (i + delta) % size
    if n.isValidChar then
      readFrom count n (place + 1) (adapt delta size (i = 0))
        (label.take place ++ Char.ofNat n :: label.drop place) rest
    else none

/-- The label of a text in ASCII. What stands before the last hyphen are its ASCII characters. -/
def decode? (s : List Char) : Option (List Char) :=
  let digits := (s.reverse.takeWhile (· ≠ '-')).reverse
  let ascii := s.take (s.length - digits.length - 1)
  if s.all fun c => c.toNat < 0x80 then
    if ascii.isEmpty then readFrom s.length 0x80 0 72 [] s
    else readFrom s.length 0x80 0 72 ascii digits
  else none

end JobNotice.Idna.Punycode
