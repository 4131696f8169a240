/-!
# Digits

A number is written with its most significant digit first. Letters continue the decimal digits up
to base sixteen, in either case.

## Main definitions

* `Text.digitValue?` — the value of a digit
* `Text.digitsNat` — the number that digits write
-/

namespace JobNotice.Text

/-- The value of a decimal or hexadecimal digit. -/
def digitValue? (c : Char) : Option Nat :=
  let n := c.toNat
  if 48 ≤ n ∧ n ≤ 57 then some (n - 48)
  else if 97 ≤ n ∧ n ≤ 102 then some (n - 87)
  else if 65 ≤ n ∧ n ≤ 70 then some (n - 55)
  else none

/-- The number that digits write in a base. -/
def digitsNat (base : Nat) (ds : List Char) : Nat :=
  ds.foldl (fun n c => n * base + (digitValue? c).getD 0) 0

end JobNotice.Text
