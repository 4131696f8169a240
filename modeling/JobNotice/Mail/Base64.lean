/-!
# Base64

Three bytes are written as four of 64 characters; one or two bytes at the end are filled up with
equals signs.

## Main definitions

* `Mail.Base64.encode` — bytes in base64
* `Mail.Base64.decode?` — the bytes that a text in base64 stands for
-/

namespace JobNotice.Mail.Base64

/-- The character for six bits. -/
def digit (n : Nat) : Char :=
  if n < 26 then Char.ofNat (65 + n)
  else if n < 52 then Char.ofNat (97 + (n - 26))
  else if n < 62 then Char.ofNat (48 + (n - 52))
  else if n = 62 then '+'
  else '/'

def encode : List Nat → List Char
  | [] => []
  | [a] => [digit (a / 4), digit (a % 4 * 16), '=', '=']
  | [a, b] => [digit (a / 4), digit (a % 4 * 16 + b / 16), digit (b % 16 * 4), '=']
  | a :: b :: c :: r =>
    digit (a / 4) :: digit (a % 4 * 16 + b / 16) :: digit (b % 16 * 4 + c / 64) ::
      digit (c % 64) :: encode r

/-- The six bits of a character. -/
def value? (c : Char) : Option Nat :=
  let n := c.toNat
  if 65 ≤ n ∧ n ≤ 90 then some (n - 65)
  else if 97 ≤ n ∧ n ≤ 122 then some (n - 97 + 26)
  else if 48 ≤ n ∧ n ≤ 57 then some (n - 48 + 52)
  else if c = '+' then some 62
  else if c = '/' then some 63
  else none

/-- The bytes of a text; bits that do not belong to a byte are zero. -/
def decode? : List Char → Option (List Nat)
  | [] => some []
  | [a, b, '=', '='] => do
    let x ← value? a
    let y ← value? b
    if y % 16 = 0 then some [x * 4 + y / 16] else none
  | [a, b, c, '='] => do
    let x ← value? a
    let y ← value? b
    let z ← value? c
    if z % 4 = 0 then some [x * 4 + y / 16, y % 16 * 16 + z / 4] else none
  | a :: b :: c :: d :: r => do
    let x ← value? a
    let y ← value? b
    let z ← value? c
    let w ← value? d
    let rest ← decode? r
    some ((x * 4 + y / 16) :: (y % 16 * 16 + z / 4) :: (z % 4 * 64 + w) :: rest)
  | _ => none

end JobNotice.Mail.Base64
