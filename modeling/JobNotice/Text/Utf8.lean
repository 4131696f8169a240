/-!
# Bytes of text

Text is stored in UTF-8. Bytes that are not well-formed UTF-8 are no text.

## Main definitions

* `Text.utf8Bytes` — the bytes of a text
* `Text.ofUtf8?` — the text of bytes
-/

namespace JobNotice.Text

/-- The bytes of a character. -/
def utf8Char (c : Char) : List Nat :=
  let n := c.toNat
  if n < 0x80 then [n]
  else if n < 0x800 then [0xC0 + n / 64, 0x80 + n % 64]
  else if n < 0x10000 then [0xE0 + n / 4096, 0x80 + n / 64 % 64, 0x80 + n % 64]
  else [0xF0 + n / 262144, 0x80 + n / 4096 % 64, 0x80 + n / 64 % 64, 0x80 + n % 64]

/-- The bytes of a text. -/
def utf8Bytes (s : List Char) : List Nat := s.flatMap utf8Char

/-- Whether a byte continues a character. -/
def isContinuation (b : Nat) : Bool := 0x80 ≤ b && b < 0xC0

/-- The text of bytes, none when they are not well formed. -/
def ofUtf8? : List Nat → Option (List Char)
  | [] => some []
  | a :: r =>
    if a < 0x80 then (ofUtf8? r).map (Char.ofNat a :: ·)
    else if 0xC2 ≤ a ∧ a < 0xE0 then
      match r with
      | b :: r =>
        if isContinuation b then
          (ofUtf8? r).map (Char.ofNat ((a - 0xC0) * 64 + (b - 0x80)) :: ·)
        else none
      | _ => none
    else if 0xE0 ≤ a ∧ a < 0xF0 then
      match r with
      | b :: c :: r =>
        let n := ((a - 0xE0) * 64 + (b - 0x80)) * 64 + (c - 0x80)
        if isContinuation b && isContinuation c && decide (0x800 ≤ n) && !(0xD800 ≤ n && n < 0xE000)
        then (ofUtf8? r).map (Char.ofNat n :: ·)
        else none
      | _ => none
    else if 0xF0 ≤ a ∧ a < 0xF5 then
      match r with
      | b :: c :: d :: r =>
        let n := (((a - 0xF0) * 64 + (b - 0x80)) * 64 + (c - 0x80)) * 64 + (d - 0x80)
        if isContinuation b && isContinuation c && isContinuation d && decide (0x10000 ≤ n) &&
            decide (n < 0x110000)
        then (ofUtf8? r).map (Char.ofNat n :: ·)
        else none
      | _ => none
    else none

/-- The number of bytes of a text. -/
def utf8Length : List Char → Nat
  | [] => 0
  | c :: r => c.utf8Size + utf8Length r

end JobNotice.Text
