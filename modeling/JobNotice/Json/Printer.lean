import JobNotice.Json.Value

/-!
# JSON text of a value

Compact text puts nothing between the parts of a value. Indented text puts every item and member
on a line of its own, two blanks deeper than what holds it. In a string only the quote, the
backslash and the C0 controls are escaped.

## Main definitions

* `Json.escapeChar`, `Json.quote` — strings in their quotes
* `Json.Value.compact` — a value on one line
* `Json.Value.indented` — a value over several lines
-/

namespace JobNotice.Json

/-- A hexadecimal digit in lower case. -/
def hexDigit (n : Nat) : Char :=
  if n < 10 then Char.ofNat (48 + n) else Char.ofNat (87 + n)

/-- A character as it stands inside a quoted string. -/
def escapeChar (c : Char) : List Char :=
  if c = '"' then ['\\', '"']
  else if c = '\\' then ['\\', '\\']
  else if c = '\n' then ['\\', 'n']
  else if c = '\r' then ['\\', 'r']
  else if c = '\t' then ['\\', 't']
  else if c.toNat = 8 then ['\\', 'b']
  else if c.toNat = 12 then ['\\', 'f']
  else if c.toNat < 0x20 then
    ['\\', 'u', '0', '0', hexDigit (c.toNat / 16), hexDigit (c.toNat % 16)]
  else [c]

/-- A string in its quotes. -/
def quoteChars (s : List Char) : List Char := '"' :: (s.flatMap escapeChar ++ ['"'])

def quote (s : String) : String := String.ofList (quoteChars s.toList)

namespace Value

/-! ### On one line -/

mutual

/-- The compact text of a value. -/
def compactChars : Value → List Char
  | .null => "null".toList
  | .bool true => "true".toList
  | .bool false => "false".toList
  | .number n => n.text.toList
  | .string s => quoteChars s.toList
  | .array [] => ['[', ']']
  | .array (v :: rest) => '[' :: (compactChars v ++ (compactItems rest ++ [']']))
  | .object [] => ['{', '}']
  | .object ((k, v) :: rest) =>
    '{' :: (quoteChars k.toList ++ (':' :: (compactChars v ++ (compactMembers rest ++ ['}']))))

/-- Further items, each after a comma. -/
def compactItems : List Value → List Char
  | [] => []
  | v :: rest => ',' :: (compactChars v ++ compactItems rest)

/-- Further members, each after a comma. -/
def compactMembers : List (String × Value) → List Char
  | [] => []
  | (k, v) :: rest =>
    ',' :: (quoteChars k.toList ++ (':' :: (compactChars v ++ compactMembers rest)))

end

def compact (v : Value) : String := String.ofList v.compactChars

/-! ### Over several lines -/

/-- A line break and the blanks of a depth. -/
def newline (depth : Nat) : List Char := '\n' :: List.replicate (2 * depth) ' '

mutual

/-- The indented text of a value that stands at a depth. -/
def indentedChars (depth : Nat) : Value → List Char
  | .null => "null".toList
  | .bool true => "true".toList
  | .bool false => "false".toList
  | .number n => n.text.toList
  | .string s => quoteChars s.toList
  | .array [] => ['[', ']']
  | .array (v :: rest) =>
    '[' :: (newline (depth + 1) ++ (indentedChars (depth + 1) v ++
      (indentedItems (depth + 1) rest ++ (newline depth ++ [']']))))
  | .object [] => ['{', '}']
  | .object ((k, v) :: rest) =>
    '{' :: (newline (depth + 1) ++ (quoteChars k.toList ++ (':' :: ' ' ::
      (indentedChars (depth + 1) v ++
        (indentedMembers (depth + 1) rest ++ (newline depth ++ ['}'])))))) 

/-- Further items at a depth, each after a comma. -/
def indentedItems (depth : Nat) : List Value → List Char
  | [] => []
  | v :: rest =>
    ',' :: (newline depth ++ (indentedChars depth v ++ indentedItems depth rest))

/-- Further members at a depth, each after a comma. -/
def indentedMembers (depth : Nat) : List (String × Value) → List Char
  | [] => []
  | (k, v) :: rest =>
    ',' :: (newline depth ++ (quoteChars k.toList ++ (':' :: ' ' ::
      (indentedChars depth v ++ indentedMembers depth rest))))

end

def indented (v : Value) : String := String.ofList (v.indentedChars 0)

end Value

end JobNotice.Json
