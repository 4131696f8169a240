import JobNotice.Text.Unprintable

/-!
# Strings shown in quotes

A string that a message quotes stands in double quotes, so that its ends and its unprintable
characters can be seen: quote, backslash, tab, line feed, carriage return and NUL have short
escapes, every other unprintable character is given by its code point in hexadecimal.

## Main definitions

* `Text.quoted` — a string in quotes
-/

namespace JobNotice.Text

/-- The hexadecimal digits of a number, in lower case. -/
def hexChars (n : Nat) : List Char := Nat.toDigits 16 n

/-- A character as it stands between quotes. -/
def quotedChar (c : Char) : List Char :=
  if c = '"' ∨ c = '\\' then ['\\', c]
  else if c = '\t' then ['\\', 't']
  else if c = '\n' then ['\\', 'n']
  else if c = '\r' then ['\\', 'r']
  else if c.toNat = 0 then ['\\', '0']
  else if isUnprintable c then '\\' :: 'u' :: '{' :: (hexChars c.toNat ++ ['}'])
  else [c]

def quoted (s : String) : String :=
  String.ofList ('"' :: (s.toList.flatMap quotedChar ++ ['"']))

end JobNotice.Text
