import JobNotice.Decimal.Shortest
import JobNotice.Text.Digits

/-!
# Durations in words

A duration is said in hours, minutes and seconds, parts that are zero left out:
`1 hour, 2 minutes, 3 seconds`. Only the empty duration is `0 seconds`.

## Main definitions

* `Calendar.phrase` — the words of a number of seconds
* `Calendar.ofPhrase?` — the number of seconds of such words
-/

namespace JobNotice.Calendar

/-- A count of a unit; the plural has an `s`, only one is singular. -/
def counted (n : Nat) (unit : String) : String :=
  Decimal.natText n ++ " " ++ unit ++ (if n = 1 then "" else "s")

/-- The parts of a duration with their units, the greatest first. -/
def components (total : Nat) : List (Nat × String) :=
  [(total / 3600, "hour"), (total % 3600 / 60, "minute"), (total % 60, "second")]

/-- The words of a number of seconds. -/
def phrase (total : Nat) : String :=
  match (components total).filter fun p => p.1 > 0 with
  | [] => "0 seconds"
  | parts => ", ".intercalate (parts.map fun p => counted p.1 p.2)

/-! ### Reading a phrase -/

/-- The decimal number at the head of a text, which goes on after it. -/
def readCount (s : List Char) : Nat × List Char :=
  (Text.digitsNat 10 (s.takeWhile Char.isDigit),
    s.dropWhile Char.isDigit)

/-- The seconds of a unit. -/
def unitSeconds? (unit : List Char) : Option Nat :=
  if unit = "hour".toList ∨ unit = "hours".toList then some 3600
  else if unit = "minute".toList ∨ unit = "minutes".toList then some 60
  else if unit = "second".toList ∨ unit = "seconds".toList then some 1
  else none

/-- The seconds of a count with its unit. -/
def readPart? (part : List Char) : Option Nat :=
  match readCount part with
  | (n, ' ' :: unit) => (unitSeconds? unit).map (n * ·)
  | _ => none

/-- The parts of a text between single occurrences of a comma and a blank. -/
def splitParts : List Char → List (List Char)
  | [] => [[]]
  | ',' :: ' ' :: r => [] :: splitParts r
  | c :: r =>
    match splitParts r with
    | [] => [[c]]
    | p :: ps => (c :: p) :: ps

/-- The seconds of all parts together. -/
def readParts? : List (List Char) → Option Nat
  | [] => some 0
  | part :: rest => do return (← readPart? part) + (← readParts? rest)

/-- The number of seconds that a phrase says. -/
def ofPhrase? (s : String) : Option Nat := readParts? (splitParts s.toList)

end JobNotice.Calendar
