import JobNotice.Calendar.Instant
import JobNotice.Decimal.Shortest
import JobNotice.Text.Blank
import JobNotice.Text.Digits
import JobNotice.Text.Utf8

/-!
# Timestamps in text

A timestamp is written as RFC 3339 has it, in universal time: `2026-01-18T20:10:02.5Z`. The
reader is more lenient: blanks may stand before every number and separator, a number may have
fewer digits than usual, a blank may stand for the `T`, and a year may have a sign and then any
number of digits. Years outside 0 to 9999 are written with a sign and at least four digits.

## Main definitions

* `Calendar.TimeError` — why a text is no timestamp
* `Calendar.Instant.ofText` — the instant of a text
* `Calendar.Instant.text` — the text of an instant
* `Calendar.Offset`, `Calendar.Instant.display` — how an instant is shown to people
-/

namespace JobNotice.Calendar

open Text (isBlank)

/-- Why a text is no timestamp. -/
inductive TimeError
  | outOfRange
  | impossible
  | invalid
  | tooShort
  | tooLong
  deriving DecidableEq

def TimeError.message : TimeError → String
  | .outOfRange => "input is out of range"
  | .impossible => "no possible date and time matching input"
  | .invalid => "input contains invalid characters"
  | .tooShort => "premature end of input"
  | .tooLong => "trailing input"

/-- What a step of a reader gives; most give what they read and the rest of the text. -/
abbrev Scan := Except TimeError

/-! ### Numbers and separators -/

def skipBlanks (s : List Char) : List Char := s.dropWhile isBlank

/-- A number that has at least one digit and, with a `width`, at most that many. -/
def readDigits (width : Option Nat) (s : List Char) : Scan (Nat × List Char) :=
  let ds := (match width with | some w => s.take w | none => s).takeWhile Char.isDigit
  if ds.isEmpty then .error (if s.isEmpty then .tooShort else .invalid)
  else .ok (Text.digitsNat 10 ds, s.drop ds.length)

/-- A number of at most two digits after blanks, which must lie between `low` and `high`. -/
def readField (low high : Nat) (s : List Char) : Scan (Nat × List Char) := do
  let (n, r) ← readDigits (some 2) (skipBlanks s)
  if low ≤ n ∧ n ≤ high then .ok (n, r) else .error .outOfRange

/-- A separator after blanks. -/
def readSeparator (sep : Char) (s : List Char) : Scan (List Char) :=
  match skipBlanks s with
  | [] => .error .tooShort
  | c :: r => if c = sep then .ok r else .error .invalid

/-- A year: four digits at most, or a sign and any number of digits. -/
def readYear (s : List Char) : Scan (Int × List Char) := do
  let (year, r) ←
    match skipBlanks s with
    | '-' :: r => do
      let (n, r) ← readDigits none r
      .ok (-(n : Int), r)
    | '+' :: r => do
      let (n, r) ← readDigits none r
      .ok ((n : Int), r)
    | s => do
      let (n, r) ← readDigits (some 4) s
      .ok ((n : Int), r)
  if -2147483648 ≤ year ∧ year ≤ 2147483647 then .ok (year, r) else .error .outOfRange

/-- An optional fraction of a second in nanoseconds: the first nine digits count. -/
def readFraction : List Char → Scan (Nat × List Char)
  | '.' :: s => do
    let (n, r) ← readDigits (some 9) s
    .ok (n * Nat.pow 10 (9 - (s.length - r.length)), r.dropWhile Char.isDigit)
  | s => .ok (0, s)

/-! ### Offsets -/

/-- A decimal digit's value. -/
def digit? (c : Char) : Option Nat := if c.isDigit then some (c.toNat - 48) else none

/-- The two digits of an offset's hours. -/
def readOffsetHours (s : List Char) : Scan (Nat × List Char) :=
  if Text.utf8Length (s.take 2) < 2 then .error .tooShort
  else
    match s with
    | a :: b :: r =>
      match digit? a, digit? b with
      | some a, some b => .ok (a * 10 + b, r)
      | _, _ => .error .invalid
    | _ => .error .invalid

/-- The two digits of an offset's minutes. -/
def readOffsetMinutes (s : List Char) : Scan (Nat × List Char) :=
  if Text.utf8Length (s.take 2) < 2 then .error .tooShort
  else
    match s with
    | a :: b :: r =>
      match digit? a, digit? b with
      | some a, some b => if a < 6 then .ok (a * 10 + b, r) else .error .outOfRange
      | _, _ => .error .invalid
    | _ => .error .invalid

/-- The seconds of hours and minutes after a sign; colons and blanks may part them. -/
def readSignedOffset (negative : Bool) (s : List Char) : Scan (Int × List Char) := do
  let (h, r) ← readOffsetHours s
  let (m, r) ← readOffsetMinutes (r.dropWhile fun c => c = ':' || isBlank c)
  let seconds : Int := h * 3600 + m * 60
  .ok (if negative then -seconds else seconds, r)

/-- The offset of a timestamp in seconds east of universal time: `Z`, `UTC`, or a sign with
hours and minutes. -/
def readOffset (s : List Char) : Scan (Int × List Char) :=
  match s with
  | [] => .error .tooShort
  | c :: r =>
    if ((c :: r).take 3).map Char.toUpper = ['U', 'T', 'C'] then .ok (0, r.drop 2)
    else if c = 'Z' ∨ c = 'z' then .ok (0, r)
    else if c = '+' then readSignedOffset false r
    else if c = '-' ∨ c.toNat = 0x2212 then readSignedOffset true r
    else .error .invalid

/-! ### Timestamps -/

/-- The greatest and least years of a date. -/
def yearInRange (year : Int) : Bool := -262143 ≤ year && year ≤ 262142

/-- The parts of a timestamp as they are written. -/
structure Written where
  date : Date
  hour : Nat
  minute : Nat
  second : Nat
  nanos : Nat
  /-- Seconds east of universal time. -/
  offset : Int

/-- The mark between date and time. -/
def readMark : List Char → Scan (List Char)
  | [] => .error .tooShort
  | c :: r => if c = 't' ∨ c = 'T' ∨ c = ' ' then .ok r else .error .invalid

/-- The parts of a timestamp, each within its own bounds. -/
def readWritten (s : List Char) : Scan Written := do
  let (year, s) ← readYear s
  let s ← readSeparator '-' s
  let (month, s) ← readField 1 12 s
  let s ← readSeparator '-' s
  let (day, s) ← readField 1 31 s
  let s ← readMark s
  let (hour, s) ← readField 0 23 s
  let s ← readSeparator ':' s
  let (minute, s) ← readField 0 59 s
  let s ← readSeparator ':' s
  let (second, s) ← readField 0 60 s
  let (nanos, s) ← readFraction s
  let (offset, s) ← readOffset (skipBlanks s)
  if skipBlanks s ≠ [] then .error .tooLong
  .ok ⟨⟨year, month, day⟩, hour, minute, second, nanos, offset⟩

/-- An instant, if its parts are within bounds. -/
def Instant.ofParts? (day : Int) (second nanos : Nat) : Option Instant :=
  if h : firstDay ≤ day ∧ day ≤ lastDay ∧ second < 86400 ∧ nanos < 2 * nanosPerSecond then
    some ⟨day, second, nanos, h.1, h.2.1, h.2.2.1, h.2.2.2⟩
  else none

namespace Written

/-- The second of the local day; the 60th second of a minute is the one before it. -/
def localSecond (w : Written) : Int := w.hour * 3600 + w.minute * 60 + min w.second 59

/-- The instant that a timestamp denotes. -/
def instant (w : Written) : Scan Instant :=
  if !(decide w.date.Valid && yearInRange w.date.year) then .error .outOfRange
  else if w.offset ≤ -86400 ∨ 86400 ≤ w.offset then .error .outOfRange
  else
    let total := w.date.toDay * 86400 + w.localSecond - w.offset
    let nanos := if w.second = 60 then nanosPerSecond + w.nanos else w.nanos
    match Instant.ofParts? (total / 86400) (total % 86400).toNat nanos with
    | some t => .ok t
    | none => .error .impossible

end Written

/-- The instant of a timestamp. -/
def Instant.ofText (s : String) : Scan Instant := do
  let w ← readWritten s.toList
  w.instant

/-! ### Writing -/

/-- A number with at least `width` digits, zeros in front. -/
def padded (width n : Nat) : List Char :=
  let ds := Decimal.natChars n
  List.replicate (width - ds.length) '0' ++ ds

/-- A year: four digits, or a sign and at least four when it is not between 0 and 9999. -/
def yearChars (year : Int) : List Char :=
  if 0 ≤ year ∧ year ≤ 9999 then padded 4 year.toNat
  else (if year < 0 then '-' else '+') :: padded 4 year.natAbs

def dateChars (d : Date) : List Char :=
  yearChars d.year ++ '-' :: (padded 2 d.month ++ '-' :: padded 2 d.day)

/-- Hours, minutes and seconds of a second of the day; a leap second is the 60th. -/
def clockChars (second : Nat) (leap : Bool) : List Char :=
  padded 2 (second / 3600) ++ ':' :: (padded 2 (second / 60 % 60) ++ ':' ::
    padded 2 (second % 60 + if leap then 1 else 0))

/-- A fraction of a second with three, six or nine digits, nothing when it is zero. -/
def fractionChars (nanos : Nat) : List Char :=
  if nanos = 0 then []
  else if nanos % 1000000 = 0 then '.' :: padded 3 (nanos / 1000000)
  else if nanos % 1000 = 0 then '.' :: padded 6 (nanos / 1000)
  else '.' :: padded 9 nanos

namespace Instant

/-- The text of an instant. -/
def chars (t : Instant) : List Char :=
  dateChars (.ofDay t.day) ++ 'T' :: (clockChars t.second t.inLeapSecond ++
    (fractionChars (t.nanos % nanosPerSecond) ++ ['Z']))

def text (t : Instant) : String := String.ofList t.chars

end Instant

/-! ### Display -/

/-- An offset from universal time, less than a day, in seconds to the east. -/
structure Offset where
  seconds : Int
  west : -86400 < seconds
  east : seconds < 86400
  deriving DecidableEq

namespace Offset

instance : Inhabited Offset := ⟨⟨0, by decide, by decide⟩⟩

def ofSeconds? (seconds : Int) : Option Offset :=
  if h : -86400 < seconds ∧ seconds < 86400 then some ⟨seconds, h.1, h.2⟩ else none

end Offset

/-- The local date and time of an instant, without a fraction: `2026-01-18 15:10:02`. -/
def Instant.localChars (t : Instant) (offset : Offset) : List Char :=
  let total := t.seconds + offset.seconds
  dateChars (.ofDay (total / 86400)) ++
    ' ' :: clockChars (total % 86400).toNat t.inLeapSecond

/-- The local date and time, followed by a label unless that is empty. -/
def Instant.display (t : Instant) (offset : Offset) (label : String) : String :=
  String.ofList (t.localChars offset ++ if label.isEmpty then [] else ' ' :: label.toList)

end JobNotice.Calendar
