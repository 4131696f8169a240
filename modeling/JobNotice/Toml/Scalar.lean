import JobNotice.Text.Digits
import JobNotice.Toml.Value

/-!
# Strings, numbers and dates

Every reader gives what it read and the text after it, and nothing when the text does not begin
with what it reads.

## Main definitions

* `Toml.readQuoted`, `Toml.readVerbatim` — strings on one line
* `Toml.readQuotedLines`, `Toml.readVerbatimLines` — strings on several lines
* `Toml.readInteger`, `Toml.readReal`, `Toml.readMoment`
-/

namespace JobNotice.Toml

def isSpace (c : Char) : Bool := c = ' ' || c = '\t'

def skipSpace (s : List Char) : List Char := s.dropWhile isSpace

/-- Comments and strings on one line hold tabs and every character that is no ASCII control. -/
def isPlain (c : Char) : Bool := c = '\t' || (0x20 ≤ c.toNat && c.toNat != 0x7F)

/-! ### Strings -/

def prepend (c : Char) : Option (List Char × List Char) → Option (List Char × List Char)
  | some (s, r) => some (c :: s, r)
  | none => none

/-- The character whose code point hexadecimal digits give. -/
def hexChar? (digits : List Char) : Option Char := do
  let n ← digits.foldlM (fun n c => (Text.digitValue? c).map (n * 16 + ·)) 0
  if n.isValidChar then some (Char.ofNat n) else none

/-- The character for which a letter after a backslash stands. -/
def escaped? : Char → Option Char
  | 'b' => some '\x08'
  | 't' => some '\t'
  | 'n' => some '\n'
  | 'f' => some '\x0c'
  | 'r' => some '\r'
  | '"' => some '"'
  | '\\' => some '\\'
  | _ => none

/-- A string on one line, after its quotation mark. -/
def readQuoted : List Char → Option (List Char × List Char)
  | [] => none
  | '"' :: r => some ([], r)
  | '\\' :: 'u' :: a :: b :: c :: d :: r =>
    match hexChar? [a, b, c, d] with
    | some x => prepend x (readQuoted r)
    | none => none
  | '\\' :: 'U' :: a :: b :: c :: d :: e :: f :: g :: h :: r =>
    match hexChar? [a, b, c, d, e, f, g, h] with
    | some x => prepend x (readQuoted r)
    | none => none
  | '\\' :: e :: r =>
    match escaped? e with
    | some x => prepend x (readQuoted r)
    | none => none
  | c :: r => if isPlain c && c != '\\' then prepend c (readQuoted r) else none

/-- A string on one line that has no escapes, after its apostrophe. -/
def readVerbatim : List Char → Option (List Char × List Char)
  | [] => none
  | c :: r =>
    if c = '\'' then some ([], r)
    else if isPlain c then prepend c (readVerbatim r)
    else none

/-- Whether nothing but blanks comes before the end of the line. -/
def endsLine (s : List Char) : Bool :=
  match skipSpace s with
  | '\n' :: _ => true
  | '\r' :: '\n' :: _ => true
  | _ => false

/-- A string on several lines, after its three quotation marks. One or two more of these marks
before the last three belong to the string. After a backslash at the end of a line `skipping` is
true, until something else than blanks and line ends comes. -/
def readQuotedLines (skipping : Bool) : List Char → Option (List Char × List Char)
  | [] => none
  | '"' :: '"' :: '"' :: '"' :: '"' :: r => some (['"', '"'], r)
  | '"' :: '"' :: '"' :: '"' :: r => some (['"'], r)
  | '"' :: '"' :: '"' :: r => some ([], r)
  | '\r' :: '\n' :: r =>
    if skipping then readQuotedLines true r else prepend '\n' (readQuotedLines false r)
  | '\\' :: 'u' :: a :: b :: c :: d :: r =>
    match hexChar? [a, b, c, d] with
    | some x => prepend x (readQuotedLines false r)
    | none => none
  | '\\' :: 'U' :: a :: b :: c :: d :: e :: f :: g :: h :: r =>
    match hexChar? [a, b, c, d, e, f, g, h] with
    | some x => prepend x (readQuotedLines false r)
    | none => none
  | '\\' :: e :: r =>
    if endsLine (e :: r) then readQuotedLines true r
    else
      match escaped? e with
      | some x => prepend x (readQuotedLines false r)
      | none => none
  | c :: r =>
    if skipping && (isSpace c || c = '\n') then readQuotedLines true r
    else if (isPlain c && c != '\\') || c = '\n' then prepend c (readQuotedLines false r)
    else none

/-- A string on several lines that has no escapes, after its three apostrophes. -/
def readVerbatimLines : List Char → Option (List Char × List Char)
  | [] => none
  | '\'' :: '\'' :: '\'' :: '\'' :: '\'' :: r => some (['\'', '\''], r)
  | '\'' :: '\'' :: '\'' :: '\'' :: r => some (['\''], r)
  | '\'' :: '\'' :: '\'' :: r => some ([], r)
  | '\r' :: '\n' :: r => prepend '\n' (readVerbatimLines r)
  | c :: r => if isPlain c || c = '\n' then prepend c (readVerbatimLines r) else none

/-- A line end directly after the opening marks of a string is not part of it. -/
def skipFirstLineEnd : List Char → List Char
  | '\n' :: r => r
  | '\r' :: '\n' :: r => r
  | s => s

/-- A string of any kind. -/
def readString : List Char → Option (List Char × List Char)
  | '"' :: '"' :: '"' :: r => readQuotedLines false (skipFirstLineEnd r)
  | '"' :: r => readQuoted r
  | '\'' :: '\'' :: '\'' :: r => readVerbatimLines (skipFirstLineEnd r)
  | '\'' :: r => readVerbatim r
  | _ => none

/-! ### Numbers -/

def isDigit (c : Char) : Bool := '0' ≤ c && c ≤ '9'

/-- The digits after the first; an underscore may stand between two of them. -/
def readMoreDigits (isDigit : Char → Bool) : List Char → Option (List Char × List Char)
  | [] => some ([], [])
  | '_' :: d :: r => if isDigit d then prepend d (readMoreDigits isDigit r) else none
  | c :: r =>
    if isDigit c then prepend c (readMoreDigits isDigit r)
    else if c = '_' then none
    else some ([], c :: r)

def readDigits (isDigit : Char → Bool) : List Char → Option (List Char × List Char)
  | c :: r => if isDigit c then prepend c (readMoreDigits isDigit r) else none
  | [] => none

/-- The digits of a whole number, which begin with zero only if that is all. -/
def readWhole : List Char → Option (List Char × List Char)
  | '0' :: r => some (['0'], r)
  | s => readDigits isDigit s

/-- A sign if there is one, and whether it is a minus. -/
def readSign : List Char → Bool × List Char
  | '-' :: r => (true, r)
  | '+' :: r => (false, r)
  | s => (false, s)

def isBelow (base : Nat) (c : Char) : Bool :=
  match Text.digitValue? c with
  | some d => d < base
  | none => false

/-- A number that fits 64 bits with its sign. -/
def inRange (n : Int) : Option Int :=
  if -9223372036854775808 ≤ n ∧ n ≤ 9223372036854775807 then some n else none

/-- A whole number in a base that is named in front. -/
def readBased (base : Nat) (s : List Char) : Option (Int × List Char) := do
  let (ds, r) ← readDigits (isBelow base) s
  let n ← inRange (Text.digitsNat base ds)
  some (n, r)

/-- A whole number of 64 bits. -/
def readInteger : List Char → Option (Int × List Char)
  | '0' :: 'x' :: r => readBased 16 r
  | '0' :: 'o' :: r => readBased 8 r
  | '0' :: 'b' :: r => readBased 2 r
  | s => do
    let (negative, r) := readSign s
    let (ds, r) ← readWhole r
    let n : Int := Text.digitsNat 10 ds
    let n ← inRange (if negative then -n else n)
    some (n, r)

/-- An exponent if there is one. -/
def readExponent : List Char → Option (Option Int × List Char)
  | c :: r =>
    if c = 'e' ∨ c = 'E' then do
      let (negative, r) := readSign r
      let (ds, r) ← readDigits isDigit r
      let n : Int := Text.digitsNat 10 ds
      some (some (if negative then -n else n), r)
    else some (none, c :: r)
  | [] => some (none, [])

/-- The double nearest to digits times a power of ten. -/
def realOf (negative : Bool) (digits : List Char) (exponent : Int) : Decimal.Binary64 :=
  let m := Text.digitsNat 10 digits
  let order := (Nat.repr m).length + exponent
  if m = 0 ∨ order < -400 then .zero negative
  else if 400 < order then .infinite negative
  else .ofDecimal negative m exponent

/-- The fraction, the exponent or both of them after a whole number. -/
def readTail : List Char → Option (List Char × Int × List Char)
  | '.' :: r => do
    let (fraction, r) ← readDigits isDigit r
    let (exponent, r) ← readExponent r
    some (fraction, exponent.getD 0, r)
  | r => do
    let (exponent, r) ← readExponent r
    match exponent with
    | some e => some ([], e, r)
    | none => none

/-- A number with a fraction or an exponent; digits of a number that is too great are refused. -/
def readReal (s : List Char) : Option (Decimal.Binary64 × List Char) := do
  let (negative, r) := readSign s
  match r with
  | 'i' :: 'n' :: 'f' :: r => some (.infinite negative, r)
  | 'n' :: 'a' :: 'n' :: r => some (.nan, r)
  | _ =>
    let (whole, r) ← readWhole r
    let (fraction, exponent, r) ← readTail r
    let x := realOf negative (whole ++ fraction) (exponent - fraction.length)
    if x.isInfinite && !negative then none else some (x, r)

/-! ### Dates and times -/

/-- A number of exactly so many digits, between bounds. -/
def readFixed (count low high : Nat) (s : List Char) : Option (Nat × List Char) :=
  let ds := s.take count
  let n := Text.digitsNat 10 ds
  if ds.length = count ∧ ds.all isDigit ∧ low ≤ n ∧ n ≤ high then some (n, s.drop count) else none

def readMark (mark : Char) : List Char → Option (List Char)
  | c :: r => if c = mark then some r else none
  | [] => none

/-- The days of a month. -/
def monthLength (year month : Nat) : Nat :=
  if month = 2 then if year % 4 = 0 ∧ (year % 100 ≠ 0 ∨ year % 400 = 0) then 29 else 28
  else if month = 4 ∨ month = 6 ∨ month = 9 ∨ month = 11 then 30
  else 31

/-- The text after a date. -/
def skipDate (s : List Char) : Option (List Char) := do
  let (year, r) ← readFixed 4 0 9999 s
  let r ← readMark '-' r
  let (month, r) ← readFixed 2 1 12 r
  let r ← readMark '-' r
  let (_, r) ← readFixed 2 1 (monthLength year month) r
  some r

/-- The text after a time of day. -/
def skipTime (s : List Char) : Option (List Char) := do
  let (_, r) ← readFixed 2 0 23 s
  let r ← readMark ':' r
  let (_, r) ← readFixed 2 0 59 r
  let r ← readMark ':' r
  let (_, r) ← readFixed 2 0 60 r
  match r with
  | '.' :: d :: r => if isDigit d then some (r.dropWhile isDigit) else some ('.' :: d :: r)
  | r => some r

/-- The text after an offset, if there is one. -/
def skipOffset : List Char → Option (List Char)
  | 'Z' :: r => some r
  | 'z' :: r => some r
  | c :: r =>
    if c = '+' ∨ c = '-' then do
      let (_, r) ← readFixed 2 0 23 r
      let r ← readMark ':' r
      let (_, r) ← readFixed 2 0 59 r
      some r
    else some (c :: r)
  | [] => some []

/-- The text after a date, a time or both. -/
def readMoment (s : List Char) : Option (List Char) :=
  match skipDate s with
  | none => skipTime s
  | some [] => some []
  | some (c :: r) =>
    if c = 'T' ∨ c = 't' ∨ c = ' ' then
      match skipTime r with
      | some r => skipOffset r
      | none => some (c :: r)
    else some (c :: r)

end JobNotice.Toml
