import JobNotice.Json.Number
import JobNotice.Text.Digits
import JobNotice.Text.Utf8

/-!
# The tree of a JSON text

A text is read into a tree that goes as far as the text can be followed. Where a place is judged
differently by a reader that wants the value and by one that only skips it, the tree holds both
judgements: a number may be beyond every double and a string may hold half a surrogate pair
without hindering a reader that skips them. What is wrong with the text stands in the tree at the
place where it was found, so a reader that walks the tree in document order meets faults and
unexpected values in the order in which they stand in the text.

## Main definitions

* `Json.Node`, `Json.Ending` — the tree
* `Json.Node.ofText` — the tree of a text, and what is wrong after it
* `Json.Node.skip` — the fault that a reader meets which skips the tree
* `Json.Node.toValue` — the value, with containers nested at most 127 deep
-/

namespace JobNotice.Json

/-- How a list of items or members ends. -/
inductive Ending
  /-- With its bracket. -/
  | closed
  /-- With something that is neither its bracket nor a comma. -/
  | broken (f : Fault)
  /-- With a comma and nothing after it that could be read. -/
  | dangling (f : Fault)
  deriving DecidableEq, Inhabited

/-- A JSON text as far as it can be followed. -/
inductive Node
  | null
  | bool (b : Bool)
  | number (value : Except Fault Number) (skipped : Option Fault)
  | string (value : Except Fault String) (skipped : Option Fault)
  | array (items : List Node) (ending : Ending)
  | object (members : List (Node × Node)) (ending : Ending)
  | fault (f : Fault)
  deriving Inhabited

/-! ### Characters of strings -/

/-- The white space of JSON. -/
def isSpace (c : Char) : Bool := c = ' ' || c = '\n' || c = '\t' || c = '\r'

def skipSpace (s : List Char) : List Char := s.dropWhile isSpace

/-- Four hexadecimal digits; the text has ended when fewer than four bytes are left. -/
def readHex4 (s : List Char) : Except Fault (Nat × List Char) :=
  if Text.utf8Length (s.take 4) < 4 then .error .ended
  else
    match s with
    | a :: b :: c :: d :: r =>
      match Text.digitValue? a, Text.digitValue? b, Text.digitValue? c, Text.digitValue? d with
      | some a, some b, some c, some d => .ok (((a * 16 + b) * 16 + c) * 16 + d, r)
      | _, _, _, _ => .error .malformed
    | _ => .error .malformed

/-- The character of an escape `\u` whose digits gave `n`; the first half of a surrogate pair
must be followed by the escape of the second. -/
def readSurrogates (n : Nat) (s : List Char) : Except Fault (Char × List Char) :=
  if 0xDC00 ≤ n ∧ n ≤ 0xDFFF then .error .malformed
  else if n < 0xD800 ∨ 0xDBFF < n then .ok (Char.ofNat n, s)
  else
    match s with
    | [] => .error .ended
    | '\\' :: [] => .error .ended
    | '\\' :: 'u' :: r => do
      let (m, r) ← readHex4 r
      if 0xDC00 ≤ m ∧ m ≤ 0xDFFF then
        .ok (Char.ofNat (0x10000 + (n - 0xD800) * 0x400 + (m - 0xDC00)), r)
      else .error .malformed
    | _ => .error .malformed

/-- The character that an escape stands for, other than by its code point. -/
def simpleEscape? (c : Char) : Option Char :=
  if c = '"' ∨ c = '\\' ∨ c = '/' then some c
  else if c = 'b' then some '\x08'
  else if c = 'f' then some '\x0c'
  else if c = 'n' then some '\n'
  else if c = 'r' then some '\r'
  else if c = 't' then some '\t'
  else none

/-- What follows a backslash. -/
def readEscape : List Char → Except Fault (Char × List Char)
  | [] => .error .ended
  | 'u' :: r => do
    let (n, r) ← readHex4 r
    readSurrogates n r
  | c :: r =>
    match simpleEscape? c with
    | some d => .ok (d, r)
    | none => .error .malformed

/-- The characters of a string after its opening quote, and what follows its closing one. -/
def readString : Nat → List Char → Except Fault (List Char × List Char)
  | 0, _ => .error .ended
  | _ + 1, [] => .error .ended
  | _ + 1, '"' :: r => .ok ([], r)
  | fuel + 1, '\\' :: r => do
    let (c, r) ← readEscape r
    let (cs, r) ← readString fuel r
    .ok (c :: cs, r)
  | fuel + 1, c :: r =>
    if c.toNat < 0x20 then .error .malformed
    else do
      let (cs, r) ← readString fuel r
      .ok (c :: cs, r)

/-- What follows a string that is only skipped: surrogates need not pair up. -/
def skipString : Nat → List Char → Except Fault (List Char)
  | 0, _ => .error .ended
  | _ + 1, [] => .error .ended
  | _ + 1, '"' :: r => .ok r
  | _ + 1, '\\' :: [] => .error .ended
  | fuel + 1, '\\' :: 'u' :: r => do
    let (_, r) ← readHex4 r
    skipString fuel r
  | fuel + 1, '\\' :: c :: r =>
    if (simpleEscape? c).isSome then skipString fuel r else .error .malformed
  | fuel + 1, c :: r => if c.toNat < 0x20 then .error .malformed else skipString fuel r

/-! ### Reading the tree

Each reader gives what it found and, unless a fault stopped it, the rest of the text. -/

/-- A literal whose first letter has been read. -/
def readLiteral (node : Node) : List Char → List Char → Node × Option (List Char)
  | [], r => (node, some r)
  | _ :: _, [] => (.fault .ended, none)
  | e :: expected, c :: r =>
    if c = e then readLiteral node expected r else (.fault .malformed, none)

/-- A string after its opening quote. -/
def readStringNode (s : List Char) : Node × Option (List Char) :=
  let value := (readString (s.length + 1) s).map fun (cs, _) => String.ofList cs
  match skipString (s.length + 1) s with
  | .ok r => (.string value none, some r)
  | .error f => (.string value (some f), none)

/-- A number after its minus sign. One that is only skipped is malformed where it breaks off,
even at the end of the text. -/
def readNumberNode (negative : Bool) (s : List Char) : Node × Option (List Char) :=
  match Numeral.scan negative s with
  | .error f => (.number (.error f) (some .malformed), none)
  | .ok (x, r) =>
    match x.value? with
    | some n => (.number (.ok n) none, some r)
    | none => (.number (.error .malformed) none, some r)

mutual

/-- The value at the head of a text. -/
def readNode : Nat → List Char → Node × Option (List Char)
  | 0, _ => (.fault .ended, none)
  | fuel + 1, s =>
    match skipSpace s with
    | [] => (.fault .ended, none)
    | 'n' :: r => readLiteral .null ['u', 'l', 'l'] r
    | 't' :: r => readLiteral (.bool true) ['r', 'u', 'e'] r
    | 'f' :: r => readLiteral (.bool false) ['a', 'l', 's', 'e'] r
    | '"' :: r => readStringNode r
    | '-' :: r => readNumberNode true r
    | '[' :: r =>
      let (items, ending, rest) := readItems fuel true r
      (.array items ending, rest)
    | '{' :: r =>
      let (members, ending, rest) := readMembers fuel true r
      (.object members ending, rest)
    | c :: r => if c.isDigit then readNumberNode false (c :: r) else (.fault .malformed, none)

/-- The items of an array from the place of its `first` one, or of a comma before the next. -/
def readItems : Nat → Bool → List Char → List Node × Ending × Option (List Char)
  | 0, _, _ => ([], .broken .ended, none)
  | fuel + 1, first, s =>
    match skipSpace s with
    | [] => ([], .broken .ended, none)
    | ']' :: r => ([], .closed, some r)
    | c :: r =>
      if first then readItem fuel (c :: r)
      else if c = ',' then
        match skipSpace r with
        | [] => ([], .dangling .ended, none)
        | ']' :: _ => ([], .dangling .malformed, none)
        | r => readItem fuel r
      else ([], .broken .malformed, none)

/-- One item and those after it. -/
def readItem : Nat → List Char → List Node × Ending × Option (List Char)
  | 0, _ => ([], .broken .ended, none)
  | fuel + 1, s =>
    match readNode fuel s with
    | (node, none) => ([node], .closed, none)
    | (node, some r) =>
      let (items, ending, rest) := readItems fuel false r
      (node :: items, ending, rest)

/-- The members of an object from the place of its `first` one, or of a comma before the next. -/
def readMembers : Nat → Bool → List Char → List (Node × Node) × Ending × Option (List Char)
  | 0, _, _ => ([], .broken .ended, none)
  | fuel + 1, first, s =>
    match skipSpace s with
    | [] => ([], .broken .ended, none)
    | '}' :: r => ([], .closed, some r)
    | c :: r =>
      if first then readMember fuel (c :: r)
      else if c = ',' then
        match skipSpace r with
        | [] => ([], .dangling .ended, none)
        | '}' :: _ => ([], .dangling .malformed, none)
        | r => readMember fuel r
      else ([], .broken .malformed, none)

/-- One member and those after it. A name that is not a string ends the object. -/
def readMember : Nat → List Char → List (Node × Node) × Ending × Option (List Char)
  | 0, _ => ([], .broken .ended, none)
  | fuel + 1, s =>
    match s with
    | '"' :: r =>
      match readStringNode r with
      | (key, none) => ([(key, .fault .malformed)], .closed, none)
      | (key, some r) =>
        match skipSpace r with
        | ':' :: r =>
          match readNode fuel r with
          | (value, none) => ([(key, value)], .closed, none)
          | (value, some r) =>
            let (members, ending, rest) := readMembers fuel false r
            ((key, value) :: members, ending, rest)
        | r => ([(key, .fault (Fault.at r))], .closed, none)
    | s => ([((readNode fuel s).1, .fault .malformed)], .closed, none)

end

/-- The tree of a text, and the fault after it: only white space may follow. -/
def Node.ofChars (s : List Char) : Node × Option Fault :=
  match readNode (3 * s.length + 3) s with
  | (node, none) => (node, none)
  | (node, some r) => (node, if (skipSpace r).isEmpty then none else some .malformed)

def Node.ofText (s : String) : Node × Option Fault := Node.ofChars s.toList

/-! ### Skipping a tree -/

def Ending.fault? : Ending → Option Fault
  | .closed => none
  | .broken f => some f
  | .dangling f => some f

/-- Whether a name can be skipped: only a string is one. -/
def Node.skipName : Node → Option Fault
  | .string _ skipped => skipped
  | _ => some .malformed

mutual

/-- The first fault that a reader meets which only skips the tree. -/
def Node.skip : Node → Option Fault
  | .null => none
  | .bool _ => none
  | .number _ skipped => skipped
  | .string _ skipped => skipped
  | .array items ending => (skipItems items).or ending.fault?
  | .object members ending => (skipMembers members).or ending.fault?
  | .fault f => some f

def skipItems : List Node → Option Fault
  | [] => none
  | n :: rest => n.skip.or (skipItems rest)

def skipMembers : List (Node × Node) → Option Fault
  | [] => none
  | (k, n) :: rest => (k.skipName.or n.skip).or (skipMembers rest)

end

/-! ### The value of a tree -/

/-- The name of a member. -/
def Node.name : Node → Except Fault String
  | .string value _ => value
  | _ => .error .malformed

/-- How deep containers may be nested, counted one beyond. -/
def maxDepth : Nat := 128

def Ending.check : Ending → Except Fault Unit
  | .closed => .ok ()
  | .broken f => .error f
  | .dangling f => .error f

mutual

/-- The value of a tree where one more than `depth` levels of containers are not allowed. -/
def Node.toValue (depth : Nat) : Node → Except Fault Value
  | .null => .ok .null
  | .bool b => .ok (.bool b)
  | .number value _ => value.map .number
  | .string value _ => value.map .string
  | .array items ending =>
    if depth ≤ 1 then .error .malformed
    else do
      let vs ← itemValues (depth - 1) items
      ending.check
      .ok (.array vs)
  | .object members ending =>
    if depth ≤ 1 then .error .malformed
    else do
      let vs ← memberValues (depth - 1) members
      ending.check
      .ok (.object vs)
  | .fault f => .error f

def itemValues (depth : Nat) : List Node → Except Fault (List Value)
  | [] => .ok []
  | n :: rest => do
    let v ← n.toValue depth
    let vs ← itemValues depth rest
    .ok (v :: vs)

def memberValues (depth : Nat) : List (Node × Node) → Except Fault (List (String × Value))
  | [] => .ok []
  | (k, n) :: rest => do
    let name ← k.name
    let v ← n.toValue depth
    let vs ← memberValues depth rest
    .ok ((name, v) :: vs)

end

/-- The value that a text is. -/
def Value.ofText (s : String) : Except Fault Value :=
  match Node.ofText s with
  | (node, after) => do
    let v ← node.toValue maxDepth
    match after with
    | none => .ok v
    | some f => .error f

end JobNotice.Json
