import JobNotice.Toml.Scalar

/-!
# The lines of a document

A document is a sequence of keys with values and of headers. A key has one name or several names
with dots between them. Arrays and tables in braces hold values; arrays may run over several
lines.

## Main definitions

* `Toml.Key`, `Toml.readKey` — keys
* `Toml.readValue` — values
* `Toml.Statement`, `Toml.readStatements` — the lines of a document
-/

namespace JobNotice.Toml

/-! ### Keys -/

/-- The names of a key: those of the tables on the way, and the last. -/
structure Key where
  path : List String
  name : String
  deriving DecidableEq

/-- A key has fewer names than this, and values lie in fewer arrays and tables. -/
def limit : Nat := 80

def isBare (c : Char) : Bool :=
  ('a' ≤ c && c ≤ 'z') || ('A' ≤ c && c ≤ 'Z') || isDigit c || c = '_' || c = '-'

/-- A name, bare or as a string on one line. -/
def readName : List Char → Option (List Char × List Char)
  | '"' :: r => readQuoted r
  | '\'' :: r => readVerbatim r
  | s =>
    let name := s.takeWhile isBare
    if name.isEmpty then none else some (name, s.dropWhile isBare)

/-- A key of at most so many names, with blanks around names. -/
def readNames : Nat → List Char → Option (Key × List Char)
  | 0, _ => none
  | count + 1, s => do
    let (name, r) ← readName (skipSpace s)
    match skipSpace r with
    | '.' :: r =>
      let (key, r) ← readNames count r
      some ({ key with path := String.ofList name :: key.path }, r)
    | r => some (⟨[], String.ofList name⟩, r)

def readKey (s : List Char) : Option (Key × List Char) := readNames (limit - 1) s

/-! ### Tables in the making -/

/-- Changes the table to which a path leads. A path of a dotted key leads through tables of
dotted keys and through tables that lie on the way to others; a path of a header also leads
through tables with headers. Missing tables are made. -/
def descend (isDotted : Bool) (change : Value → Option Value) : List String → Value → Option Value
  | [], t => change t
  | k :: path, .table origin entries =>
    match Entries.get? entries k with
    | none => do
      let t ← descend isDotted change path (.table (if isDotted then .dotted else .implied) [])
      some (.table origin (entries ++ [(k, t)]))
    | some (.table o es) =>
      if o = .braces ∨ (isDotted ∧ o = .header) then none
      else do
        let t ← descend isDotted change path (.table o es)
        some (.table origin (Entries.replace entries k t))
    | some (.array true items) => do
      let t ← descend isDotted change path (← items.getLast?)
      some (.table origin (Entries.replace entries k (.array true (items.dropLast ++ [t]))))
    | some _ => none
  | _ :: _, _ => none

/-- Gives a key of a table its value. A key is given once, and only tables that dotted keys made
are added to by dotted keys. -/
def assign (key : Key) (v : Value) (t : Value) : Option Value :=
  descend true (fun
    | .table origin entries =>
      if (origin = .dotted) = key.path.isEmpty then none
      else
        match Entries.get? entries key.name with
        | none => some (.table origin (entries ++ [(key.name, v)]))
        | some _ => none
    | _ => none) key.path t

/-- Gives keys of a table their values, one after the other. -/
def assignAll (t : Value) (pairs : List (Key × Value)) : Option Value :=
  pairs.foldlM (fun t p => assign p.1 p.2 t) t

/-! ### Values -/

/-- Drops blanks, line ends and comments that end with their line. -/
def skipLines (inComment : Bool) : List Char → List Char
  | [] => []
  | '\r' :: '\n' :: r => skipLines false r
  | c :: r =>
    if c = '\n' then skipLines false r
    else if inComment then if isPlain c then skipLines true r else c :: r
    else if isSpace c then skipLines false r
    else if c = '#' then skipLines true r
    else c :: r

/-- A date, a number or a time. -/
def readNumeral (s : List Char) : Option (Value × List Char) :=
  match readMoment s with
  | some r => some (.moment, r)
  | none =>
    match readReal s with
    | some (x, r) => some (.real x, r)
    | none =>
      match readInteger s with
      | some (n, r) => some (.integer n, r)
      | none => none

mutual

/-- A value; `depth` arrays and tables may still lie around other values. -/
def readValue (fuel depth : Nat) (s : List Char) : Option (Value × List Char) :=
  match fuel with
  | 0 => none
  | fuel + 1 =>
    match s with
    | '[' :: r =>
      if depth = 0 then none
      else do
        let (items, r) ← readItems fuel (depth - 1) r
        some (.array false items, r)
    | '{' :: r =>
      if depth = 0 then none
      else do
        let (pairs, r) ←
          match skipSpace r with
          | '}' :: r => some ([], r)
          | r => readPairs fuel (depth - 1) r
        let t ← assignAll (.table .braces []) pairs
        some (t, r)
    | 't' :: 'r' :: 'u' :: 'e' :: r => some (.bool true, r)
    | 'f' :: 'a' :: 'l' :: 's' :: 'e' :: r => some (.bool false, r)
    | '"' :: _ => (readString s).map fun p => (.string (String.ofList p.1), p.2)
    | '\'' :: _ => (readString s).map fun p => (.string (String.ofList p.1), p.2)
    | _ => readNumeral s
termination_by structural fuel

/-- The values of an array from here on. -/
def readItems (fuel depth : Nat) (s : List Char) : Option (List Value × List Char) :=
  match fuel with
  | 0 => none
  | fuel + 1 =>
    match skipLines false s with
    | ']' :: r => some ([], r)
    | r => do
      let (v, r) ← readValue fuel depth r
      match skipLines false r with
      | ',' :: r =>
        let (items, r) ← readItems fuel depth r
        some (v :: items, r)
      | ']' :: r => some ([v], r)
      | _ => none
termination_by structural fuel

/-- The keys and values of a table in braces from here on. -/
def readPairs (fuel depth : Nat) (s : List Char) : Option (List (Key × Value) × List Char) :=
  match fuel with
  | 0 => none
  | fuel + 1 => do
    let (key, r) ← readKey s
    let r ← readMark '=' r
    let (v, r) ← readValue fuel depth (skipSpace r)
    match skipSpace r with
    | ',' :: r =>
      let (pairs, r) ← readPairs fuel depth r
      some ((key, v) :: pairs, r)
    | '}' :: r => some ([(key, v)], r)
    | _ => none
termination_by structural fuel

end

/-! ### Lines -/

/-- A line that says something. -/
inductive Statement
  | entry (key : Key) (value : Value)
  | table (key : Key)
  /-- A header in double brackets. -/
  | item (key : Key)

/-- The text after the end of a line that may hold a comment. -/
def skipLineEnd (s : List Char) : Option (List Char) :=
  let r := match skipSpace s with
    | '#' :: r => r.dropWhile isPlain
    | r => r
  match r with
  | [] => some []
  | '\n' :: r => some r
  | '\r' :: '\n' :: r => some r
  | _ => none

/-- A key with its value, or a header. -/
def readStatement : List Char → Option (Statement × List Char)
  | '[' :: '[' :: r => do
    let (key, r) ← readKey r
    let r ← readMark ']' r
    let r ← readMark ']' r
    some (.item key, r)
  | '[' :: r => do
    let (key, r) ← readKey r
    let r ← readMark ']' r
    some (.table key, r)
  | s => do
    let (key, r) ← readKey s
    let r ← readMark '=' r
    let (v, r) ← readValue (2 * r.length + 2) (limit - 1) (skipSpace r)
    some (.entry key v, r)

/-- The statements of the lines from here on, of which there are less than `fuel`. -/
def readStatementsFrom : Nat → List Char → Option (List Statement)
  | 0, _ => none
  | fuel + 1, s =>
    match skipSpace s with
    | [] => some []
    | c :: r =>
      if c = '\n' ∨ c = '\r' ∨ c = '#' then do
        let r ← skipLineEnd (c :: r)
        readStatementsFrom fuel r
      else do
        let (statement, r) ← readStatement (c :: r)
        let r ← skipLineEnd r
        let statements ← readStatementsFrom fuel r
        some (statement :: statements)

/-- The statements of a document, which may begin with a byte order mark. -/
def readStatements (s : List Char) : Option (List Statement) :=
  let s := match s with
    | '\ufeff' :: r => r
    | s => s
  readStatementsFrom (s.length + 1) s

end JobNotice.Toml
