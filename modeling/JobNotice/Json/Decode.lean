import JobNotice.Json.Node
import JobNotice.Text.Quoted

/-!
# Reading typed data from the tree of a text

Data is read in document order and the first thing that is wrong counts, be it a fault of the
text or a value of the wrong kind. A record may be written as an object, its members in any order
and members with unknown names skipped, or as the array of its fields in order of declaration.

## Main definitions

* `Json.Mismatch`, `Json.ReadError` — what is wrong, and `Json.Mismatch.message`, how it is said
* `Json.Schema` — the fields of a record and how each is read
* `Json.Schema.read` — a record in either form
-/

namespace JobNotice.Json

/-- What stands where something else was expected. -/
inductive Found
  | null
  | bool (b : Bool)
  | number (n : Number)
  | string (s : String)
  | sequence
  | map

/-- A value that is JSON but not what was to be read. -/
inductive Mismatch
  | wrongType (found : Found) (expected : String)
  | unknownVariant (name : String) (known : List String)
  | wrongLength (length : Nat) (expected : String)
  | missingField (name : String)
  | duplicateField (name : String)
  /-- A string that cannot be used, for a reason given in words. -/
  | unusable (reason : String)

inductive ReadError
  | fault (f : Fault)
  | mismatch (m : Mismatch)

abbrev Reading := Except ReadError

/-! ### Wording -/

def Found.text : Found → String
  | .null => "null"
  | .bool b => "boolean `" ++ (if b then "true" else "false") ++ "`"
  | .number (.whole n) => "integer `" ++ Decimal.intText n ++ "`"
  | .number (.real x) => "floating point `" ++ x.jsonText ++ "`"
  | .string s => "string " ++ Text.quoted s
  | .sequence => "sequence"
  | .map => "map"

/-- A name between backticks. -/
def ticked (name : String) : String := "`" ++ name ++ "`"

def Mismatch.message : Mismatch → String
  | .wrongType found expected => "invalid type: " ++ found.text ++ ", expected " ++ expected
  | .unknownVariant name known =>
    "unknown variant " ++ ticked name ++ ", expected one of " ++
      ", ".intercalate (known.map ticked)
  | .wrongLength n expected =>
    "invalid length " ++ Decimal.natText n ++ ", expected " ++ expected
  | .missingField name => "missing field " ++ ticked name
  | .duplicateField name => "duplicate field " ++ ticked name
  | .unusable reason => reason

/-! ### Simple values -/

def ofFault {α : Type} : Except Fault α → Reading α
  | .ok a => .ok a
  | .error f => .error (.fault f)

/-- What is wrong with a tree where something else was expected. -/
def Node.unexpected (expected : String) : Node → ReadError
  | .null => .mismatch (.wrongType .null expected)
  | .bool b => .mismatch (.wrongType (.bool b) expected)
  | .number (.ok n) _ => .mismatch (.wrongType (.number n) expected)
  | .number (.error f) _ => .fault f
  | .string (.ok s) _ => .mismatch (.wrongType (.string s) expected)
  | .string (.error f) _ => .fault f
  | .array .. => .mismatch (.wrongType .sequence expected)
  | .object .. => .mismatch (.wrongType .map expected)
  | .fault f => .fault f

/-- A string; `expected` says what kind. -/
def Node.readString (expected : String) : Node → Reading String
  | .string value _ => ofFault value
  | n => .error (n.unexpected expected)

/-- `null`, or what `read` reads. -/
def Node.readOption {α : Type} (read : Node → Reading α) : Node → Reading (Option α)
  | .null => .ok none
  | n => (read n).map some

/-- An array whose items `read` reads. -/
def Node.readList {α : Type} (read : Node → Reading α) : Node → Reading (List α)
  | .array items ending => do
    let xs ← items.mapM read
    ofFault ending.check
    .ok xs
  | n => .error (n.unexpected "a sequence")

/-- An object that holds the name of a variant and `null`, after a comma nothing may follow. -/
def Node.readVariantObject {α : Type} (variant : String → Reading α) :
    List (Node × Node) → Ending → Reading α
  | [], .broken f => .error (.fault f)
  | [], _ => .error (.fault .malformed)
  | (key, value) :: rest, ending => do
    let name ← key.readString "variant identifier"
    let a ← variant name
    match value with
    | .null => .ok ()
    | n => .error (n.unexpected "unit")
    match rest, ending with
    | [], .closed => .ok a
    | [], .broken f => .error (.fault f)
    | _, _ => .error (.fault .malformed)

/-- A variant: its name, or an object that holds its name and `null`. -/
def Node.readVariant {α : Type} (known : List (String × α)) (node : Node) : Reading α :=
  let variant (name : String) : Reading α :=
    match known.lookup name with
    | some a => .ok a
    | none => .error (.mismatch (.unknownVariant name (known.map Prod.fst)))
  match node with
  | .string value _ => ofFault value >>= variant
  | .object members ending => Node.readVariantObject variant members ending
  | .fault f => .error (.fault f)
  | _ => .error (.fault .malformed)

/-! ### Records -/

/-- The fields of a record: their names and types, and how each is read. A field may have a value
when it is absent from an object, and one when an array ends before it. -/
structure Schema (F : Type) where
  title : String
  fields : List F
  name : F → String
  Value : F → Type
  read : (f : F) → Node → Reading (Value f)
  absent : (f : F) → Option (Value f)
  beyond : (f : F) → Option (Value f)

namespace Schema

variable {F : Type} [DecidableEq F] (S : Schema F)

/-- The fields read so far. -/
abbrev Draft := (f : F) → Option (S.Value f)

variable {S}

/-- The draft with a field filled in. -/
def Draft.fill (d : S.Draft) (f : F) (v : S.Value f) : S.Draft :=
  fun g => if h : f = g then some (h ▸ v) else d g

def empty : S.Draft := fun _ => none

/-- Reads the members of an object into a draft. -/
def readMembers (d : S.Draft) : List (Node × Node) → Reading S.Draft
  | [] => .ok d
  | (key, value) :: rest => do
    let name ← ofFault key.name
    match S.fields.find? (fun f => S.name f = name) with
    | some f =>
      if (d f).isSome then .error (.mismatch (.duplicateField name))
      else do
        let v ← S.read f value
        readMembers (d.fill f v) rest
    | none =>
      match value.skip with
      | some fault => .error (.fault fault)
      | none => readMembers d rest

/-- Gives the absent fields their values, in order of declaration. -/
def complete (d : S.Draft) : List F → Reading S.Draft
  | [] => .ok d
  | f :: rest =>
    match d f, S.absent f with
    | some _, _ => complete d rest
    | none, some v => complete (d.fill f v) rest
    | none, none => .error (.mismatch (.missingField (S.name f)))

/-- Reads the items of an array as the fields in order of declaration, the next being the one
with number `index`. -/
def readItems (d : S.Draft) (index : Nat) :
    List F → List Node → Ending → Reading S.Draft
  | [], [], .closed => .ok d
  | [], [], .broken f => .error (.fault f)
  | [], _, _ => .error (.fault .malformed)
  | f :: fields, n :: items, ending => do
    let v ← S.read f n
    readItems (d.fill f v) (index + 1) fields items ending
  | f :: fields, [], ending =>
    match ending with
    | .broken fault => .error (.fault fault)
    | .dangling fault => .error (.fault fault)
    | .closed =>
      match S.beyond f with
      | some v => readItems (d.fill f v) (index + 1) fields [] ending
      | none =>
        .error (.mismatch (.wrongLength index
          ("struct " ++ S.title ++ " with " ++ Decimal.natText S.fields.length ++ " elements")))

variable (S)

/-- A record in either form, with a value for every field. -/
def read? (node : Node) : Reading S.Draft :=
  match node with
  | .object members ending => do
    let d ← readMembers (S := S) empty members
    ofFault ending.check
    complete d S.fields
  | .array items ending => readItems (S := S) empty 0 S.fields items ending
  | n => .error (n.unexpected ("struct " ++ S.title))

variable {S}

/-- The value of a field that must have been read. -/
def Draft.need (d : S.Draft) (f : F) : Reading (S.Value f) :=
  match d f with
  | some v => .ok v
  | none => .error (.mismatch (.missingField (S.name f)))

end Schema

/-! ### Whole texts -/

/-- Reads a text of which nothing but white space may be left over. -/
def readText {α : Type} (read : Node → Reading α) (text : String) : Reading α :=
  match Node.ofText text with
  | (node, after) => do
    let a ← read node
    match after with
    | none => .ok a
    | some f => .error (.fault f)

/-- The members of a text that is an object. -/
def Members.ofText : String → Reading Members :=
  readText fun
    | .object members ending => ofFault do
      let vs ← memberValues (maxDepth - 1) members
      ending.check
      .ok vs
    | n => .error (n.unexpected "a map")

end JobNotice.Json
