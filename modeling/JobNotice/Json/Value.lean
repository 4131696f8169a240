import JobNotice.Decimal.Shortest

/-!
# JSON values

A value as a JSON document gives it. An object keeps its members in the order of the document,
repeated names included; looking a name up finds its last member, so a later member replaces an
earlier one of the same name.

## Main definitions

* `Json.Number`, `Json.Value`
* `Json.Members`, `Json.Members.get?` — the members of an object and look-up by name
-/

namespace JobNotice.Json

open Decimal (Binary64)

/-- A number: a whole one within 64 bits, signed or unsigned, or else a double. -/
inductive Number
  | whole (n : Int)
  | real (x : Binary64)
  deriving DecidableEq, Inhabited

inductive Value
  | null
  | bool (b : Bool)
  | number (n : Number)
  | string (s : String)
  | array (items : List Value)
  | object (members : List (String × Value))
  deriving Inhabited

/-- The members of an object in document order. -/
abbrev Members := List (String × Value)

namespace Members

/-- The value of the last member named `key`. -/
def get? (members : Members) (key : String) : Option Value :=
  match members with
  | [] => none
  | (k, v) :: rest =>
    match get? rest key with
    | some w => some w
    | none => if k = key then some v else none

@[simp] theorem get?_nil (key : String) : get? [] key = none := rfl

/-- A later member wins over all earlier ones. -/
theorem get?_append (a b : Members) (key : String) :
    get? (a ++ b) key = (get? b key).or (get? a key) := by
  induction a with
  | nil => simp
  | cons m rest ih =>
    obtain ⟨k, v⟩ := m
    simp only [List.cons_append, get?, ih]
    cases get? b key <;> cases get? rest key <;> simp

end Members

/-- A number as JSON text. -/
def Number.text : Number → String
  | .whole n => Decimal.intText n
  | .real x => x.jsonText

namespace Value

/-- An optional string, `null` when there is none. -/
def ofString? : Option String → Value
  | none => .null
  | some s => .string s

def isNull : Value → Bool
  | .null => true
  | _ => false

def asString? : Value → Option String
  | .string s => some s
  | _ => none

end Value

end JobNotice.Json
