import JobNotice.Decimal.Binary64

/-!
# TOML values

A table remembers how it came about, because only some tables may be added to later on: a table
that a header names is complete with the lines below that header, a table between braces is
complete at once.

## Main definitions

* `Toml.Origin` — how a table came about
* `Toml.Value`, `Toml.Entries`
* `Toml.Entries.get?`, `Toml.Entries.replace`, `Toml.Entries.remove`
-/

namespace JobNotice.Toml

/-- How a table came about. -/
inductive Origin
  /-- A header names it, or it is the document. -/
  | header
  /-- It lies on the way to a table that a header names. -/
  | implied
  /-- It lies on the way to a value that a dotted key names. -/
  | dotted
  /-- It is written between braces. -/
  | braces
  deriving DecidableEq

inductive Value
  | string (s : String)
  | integer (n : Int)
  | real (x : Decimal.Binary64)
  | bool (b : Bool)
  /-- A date, a time or both. -/
  | moment
  /-- An array; headers in double brackets add tables to an open one. -/
  | array (isOpen : Bool) (items : List Value)
  | table (origin : Origin) (entries : List (String × Value))

abbrev Entries := List (String × Value)

namespace Entries

def get? : Entries → String → Option Value
  | [], _ => none
  | (k, v) :: r, key => if k = key then some v else get? r key

/-- Gives a key another value and leaves it in its place. -/
def replace : Entries → String → Value → Entries
  | [], _, _ => []
  | (k, v) :: r, key, new => if k = key then (k, new) :: r else (k, v) :: replace r key new

def remove (entries : Entries) (key : String) : Entries := entries.filter fun p => p.1 ≠ key

end Entries

end JobNotice.Toml
