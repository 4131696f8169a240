import JobNotice.Layout.Failure
import JobNotice.Text.Digits
import JobNotice.Text.Search

/-!
# Names in layouts

A name is looked up from the innermost scope outward and last among the values that the layout is
filled with. A loop opens a scope with its item and its counters, an embedded layout one with
nothing in it. Environment variables are no names: a layout has to ask for them.

## Main definitions

* `Layout.Environment` — the environment variables
* `Layout.Frame`, `Layout.Scope` — the open scopes
* `Layout.Scope.find` — what a name stands for
* `Layout.Scope.assign` — giving a name a value
-/

namespace JobNotice.Layout

open Json (Value Number)

/-- The environment variables of the program with their values. -/
abbrev Environment := List (String × String)

/-- The place of a loop among its items. -/
structure LoopPlace where
  item : String
  value : Value
  index : Nat
  count : Nat

/-- A scope: the names that have been given values in it, and the loop that opened it. -/
structure Frame where
  names : List (String × Value)
  loop : Option LoopPlace
  /-- The layout that is being filled in this scope. -/
  layout : String

/-- The open scopes, the innermost first, the values that the layout is filled with, and the
environment in which that is done. -/
structure Scope where
  frames : List Frame
  values : List (String × Value)
  environment : Environment

/-! ### Paths -/

/-- The digits of an index, without a zero in front. -/
def indexOf? (s : List Char) : Option Nat :=
  if s.isEmpty || !s.all Char.isDigit || (s.length != 1 && s.head? == some '0') then none
  else some (Text.digitsNat 10 s)

/-- What a path leads to within a value. -/
def follow : List String → Value → Option Value
  | [], v => some v
  | key :: rest, .array items =>
    match indexOf? key.toList with
    | none => none
    | some i =>
      match items[i]? with
      | none => none
      | some v => follow rest v
  | key :: rest, .object members =>
    match Json.Members.get? members key with
    | none => none
    | some v => follow rest v
  | _ :: _, _ => none

/-- A name split at its dots. -/
def splitDots (name : String) : String × List String :=
  match (Text.splitChars '.' name.toList).map String.ofList with
  | [] => (name, [])
  | first :: rest => (first, rest)

/-! ### Look-up -/

/-- The counters of a loop. -/
def LoopPlace.counter? (p : LoopPlace) (name : String) : Option Value :=
  match name with
  | "loop.index" => some (.number (.whole (p.index + 1)))
  | "loop.index0" => some (.number (.whole p.index))
  | "loop.first" => some (.bool (p.index = 0))
  | "loop.last" => some (.bool (p.index + 1 = p.count))
  | _ => none

def LoopPlace.find (p : LoopPlace) (name : String) (first : String) (rest : List String) :
    Option Value :=
  match p.counter? name with
  | some v => some v
  | none => if first = p.item then follow rest p.value else none

/-- What a name stands for in one scope. -/
def Frame.find (f : Frame) (name first : String) (rest : List String) : Option Value :=
  match (f.names.lookup first).bind (follow rest) with
  | some v => some v
  | none => f.loop.bind fun p => p.find name first rest

namespace Scope

/-- What a name stands for. -/
def find (s : Scope) (name : String) : Option Value :=
  let (first, rest) := splitDots name
  match s.frames.findSome? fun f => f.find name first rest with
  | some v => some v
  | none => (s.values.lookup first).bind (follow rest)

/-- The layout that is being filled. -/
def layout (s : Scope) : String :=
  match s.frames with
  | [] => ""
  | f :: _ => f.layout

/-- Gives a name a value in the first scope that is not a loop. -/
def assignOuter (name : String) (v : Value) : List Frame → List Frame
  | [] => []
  | f :: rest =>
    if f.loop.isSome && !rest.isEmpty then f :: assignOuter name v rest
    else { f with names := (name, v) :: f.names } :: rest

/-- Gives a name a value in the innermost scope, or outside of all loops around. -/
def assign (s : Scope) (outer : Bool) (name : String) (v : Value) : Scope :=
  if outer then { s with frames := assignOuter name v s.frames }
  else
    match s.frames with
    | [] => s
    | f :: rest => { s with frames := { f with names := (name, v) :: f.names } :: rest }

/-- Opens a scope. -/
def push (s : Scope) (f : Frame) : Scope := { s with frames := f :: s.frames }

/-- Closes the innermost scope. -/
def pop (s : Scope) : Scope := { s with frames := s.frames.drop 1 }

/-- All names with their values, the innermost ones counting, in the order of the names. -/
def members (s : Scope) : List (String × Value) :=
  let ofFrame (f : Frame) : List (String × Value) :=
    match f.loop with
    | none => f.names
    | some p => (p.item, p.value) :: f.names
  let all := s.frames.flatMap ofFrame ++ s.values
  let names := (all.map Prod.fst).eraseDups
  let sorted := names.mergeSort fun a b => decide (a ≤ b)
  sorted.filterMap fun n => (all.lookup n).map fun v => (n, v)

end Scope

end JobNotice.Layout
