import JobNotice.Layout.Scope
import JobNotice.Layout.Value
import JobNotice.Text.Blank
import JobNotice.Text.Casing
import JobNotice.Text.Grapheme
import JobNotice.Text.Html
import JobNotice.Text.Search

/-!
# Filters, tests and functions of layouts

## What is left out

The language has more of them. Of its functions there are `throw` and `get_env` here; `range` is left
out, and so are `now` and `get_random`, which give another value each time. Of its filters there are
those of `applyFilter`, with `safe` and `default`, and of its tests those of `applyTest`. A layout that
calls one of the others is not filled, as if it called something unknown. `Layout.Engine` stands for
every engine, with these calls and whatever they answer.

## Main definitions

* `Layout.applyFilter` — the value that a filter makes of a value
* `Layout.applyTest` — what a test says of a value, or of a name that stands for nothing
* `Layout.applyFunction`
-/

namespace JobNotice.Layout

open Json (Value Number)

/-- Named arguments with their values. -/
abbrev Args := List (String × Value)

/-- The last argument of a name. -/
def Args.get? (args : Args) (name : String) : Option Value := Json.Members.get? args name

/-! ### Filters -/

/-- The characters of a string that a filter is applied to. -/
def subject (filter : String) : Value → Except Misuse (List Char)
  | .string s => .ok s.toList
  | v => .error (.wrongValue filter v "String")

/-- The characters of an argument. -/
def stringArg (filter arg : String) : Value → Except Misuse (List Char)
  | .string s => .ok s.toList
  | v => .error (.wrongArg filter arg v "String")

/-- A filter that changes characters. -/
def onChars (filter : String) (f : List Char → List Char) (v : Value) : Except Misuse Value :=
  (subject filter v).map fun s => .string (String.ofList (f s))

/-- An argument that must be there. -/
def neededArg (filter arg : String) (args : Args) : Except Misuse (List Char) :=
  match args.get? arg with
  | some v => stringArg filter arg v
  | none => .error (.missingArg filter arg)

def replaceFilter (v : Value) (args : Args) : Except Misuse Value := do
  let s ← subject "replace" v
  let needle ← neededArg "replace" "from" args
  let image ← neededArg "replace" "to" args
  .ok (.string (String.ofList (Text.replaceAll needle image s)))

/-- A count that an argument gives. -/
def countArg (filter arg : String) (preset : Nat) (args : Args) : Except Misuse Nat :=
  match args.get? arg with
  | none => .ok preset
  | some (.number (.whole n)) =>
    if 0 ≤ n then .ok n.toNat else .error (.wrongArg filter arg (.number (.whole n)) "usize")
  | some v => .error (.wrongArg filter arg v "usize")

/-- Keeps the first user-perceived characters; an ellipsis follows if there were more. -/
def truncateFilter (v : Value) (args : Args) : Except Misuse Value := do
  let s ← subject "truncate" v
  let length ← countArg "truncate" "length" 255 args
  let finish ← match args.get? "end" with
    | some v => stringArg "truncate" "end" v
    | none => .ok [Char.ofNat 0x2026]
  let gs := Text.graphemes s
  if gs.length ≤ length then .ok v
  else .ok (.string (String.ofList ((gs.take length).flatten ++ finish)))

/-- The number of characters, items or members. -/
def lengthFilter : Value → Except Misuse Value
  | .string s => .ok (.number (.whole s.toList.length))
  | .array items => .ok (.number (.whole items.length))
  | .object members => .ok (.number (.whole members.length))
  | _ => .error .notMeasurable

def reverseFilter : Value → Except Misuse Value
  | .string s => .ok (.string (String.ofList s.toList.reverse))
  | .array items => .ok (.array items.reverse)
  | v => .error (.notReversible v)

/-- The entity of a character, the slash included. -/
def escapeChar (c : Char) : List Char :=
  if c = '&' then "&amp;".toList
  else if c = '<' then "&lt;".toList
  else if c = '>' then "&gt;".toList
  else if c = '"' then "&quot;".toList
  else if c.toNat = 0x27 then "&#x27;".toList
  else if c = '/' then "&#x2F;".toList
  else [c]

/-- The value that a filter makes of a value; none for a filter that is not known. -/
def applyFilter (name : String) (v : Value) (args : Args) : Option (Except Misuse Value) :=
  match name with
  | "upper" => some (onChars name Text.upper v)
  | "lower" => some (onChars name Text.lower v)
  | "capitalize" => some (onChars name Text.capitalize v)
  | "trim" => some (onChars name Text.trimChars v)
  | "trim_start" => some (onChars name (List.dropWhile Text.isBlank) v)
  | "trim_end" => some (onChars name (Text.dropEndWhile Text.isBlank) v)
  | "escape" => some (onChars name (List.flatMap escapeChar) v)
  | "replace" => some (replaceFilter v args)
  | "truncate" => some (truncateFilter v args)
  | "length" => some (lengthFilter v)
  | "reverse" => some (reverseFilter v)
  | _ => none

/-! ### Tests -/

/-- Refuses more arguments than a test takes. -/
def checkArgCount (test : String) (limit count : Nat) : Except Misuse Unit :=
  if count ≤ limit then .ok ()
  else if limit = 0 then .error (.takesNoArgs test)
  else .error (.tooManyArgs test count limit)

/-- The value that a test needs. -/
def testSubject (test : String) : Option Value → Except Misuse Value
  | some v => .ok v
  | none => .error (.undefinedSubject test)

def testString (test place : String) : Option Value → Except Misuse (List Char)
  | some (.string s) => .ok s.toList
  | _ => .error (.notString test place)

/-- A test of two strings: the value and the first argument. -/
def onStrings (test : String) (f : List Char → List Char → Bool) (v : Option Value)
    (args : List Value) : Except Misuse Bool := do
  checkArgCount test 1 args.length
  let v ← testSubject test v
  let s ← testString test "on a variable" (some v)
  let needle ← testString test "with a parameter" args.head?
  .ok (f s needle)

/-- A test of the kind of a value. -/
def onKind (test : String) (f : Value → Bool) (v : Option Value) (args : List Value) :
    Except Misuse Bool := do
  checkArgCount test 0 args.length
  let v ← testSubject test v
  .ok (f v)

def containingTest (v : Option Value) (args : List Value) : Except Misuse Bool := do
  checkArgCount "containing" 1 args.length
  match ← testSubject "containing" v with
  | .string s =>
    let needle ← testString "containing" "with a parameter" args.head?
    .ok (Text.isInfix needle s.toList)
  | .array items =>
    .ok (match args.head? with
      | some a => items.any (sameValue a)
      | none => false)
  | _ => .error .notContainer

/-- What a test says; none for a test that is not known. -/
def applyTest (name : String) (v : Option Value) (args : List Value) :
    Option (Except Misuse Bool) :=
  match name with
  | "defined" => some ((checkArgCount name 0 args.length).map fun _ => v.isSome)
  | "undefined" => some ((checkArgCount name 0 args.length).map fun _ => v.isNone)
  | "string" =>
    some (onKind name (fun
      | .string _ => true
      | _ => false) v args)
  | "number" =>
    some (onKind name (fun
      | .number _ => true
      | _ => false) v args)
  | "iterable" =>
    some (onKind name (fun
      | .array _ | .object _ => true
      | _ => false) v args)
  | "starting_with" => some (onStrings name (fun s needle => needle.isPrefixOf s) v args)
  | "ending_with" => some (onStrings name (fun s needle => needle.isSuffixOf s) v args)
  | "containing" => some (containingTest v args)
  | _ => none

/-! ### Functions -/

/-- The value of an environment variable, or the default when it is not set. -/
def getEnv (environment : Environment) (args : Args) : Except Misuse Value :=
  match args.get? "name" with
  | some (.string name) =>
    match environment.lookup name, args.get? "default" with
    | some value, _ => .ok (.string value)
    | none, some v => .ok v
    | none, none => .error (.noVariable name)
  | some v => .error (.variableNotString v)
  | none => .error .unnamedVariable

/-- The value of a function; none for a function that is not known. -/
def applyFunction (environment : Environment) (name : String) (args : Args) :
    Option (Except Misuse Value) :=
  match name with
  | "throw" =>
    some (match args.get? "message" with
      | some (.string s) => .error (.thrown s)
      | some v => .error (.throwNotString v)
      | none => .error .throwEmpty)
  | "get_env" => some (getEnv environment args)
  | _ => none

end JobNotice.Layout
