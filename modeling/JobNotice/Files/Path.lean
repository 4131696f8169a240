import JobNotice.Text.Blank
import JobNotice.Text.CodePoints

/-!
# Paths

A path is written as names between slashes. It starts at the root when its first character is a
slash, and at the working folder otherwise. An empty part says nothing, one dot stays in a folder
and two dots lead to the folder above.

## Main definitions

* `Files.Path`, `Files.Path.ofText` — paths and how they are written
* `Files.Path.parent?` — the folder that holds what a path leads to
* `Files.join` — the text of a path with a name after it
-/

namespace JobNotice.Files

structure Path where
  absolute : Bool
  /-- What stands between the slashes. -/
  parts : List String
  deriving DecidableEq

namespace Path

/-- The path that a text writes. -/
def ofText (s : String) : Path :=
  match s.toList with
  | [] => ⟨false, []⟩
  | '/' :: r => ⟨true, (Text.splitChars '/' r).map String.ofList⟩
  | cs => ⟨false, (Text.splitChars '/' cs).map String.ofList⟩

/-- A part that leads nowhere. -/
def isSilent (part : String) : Bool := part = "" || part = "."

/-- Drops silent parts at the end, but not a dot with which a relative path begins. -/
def trimmed (p : Path) : Path :=
  match p.parts with
  | [] => p
  | first :: rest =>
    let rest := (rest.reverse.dropWhile isSilent).reverse
    let keepsFirst := !rest.isEmpty || !isSilent first || (first = "." && !p.absolute)
    { p with parts := if keepsFirst then first :: rest else [] }

/-- The path without its last name, none when it has no name. -/
def parent? (p : Path) : Option Path :=
  let p := p.trimmed
  if p.parts.isEmpty then none else some { p with parts := p.parts.dropLast }.trimmed

end Path

/-- A path with a name after it, and a slash between them where it is needed. -/
def join (folder name : String) : String :=
  if folder = "" ∨ folder.toList.getLast? = some '/' then folder ++ name
  else folder ++ "/" ++ name

end JobNotice.Files
