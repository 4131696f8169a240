import JobNotice.Toml.Statement

/-!
# Documents

The lines under a header belong to its table. A table has one header at most, and a header may
come after headers of tables inside its own. A header in double brackets adds a table to an array.

## Main definitions

* `Toml.Section` — a header and its lines
* `Toml.document` — the table of statements
* `Toml.Value.ofText` — the table of a document's text
-/

namespace JobNotice.Toml

/-- A header and the keys below it. -/
structure Section where
  key : Key
  /-- Whether the header adds a table to an array. -/
  isItem : Bool
  pairs : List (Key × Value)

/-- The keys before the first header, and the sections. -/
def sections : List Statement → List (Key × Value) × List Section
  | [] => ([], [])
  | .entry key v :: r =>
    let (pairs, rest) := sections r
    ((key, v) :: pairs, rest)
  | .table key :: r =>
    let (pairs, rest) := sections r
    ([], ⟨key, false, pairs⟩ :: rest)
  | .item key :: r =>
    let (pairs, rest) := sections r
    ([], ⟨key, true, pairs⟩ :: rest)

/-- Puts the table of a section into the table above it. A table that was only on the way to
other tables moves to the end and keeps them. -/
def Section.place (s : Section) : Value → Option Value
  | .table origin entries =>
    match s.isItem, Entries.get? entries s.key.name with
    | false, none => do
      let t ← assignAll (.table .header []) s.pairs
      some (.table origin (entries ++ [(s.key.name, t)]))
    | false, some (.table .implied es) => do
      let t ← assignAll (.table .header es) s.pairs
      some (.table origin (Entries.remove entries s.key.name ++ [(s.key.name, t)]))
    | true, none => do
      let t ← assignAll (.table .header []) s.pairs
      some (.table origin (entries ++ [(s.key.name, .array true [t])]))
    | true, some (.array true items) => do
      let t ← assignAll (.table .header []) s.pairs
      some (.table origin (Entries.replace entries s.key.name (.array true (items ++ [t]))))
    | _, some _ => none
  | _ => none

/-- The table of statements, none when they contradict each other. -/
def document (statements : List Statement) : Option Value := do
  let (pairs, rest) := sections statements
  let t ← assignAll (.table .header []) pairs
  rest.foldlM (fun t s => descend false s.place s.key.path t) t

/-- The table of a document. -/
def Value.ofText (s : String) : Option Value := do
  document (← readStatements s.toList)

end JobNotice.Toml
