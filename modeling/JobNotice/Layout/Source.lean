import JobNotice.Layout.Grammar
import JobNotice.Layout.Node

/-!
# Reading a layout

The text of a layout is everything up to the next opening of a tag: two braces, a brace and a
percent sign, or a brace and a number sign. A layout is refused as a whole when one of its tags
cannot be read, is not known, or does not belong where it stands.

## What is left out

Some tags of the language are not known here: blocks, macros and their imports, filter sections, and
`break` and `continue` in loops. A layout that has one of them is refused. `Layout.Engine` stands for
every engine, with these tags and without.

## Main definitions

* `Layout.Source` — the tree of a layout and the layout that it extends
* `Layout.Source.ofChars?` — the layout that a text holds
-/

namespace JobNotice.Layout

/-! ### The ends of tags

Each opening may be followed and each closing preceded by a dash. -/

/-- An opening, with or without its dash. -/
def readOpening (kind : Char) (s : List Char) : Option (Bool × List Char) :=
  match s with
  | '{' :: k :: r =>
    if k = kind then
      match r with
      | '-' :: r => some (true, r)
      | r => some (false, r)
    else none
  | _ => none

/-- A closing after white space, with or without its dash. -/
def readClosing (kind : Char) (s : List Char) : Option (Bool × List Char) :=
  match skipSpace s with
  | '-' :: k :: '}' :: r => if k = kind then some (true, r) else none
  | k :: '}' :: r => if k = kind then some (false, r) else none
  | _ => none

/-- White space, of which there has to be some. -/
def readSpace : List Char → Option (List Char)
  | c :: r => if isSpace c then some (skipSpace r) else none
  | [] => none

/-- A tag that consists of a word. -/
def readWordTag (word : String) (s : List Char) : Option (Trim × List Char) := do
  let (left, r) ← readOpening '%' s
  let r ← readSym word.toList r
  let (right, r) ← readClosing '%' r
  some (⟨left, right⟩, r)

/-- The opening of a tag and its word, which white space follows. -/
def readTagWord (word : String) (s : List Char) : Option (Bool × List Char) := do
  let (left, r) ← readOpening '%' s
  let r ← readSym word.toList r
  let r ← readSpace r
  some (left, r)

/-! ### Tags -/

/-- A disjunction, or an array. -/
def readValue (s : List Char) : Option (Expr × List Char) :=
  (readLogic (stepsFor s.length) s).orElse fun _ => readArray (stepsFor s.length) s

/-- A value to be printed. -/
def readPrint (s : List Char) : Option (Node × List Char) := do
  let (left, r) ← readOpening '{' s
  let (e, r) ← readValue (skipSpace r)
  let (right, r) ← readClosing '}' r
  some (.print ⟨left, right⟩ e, r)

/-- What follows the closing of a comment. -/
def readCommentEnd : List Char → Option (Bool × List Char)
  | [] => none
  | c :: r =>
    match c :: r with
    | '-' :: '#' :: '}' :: r => some (true, r)
    | '#' :: '}' :: r => some (false, r)
    | _ => readCommentEnd r

def readComment (s : List Char) : Option (Node × List Char) := do
  let (left, r) ← readOpening '#' s
  let (right, r) ← readCommentEnd r
  some (.comment ⟨left, right⟩, r)

/-- A name is given a value. -/
def readAssign (s : List Char) : Option (Node × List Char) := do
  let (outer, left, r) ← ((readTagWord "set" s).map fun (l, r) => (false, l, r)).orElse fun _ =>
    (readTagWord "set_global" s).map fun (l, r) => (true, l, r)
  let (name, r) ← readIdent r
  let r ← readSym ['='] r
  let (e, r) ← readValue (skipSpace r)
  let (right, r) ← readClosing '%' r
  some (.assign ⟨left, right⟩ outer name e, r)

/-- Further texts after commas. -/
def readStrings : Nat → List Char → List String × List Char
  | 0, s => ([], s)
  | fuel + 1, s =>
    match readSym [','] s with
    | none => ([], s)
    | some r =>
      match readString (skipSpace r) with
      | none => ([], s)
      | some (t, r) =>
        let (ts, r) := readStrings fuel r
        (t :: ts, r)

/-- The name of a layout, or an array of names. -/
def readNames (s : List Char) : Option (List String × List Char) :=
  match readString s with
  | some (t, r) => some ([t], r)
  | none => do
    let r ← readLit ['['] s
    let (t, r) ← readString (skipSpace r)
    let (ts, r) := readStrings r.length r
    let r ← readSym [']'] r
    some (t :: ts, r)

/-- Another layout is embedded. -/
def readEmbed (s : List Char) : Option (Node × List Char) := do
  let (left, r) ← readTagWord "include" s
  let (names, r) ← readNames r
  let (mayMiss, r) := match readSym "ignore missing".toList r with
    | some r => (true, r)
    | none => (false, r)
  let (right, r) ← readClosing '%' r
  some (.embed ⟨left, right⟩ names mayMiss, r)

/-- The text up to the tag that ends a raw section, and that tag. -/
def readVerbatimEnd : List Char → Option (List Char × Trim × List Char)
  | [] => none
  | c :: r =>
    match readWordTag "endraw" (c :: r) with
    | some (trim, rest) => some ([], trim, rest)
    | none => (readVerbatimEnd r).map fun (s, trim, rest) => (c :: s, trim, rest)

def readVerbatim (s : List Char) : Option (Node × List Char) := do
  let (start, r) ← readWordTag "raw" s
  let (text, finish, r) ← readVerbatimEnd r
  some (.verbatim start text finish, r)

/-- A tag with a condition. -/
def readConditionTag (word : String) (s : List Char) : Option (Trim × Expr × List Char) := do
  let (left, r) ← readTagWord word s
  let (e, r) ← readLogic (stepsFor r.length) r
  let (right, r) ← readClosing '%' r
  some (⟨left, right⟩, e, r)

/-- The head of a loop. -/
structure LoopHead where
  trim : Trim
  key : Option String
  item : String
  container : Expr

def readLoopHead (s : List Char) : Option (LoopHead × List Char) := do
  let (left, r) ← readTagWord "for" s
  let (first, r) ← readIdent r
  let (key, item, r) := match r with
    | ',' :: t =>
      match readIdent (skipSpace t) with
      | some (second, t) => (some first, second, t)
      | none => (none, first, r)
    | _ => (none, first, r)
  let r ← readSpace r
  let r ← readLit "in".toList r
  let r ← readSpace r
  let (container, r) ← (readOperand (stepsFor r.length) r).orElse fun _ =>
    readArray (stepsFor r.length) r
  let (right, r) ← readClosing '%' r
  some (⟨⟨left, right⟩, key, item, container⟩, r)

/-! ### Text -/

/-- Whether a tag of any kind opens here. -/
def opensTag : List Char → Bool
  | '{' :: c :: _ => c = '{' || c = '%' || c = '#'
  | _ => false

/-- The text up to the next opening of a tag. -/
def readTextNode : List Char → List Char × List Char
  | [] => ([], [])
  | c :: r =>
    if opensTag (c :: r) then ([], c :: r)
    else
      let (s, rest) := readTextNode r
      (c :: s, rest)

/-! ### Nodes -/

mutual

/-- Nodes as far as they can be read. -/
def readNodes : Nat → List Char → List Node × List Char
  | 0, s => ([], s)
  | fuel + 1, s =>
    match readNode fuel s with
    | none => ([], s)
    | some (node, r) =>
      let (nodes, r) := readNodes fuel r
      (node :: nodes, r)

/-- A text or a tag with everything that belongs to it. -/
def readNode : Nat → List Char → Option (Node × List Char)
  | 0, _ => none
  | fuel + 1, s =>
    match s with
    | [] => none
    | '{' :: '{' :: _ => readPrint s
    | '{' :: '#' :: _ => readComment s
    | '{' :: '%' :: _ =>
      (readAssign s).orElse fun _ => (readEmbed s).orElse fun _ => (readVerbatim s).orElse fun _ =>
        (readLoop fuel s).orElse fun _ => readBranch fuel s
    | s =>
      let (t, r) := readTextNode s
      some (.text t, r)

def readLoop : Nat → List Char → Option (Node × List Char)
  | 0, _ => none
  | fuel + 1, s => do
    let (head, r) ← readLoopHead s
    let (body, r) := readNodes fuel r
    let (otherwise, r) := match readWordTag "else" r with
      | none => (none, r)
      | some (_, r) =>
        let (nodes, r) := readNodes fuel r
        (some nodes, r)
    let (finish, r) ← readWordTag "endfor" r
    some (.loop head.trim head.key head.item head.container body otherwise finish, r)

def readBranch : Nat → List Char → Option (Node × List Char)
  | 0, _ => none
  | fuel + 1, s => do
    let (trim, e, r) ← readConditionTag "if" s
    let (body, r) := readNodes fuel r
    let (more, r) := readElifs fuel r
    let (otherwise, r) := match readWordTag "else" r with
      | none => (none, r)
      | some (trim, r) =>
        let (nodes, r) := readNodes fuel r
        (some (trim, nodes), r)
    let (finish, r) ← readWordTag "endif" r
    some (.branch ((trim, e, body) :: more) otherwise finish, r)

/-- Further conditions with their nodes. -/
def readElifs : Nat → List Char → List (Trim × Expr × List Node) × List Char
  | 0, s => ([], s)
  | fuel + 1, s =>
    match readConditionTag "elif" s with
    | none => ([], s)
    | some (trim, e, r) =>
      let (body, r) := readNodes fuel r
      let (more, r) := readElifs fuel r
      ((trim, e, body) :: more, r)

end

/-! ### Whole layouts -/

/-- A layout, trimmed, and the name of the layout that it extends. -/
structure Source where
  base : Option String
  nodes : List Node

/-- Comments at the start do not count. -/
def dropComments : Nat → List Char → List Char
  | 0, s => s
  | fuel + 1, s =>
    match readComment s with
    | none => s
    | some (_, r) => dropComments fuel r

/-- A layout may begin by naming the layout that it extends. -/
def readBase (s : List Char) : Option (String × List Char) := do
  let (_, r) ← readTagWord "extends" (skipSpace s)
  let (name, r) ← readString r
  let (_, r) ← readClosing '%' r
  some (name, skipSpace r)

/-- The layout that a text holds, none when a tag cannot be read. -/
def Source.ofChars? (s : List Char) : Option Source :=
  let s := dropComments s.length s
  let (base, s) := match readBase s with
    | some (name, r) => (some name, r)
    | none => (none, s)
  match readNodes (4 * s.length + 8) s with
  | (nodes, []) => some ⟨base, trimNodes nodes⟩
  | _ => none

end JobNotice.Layout
