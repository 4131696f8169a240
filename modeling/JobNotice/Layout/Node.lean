import JobNotice.Layout.Expr
import JobNotice.Text.Blank

/-!
# The tree of a layout

A layout is text with tags in it. A tag that touches its neighbour with a dash removes the blanks
of that neighbour: `Trim` says on which sides. Blanks are removed once, when the layout is read.

## Main definitions

* `Layout.Node`, `Layout.Trim` — the tree
* `Layout.trimNodes` — the tree without the blanks that dashes remove
-/

namespace JobNotice.Layout

/-- On which sides a tag removes blanks. -/
structure Trim where
  left : Bool
  right : Bool
  deriving DecidableEq, Inhabited

/-- The tree of a layout. -/
inductive Node
  | text (s : List Char)
  | print (trim : Trim) (value : Expr)
  | comment (trim : Trim)
  | assign (trim : Trim) (outer : Bool) (name : String) (value : Expr)
  | embed (trim : Trim) (names : List String) (mayMiss : Bool)
  | verbatim (start : Trim) (s : List Char) (finish : Trim)
  | loop (start : Trim) (key : Option String) (item : String) (container : Expr)
      (body : List Node) (otherwise : Option (List Node)) (finish : Trim)
  | branch (conditions : List (Trim × Expr × List Node)) (otherwise : Option (Trim × List Node))
      (finish : Trim)

/-! ### Removing blanks -/

/-- Removes blanks at the end of a text that was read last; nodes are held last first. -/
def trimLast : List Node → List Node
  | .text s :: rest =>
    match Text.dropEndWhile Text.isBlank s with
    | [] => rest
    | t => .text t :: rest
  | nodes => nodes

/-- Removes blanks at the end of nodes, if they end with a text. -/
def trimEnd (nodes : List Node) : List Node := (trimLast nodes.reverse).reverse

/-- What has been trimmed so far. -/
structure Trimming where
  /-- The trimmed nodes, last first. -/
  done : List Node
  /-- Whether a text was met last. -/
  afterText : Bool
  /-- Whether the next text loses the blanks at its start. -/
  trimNext : Bool

/-- Removes blanks before a tag that asks for it. -/
def Trimming.before (t : Trimming) (left : Bool) : List Node :=
  if t.afterText && left then trimLast t.done else t.done

/-- The branches of a condition when the next tag removes blanks at the end of the last one. -/
def trimLastBranch (left : Bool) (branches : List (Trim × Expr × List Node)) :
    List (Trim × Expr × List Node) :=
  match left, branches with
  | true, (t, e, body) :: rest => (t, e, trimEnd body) :: rest
  | _, _ => branches

/-- Adds a text. -/
def Trimming.text (t : Trimming) (s : List Char) : Trimming :=
  if t.trimNext then
    match s.dropWhile Text.isBlank with
    | [] => ⟨t.done, true, false⟩
    | s => ⟨.text s :: t.done, true, false⟩
  else ⟨.text s :: t.done, true, false⟩

/-- Adds a tag without a body. -/
def Trimming.tag (t : Trimming) (trim : Trim) (node : Node) : Trimming :=
  ⟨node :: t.before trim.left, false, trim.right⟩

/-- Adds a tag with a body. -/
def Trimming.body (t : Trimming) (start finish : Trim) (node : Node) : Trimming :=
  ⟨node :: t.before start.left, false, finish.right⟩

/-- The text of a raw section without the blanks that its own tags remove. -/
def trimVerbatim (start finish : Trim) (s : List Char) : List Char :=
  let s := if start.right then s.dropWhile Text.isBlank else s
  if finish.left then Text.dropEndWhile Text.isBlank s else s

mutual

/-- Removes the blanks that dashes remove, node by node. -/
def trimFrom (t : Trimming) : List Node → Trimming
  | [] => t
  | .text s :: rest => trimFrom (t.text s) rest
  | .print trim e :: rest => trimFrom (t.tag trim (.print trim e)) rest
  | .comment trim :: rest => trimFrom (t.tag trim (.comment trim)) rest
  | .assign trim o n e :: rest => trimFrom (t.tag trim (.assign trim o n e)) rest
  | .embed trim ns m :: rest => trimFrom (t.tag trim (.embed trim ns m)) rest
  | .verbatim start s finish :: rest =>
    trimFrom (t.body start finish (.verbatim start (trimVerbatim start finish s) finish)) rest
  | .loop start key item c body otherwise finish :: rest =>
    let body := trimBody start.right finish.left body
    trimFrom (t.body start finish (.loop start key item c body otherwise finish)) rest
  | .branch conditions otherwise finish :: rest =>
    let done := match conditions with
      | (first, _, _) :: _ => t.before first.left
      | [] => t.done
    let branches := trimBranches conditions []
    let left := match otherwise with
      | some (trim, _) => trim.left
      | none => finish.left
    let branches := (trimLastBranch left branches).reverse
    let otherwise := trimOtherwise finish.left otherwise
    trimFrom ⟨.branch branches otherwise finish :: done, false, finish.right⟩ rest

/-- The nodes of a body whose tags remove blanks at its start or at its end. -/
def trimBody (atStart atEnd : Bool) (nodes : List Node) : List Node :=
  let done := (trimFrom ⟨[], false, atStart⟩ nodes).done
  (if atEnd then trimLast done else done).reverse

/-- The branches of a condition, gathered last first. -/
def trimBranches : List (Trim × Expr × List Node) → List (Trim × Expr × List Node) →
    List (Trim × Expr × List Node)
  | [], gathered => gathered
  | (trim, e, body) :: rest, gathered =>
    trimBranches rest ((trim, e, trimBody trim.right false body) ::
      trimLastBranch trim.left gathered)

/-- The last branch of a condition. -/
def trimOtherwise (atEnd : Bool) : Option (Trim × List Node) → Option (Trim × List Node)
  | none => none
  | some (trim, body) =>
    let body := trimBody trim.right false body
    some (trim, if atEnd then trimEnd body else body)

end

/-- The nodes of a layout without the blanks that dashes remove. -/
def trimNodes (nodes : List Node) : List Node := (trimFrom ⟨[], false, false⟩ nodes).done.reverse

end JobNotice.Layout
