import JobNotice.Idna.ClassTable
import JobNotice.Idna.Mapping
import JobNotice.Text.Composition

/-!
# Labels of domains

A label must not begin with a mark; a joiner must come after a virama, or between letters that
join; and where a domain holds letters that run from right to left, every label must have one
direction.

## Main definitions

* `Idna.isLabel` — the rules that every label keeps
* `Idna.hasRightToLeft`, `Idna.hasOneDirection` — the rules for domains with letters that run from
  right to left
-/

namespace JobNotice.Idna

/-! ### Joiners -/

def joiningOf (c : Char) : Nat := (joinings.lookup c.toNat).getD 0

/-- The first character in a direction that does not only lie on a joint joins there. -/
def joins (side : Nat) (s : List Char) : Bool :=
  match s.dropWhile fun c => joiningOf c = 4 with
  | [] => false
  | c :: _ => joiningOf c = 1 || joiningOf c = side

/-- Whether every joiner has its place; the text before is written backwards. -/
def joinersFit (before : List Char) : List Char → Bool
  | [] => true
  | c :: r =>
    let afterVirama := before.head?.any fun d => Text.combiningClass d = 9
    (if c = '\u200d' then afterVirama
    else if c = '\u200c' then afterVirama || (joins 2 before && joins 3 r)
    else true) && joinersFit (c :: before) r

/-! ### Directions -/

def directionOf (c : Char) : Nat := (directions.lookup c.toNat).getD 0

/-- Whether a domain holds letters or digits that run from right to left. -/
def hasRightToLeft (s : List Char) : Bool :=
  s.any fun c => directionOf c = 1 || directionOf c = 2 || directionOf c = 3

/-- The class of the last character that is no mark. -/
def lastDirection? (s : List Char) : Option Nat :=
  ((s.map directionOf).reverse.dropWhile (· = 6)).head?

/-- Whether a label keeps one direction: the one in which it begins. -/
def hasOneDirection (label : List Char) : Bool :=
  let classes := label.map directionOf
  match classes with
  | [] => true
  | 0 :: _ =>
    classes.all (fun k => k = 0 || k = 4 || k = 5 || k = 6) &&
      (lastDirection? label).any fun k => k = 0 || k = 4
  | k :: _ =>
    (k = 1 || k = 2) && classes.all (fun k => k != 0 && k != 7) &&
      ((lastDirection? label).any fun k => k = 1 || k = 2 || k = 3 || k = 4) &&
      !(classes.contains 3 && classes.contains 4)

/-! ### Labels -/

/-- Whether a label with characters outside ASCII keeps the rules for every label. -/
def isLabel (label : List Char) : Bool :=
  !(label.head?.any marks.contains) && joinersFit [] label

/-- Whether a label is in the form that replacement and composition give it. -/
def isSettled (label : List Char) : Bool :=
  match mapped label with
  | some s => Text.composed s = label && s = label
  | none => false

end JobNotice.Idna
