/-!
# Finding, replacing and splitting

## Main definitions

* `Text.isInfix` — whether a text holds another one
* `Text.replaceAll` — every occurrence of a text replaced, from the left and without overlap
* `Text.splitChars` — the parts of a text between occurrences of a character
* `Text.joinWith` — texts joined by a separator

## Main results

* `Text.isInfix_iff` — the search finds exactly the texts that occur
-/

namespace JobNotice.Text

/-- Whether a text holds another one. -/
def isInfix (needle : List Char) : List Char → Bool
  | [] => needle.isEmpty
  | c :: r => needle.isPrefixOf (c :: r) || isInfix needle r

theorem isInfix_iff {needle s : List Char} : isInfix needle s = true ↔ needle <:+: s := by
  induction s with
  | nil => simp [isInfix]
  | cons c r ih => simp [isInfix, ih, List.infix_cons_iff]

/-- Replaces a text that is not empty, `skip` characters being part of the last occurrence. -/
def replaceFrom (needle image : List Char) : Nat → List Char → List Char
  | _, [] => []
  | skip + 1, _ :: r => replaceFrom needle image skip r
  | 0, c :: r =>
    if needle.isPrefixOf (c :: r) then image ++ replaceFrom needle image (needle.length - 1) r
    else c :: replaceFrom needle image 0 r

/-- Replaces every occurrence; the empty text occurs around every character. -/
def replaceAll (needle image s : List Char) : List Char :=
  if needle.isEmpty then image ++ s.flatMap fun c => c :: image
  else replaceFrom needle image 0 s

/-- The parts of a text between single occurrences of a character. -/
def splitChars (sep : Char) : List Char → List (List Char)
  | [] => [[]]
  | c :: r =>
    if c = sep then [] :: splitChars sep r
    else
      match splitChars sep r with
      | [] => [[c]]
      | p :: ps => (c :: p) :: ps

/-- Joins texts by a separator. -/
def joinWith (sep : List Char) : List (List Char) → List Char
  | [] => []
  | [s] => s
  | s :: rest => s ++ sep ++ joinWith sep rest

end JobNotice.Text
