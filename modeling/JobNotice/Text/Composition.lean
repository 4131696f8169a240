import JobNotice.Text.CompositionTable

/-!
# Composed characters

A letter with marks can be one character or several. The composed form has as few characters as
possible: characters are decomposed, marks are put into the order of their combining classes, and
what can be composed is composed again. Korean syllables follow a rule of their own.

## Main definitions

* `Text.combiningClass`
* `Text.decompose` — a text of characters that cannot be decomposed, with ordered marks
* `Text.composed` — a text in its composed form
-/

namespace JobNotice.Text

/-- The canonical combining class of a character. -/
def combiningClass (c : Char) : Nat := (combiningClasses.lookup c.toNat).getD 0

/-! ### Decompositions -/

/-- A code point and its decomposition. -/
structure Decomposition where
  point : Nat
  parts : List Nat
  /-- Whether the parts may be composed again. -/
  composes : Bool
  deriving Inhabited

/-- The decomposition that a word writes. -/
def decompositionOf (word : List Char) : Decomposition :=
  let point := word.takeWhile fun c => c ≠ ':' ∧ c ≠ '='
  let parts := (splitChars ',' (word.drop (point.length + 1))).map (digitsNat 16)
  ⟨digitsNat 16 point, parts, word.contains ':'⟩

/-- All decompositions, in the order of their code points. -/
def decompositions : Array Decomposition :=
  ((words decompositionWords).map decompositionOf).toArray

/-- Korean syllables: a leading consonant, a vowel and at most one trailing consonant. -/
def syllableParts (n : Nat) : List Nat :=
  let s := n - 0xAC00
  let trail := s % 28
  [0x1100 + s / 588, 0x1161 + s % 588 / 28] ++ (if trail = 0 then [] else [0x11A7 + trail])

/-- The code points into which a code point decomposes; decompositions are at most `depth` deep. -/
def decomposePoint : Nat → Nat → List Nat
  | 0, n => [n]
  | depth + 1, n =>
    if 0xAC00 ≤ n ∧ n < 0xAC00 + 11172 then syllableParts n
    else
      match findRange Decomposition.point Decomposition.point decompositions n with
      | none => [n]
      | some d => d.parts.flatMap (decomposePoint depth)

/-- Puts a mark into the text before it, which is written backwards. -/
def insertMark (c : Char) : List Char → List Char
  | [] => [c]
  | d :: r =>
    if combiningClass c < combiningClass d ∧ combiningClass c ≠ 0 then d :: insertMark c r
    else c :: d :: r

/-- A text of characters that cannot be decomposed, with ordered marks. -/
def decompose (s : List Char) : List Char :=
  let points := s.flatMap fun c => (decomposePoint 8 c.toNat).map Char.ofNat
  (points.foldl (fun done c => insertMark c done) []).reverse

/-! ### Composition -/

/-- The Korean syllable of a pair, if it makes one up. -/
def composeSyllable? (a b : Nat) : Option Nat :=
  if 0x1100 ≤ a ∧ a < 0x1113 ∧ 0x1161 ≤ b ∧ b < 0x1176 then
    some (0xAC00 + ((a - 0x1100) * 21 + (b - 0x1161)) * 28)
  else if 0xAC00 ≤ a ∧ a < 0xAC00 + 11172 ∧ (a - 0xAC00) % 28 = 0 ∧ 0x11A7 < b ∧ b < 0x11C3 then
    some (a + (b - 0x11A7))
  else none

/-- The character that a pair makes up. -/
def composePair? (a b : Char) : Option Char :=
  match composeSyllable? a.toNat b.toNat with
  | some n => some (Char.ofNat n)
  | none =>
    (decompositions.find? fun d => d.composes && d.parts == [a.toNat, b.toNat]).map fun d =>
      Char.ofNat d.point

/-- Composes the characters after a starter; `marks` are the ones, written backwards, that stay
between it and the next character. -/
def composeFrom (starter : Char) (marks : List Char) : List Char → List Char
  | [] => starter :: marks.reverse
  | c :: r =>
    let k := combiningClass c
    let isBlocked :=
      match marks with
      | [] => false
      | m :: _ => k ≤ combiningClass m
    match if isBlocked then none else composePair? starter c with
    | some p => composeFrom p marks r
    | none =>
      if k = 0 then starter :: marks.reverse ++ composeFrom c [] r
      else composeFrom starter (c :: marks) r

/-- A text in its composed form. -/
def composed (s : List Char) : List Char :=
  let parts := decompose s
  let marks := parts.takeWhile fun c => combiningClass c ≠ 0
  match parts.drop marks.length with
  | [] => marks
  | c :: r => marks ++ composeFrom c [] r

end JobNotice.Text
