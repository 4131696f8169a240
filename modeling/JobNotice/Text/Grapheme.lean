import JobNotice.Text.GraphemeTable

/-!
# User-perceived characters

Text is cut between user-perceived characters, extended grapheme clusters: a letter with its
marks, a Hangul syllable, a flag of two regional indicators, a joined emoji, or a conjunct of
consonants is never cut in two. A text without anything but plain letters is cut everywhere.

## Main definitions

* `Text.graphemes` — the clusters of a text, in order
-/

namespace JobNotice.Text

/-- The classes of characters that the rules speak about. -/
inductive GraphemeClass
  | other
  | carriageReturn
  | lineFeed
  | control
  | extender
  | joiner
  | regional
  | prepended
  | spacing
  | leading
  | middle
  | trailing
  | openSyllable
  | closedSyllable
  | pictograph
  deriving DecidableEq

def classOfNumber : Nat → GraphemeClass
  | 1 => .control
  | 2 => .extender
  | 3 => .joiner
  | 4 => .regional
  | 5 => .prepended
  | 6 => .spacing
  | 7 => .leading
  | 8 => .middle
  | 9 => .trailing
  | 10 => .pictograph
  | _ => .other

/-- The class of a character. Of ASCII only the controls are not `other`. -/
def graphemeClass (c : Char) : GraphemeClass :=
  let n := c.toNat
  if c = '\r' then .carriageReturn
  else if c = '\n' then .lineFeed
  else if n < 0x20 then .control
  else if n < 0x7F then .other
  else if 0xAC00 ≤ n ∧ n ≤ 0xD7A3 then
    if (n - 0xAC00) % 28 = 0 then .openSyllable else .closedSyllable
  else classOfNumber ((graphemeClasses.lookup n).getD 0)

/-- What matters of the text before a place. -/
structure GraphemeState where
  last : GraphemeClass
  /-- Whether an odd number of regional indicators ends here. -/
  oddRegional : Bool
  /-- Whether a pictograph with extenders, or then a joiner, ends here. -/
  pictograph : Bool
  /-- Whether a consonant with marks ends here. -/
  consonant : Bool
  /-- Whether among these marks is one that joins consonants. -/
  linked : Bool

/-- The state after the first character of a text. -/
def GraphemeState.start (c : Char) : GraphemeState :=
  let k := graphemeClass c
  ⟨k, k = .regional, k = .pictograph, c.toNat ≥ 0x80 && conjunctConsonants.contains c, false⟩

/-- The state after one more character. -/
def GraphemeState.step (s : GraphemeState) (c : Char) : GraphemeState :=
  let k := graphemeClass c
  let linker := c.toNat ≥ 0x80 && conjunctLinkers.contains c
  let isConsonant := c.toNat ≥ 0x80 && conjunctConsonants.contains c
  let mark := k = .extender || k = .joiner
  { last := k
    oddRegional := k = .regional && !s.oddRegional
    pictograph := k = .pictograph || (s.pictograph && s.last != .joiner && mark)
    consonant := isConsonant || (s.consonant && mark)
    linked := !isConsonant && s.consonant && mark && (s.linked || linker) }

/-- Whether no cut is allowed before a character. -/
def GraphemeState.joins (s : GraphemeState) (c : Char) : Bool :=
  let k := graphemeClass c
  let isControl (k : GraphemeClass) : Bool :=
    k = .control || k = .carriageReturn || k = .lineFeed
  if s.last = .carriageReturn ∧ k = .lineFeed then true
  else if isControl s.last || isControl k then false
  else
    (s.last = .leading && (k = .leading || k = .middle || k = .openSyllable || k = .closedSyllable))
    || ((s.last = .openSyllable || s.last = .middle) && (k = .middle || k = .trailing))
    || ((s.last = .closedSyllable || s.last = .trailing) && k = .trailing)
    || k = .extender || k = .joiner || k = .spacing || s.last = .prepended
    || (s.consonant && s.linked && c.toNat ≥ 0x80 && conjunctConsonants.contains c)
    || (s.pictograph && s.last = .joiner && k = .pictograph)
    || (s.oddRegional && s.last = .regional && k = .regional)

/-- The clusters of a text that goes on from a state; the first one may go on too. -/
def graphemesFrom (s : GraphemeState) : List Char → List (List Char)
  | [] => [[]]
  | c :: r =>
    let more := graphemesFrom (s.step c) r
    if s.joins c then
      match more with
      | [] => [[c]]
      | g :: gs => (c :: g) :: gs
    else
      match more with
      | [] => [[], [c]]
      | g :: gs => [] :: (c :: g) :: gs

/-- The user-perceived characters of a text. -/
def graphemes : List Char → List (List Char)
  | [] => []
  | c :: r =>
    match graphemesFrom (.start c) r with
    | [] => [[c]]
    | g :: gs => (c :: g) :: gs

end JobNotice.Text
