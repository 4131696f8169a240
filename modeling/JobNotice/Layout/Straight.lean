import JobNotice.Layout.Template

/-!
# Straight layouts

A straight layout is text with markers in it and nothing else. A marker is a name between double
braces, with a blank on either side of the name or without. Filling such a layout is substitution:
the text stays, and every marker gives way to what its name stands for.

## Main definitions

* `Layout.Piece`, `Layout.sourceOf` — straight layouts and their sources
* `Layout.printedOf` — a straight layout with its markers replaced
* `Layout.isStraight` — the pieces whose source is read as these pieces
-/

namespace JobNotice.Layout

/-- The slot that a name prints. -/
def Slot.ofName? (name : String) : Option Slot := Slot.all.find? fun s => s.name = name

/-- A part of a straight layout. -/
inductive Piece
  | text (s : String)
  /-- A name between double braces, without blanks around it when it is `tight`. -/
  | marker (name : String) (tight : Bool)
  deriving DecidableEq

namespace Piece

/-- The marker of a slot. -/
def slot (s : Slot) : Piece := .marker s.name false

def source : Piece → List Char
  | .text s => s.toList
  | .marker name true => '{' :: '{' :: (name.toList ++ ['}', '}'])
  | .marker name false => '{' :: '{' :: ' ' :: (name.toList ++ [' ', '}', '}'])

/-- What a piece prints; a name that is no slot prints nothing. -/
def printed (value : Slot → String) : Piece → List Char
  | .text s => s.toList
  | .marker name _ =>
    match Slot.ofName? name with
    | some s => (value s).toList
    | none => []

end Piece

/-- The source of a straight layout. -/
def sourceOf (pieces : List Piece) : List Char := pieces.flatMap Piece.source

/-- What a straight layout prints. -/
def printedOf (value : Slot → String) (pieces : List Piece) : List Char :=
  pieces.flatMap (Piece.printed value)

/-! ### Pieces that are read back -/

/-- Whether a text holds no opening of a tag. -/
def isLiteral : List Char → Bool
  | [] => true
  | c :: r => !opensTag (c :: r) && isLiteral r

/-- Names that expressions read as something else than a value to be looked up. -/
def reservedNames : List String :=
  ["true", "false", "True", "False", "not", "and", "or", "in", "is", "__tera_context"]

/-- Whether a name is a name to the reader of expressions and not reserved. -/
def isMarkerName (name : String) : Bool :=
  name.toList.head?.any isNameStart && name.toList.all isNameChar && !reservedNames.contains name

/-- Texts and markers that keep their borders in the source: a text holds no opening and stands
between markers, and no text before a marker ends with a brace. -/
def isStraight : List Piece → Bool
  | [] => true
  | [.text s] => !s.isEmpty && isLiteral s.toList
  | .text s :: .marker name tight :: rest =>
    !s.isEmpty && isLiteral s.toList && s.toList.getLast? != some '{' &&
      isStraight (.marker name tight :: rest)
  | .text _ :: .text _ :: _ => false
  | .marker name _ :: rest => isMarkerName name && isStraight rest

end JobNotice.Layout
