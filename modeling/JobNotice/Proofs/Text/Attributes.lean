import JobNotice.Proofs.Text.Escape
import JobNotice.Proofs.Text.Gathering

/-!
# Links in HTML

The links of a document are the values of the attributes `href` and `src` of its tags. They are
found by reading the document from left to right as browsers do. A reader stands in the text, in a
tag, in the name of an attribute or in its value, and what a character does depends on that place
alone. So a document can be read piece by piece: each piece leads from one place to another and has
the links that end in it.

A tag begins with `<` and a letter, its attributes have values in quotes of either kind, without
quotes, or none, and names in letters of either case. End tags, comments and declarations have no
attributes and are read up to the next `>`.

## Main definitions

* `Text.Place`, `Text.next`, `Text.scan` — reading HTML for attributes
* `Text.linkValues` — the links of a document
* `Text.Passes` — what a piece of a document does
* `Text.Links` — a piece that begins and ends between tags

## Main results

* `Text.Passes.append` — pieces are read one after the other
* `Text.Passes.link` — a value without quotes makes a link
* `Text.Links.escaped` — an escaped value between tags has no links
-/

namespace JobNotice.Text

/-! ### Reading attributes -/

/-- An attribute of a tag. The name is in small letters, the value as it is written. -/
structure Attribute where
  name : List Char
  value : List Char
  deriving DecidableEq

/-- Where a reader of HTML stands. -/
inductive Place
  | text
  /-- After `<`. -/
  | opening
  /-- In an end tag, a comment or a declaration. -/
  | skipping
  | tagName
  /-- In a tag, where an attribute may begin. -/
  | between
  | name (name : List Char)
  /-- Behind a name, where `=` may follow. -/
  | afterName (name : List Char)
  /-- Behind `=`, where a value may begin. -/
  | beforeValue (name : List Char)
  | quoted (name : List Char) (quote : Char) (value : List Char)
  | bare (name : List Char) (value : List Char)
  deriving DecidableEq

/-- The blanks of HTML. -/
def isHtmlBlank (c : Char) : Bool :=
  c = ' ' || c = '\t' || c = '\n' || c = '\r' || c = '\x0c'

/-- A character leads to another place, and may end an attribute. -/
def next : Place → Char → Place × List Attribute
  | .text, c => (if c = '<' then .opening else .text, [])
  | .opening, c =>
    (if c.isAlpha then .tagName
      else if c = '/' || c = '!' || c = '?' then .skipping
      else if c = '<' then .opening
      else .text, [])
  | .skipping, c => (if c = '>' then .text else .skipping, [])
  | .tagName, c =>
    (if c = '>' then .text else if isHtmlBlank c || c = '/' then .between else .tagName, [])
  | .between, c =>
    (if c = '>' then .text
      else if isHtmlBlank c || c = '/' then .between
      else .name [c.toLower], [])
  | .name name, c =>
    if c = '>' then (.text, [⟨name, []⟩])
    else if c = '/' then (.between, [⟨name, []⟩])
    else if c = '=' then (.beforeValue name, [])
    else if isHtmlBlank c then (.afterName name, [])
    else (.name (name ++ [c.toLower]), [])
  | .afterName name, c =>
    if c = '>' then (.text, [⟨name, []⟩])
    else if c = '/' then (.between, [⟨name, []⟩])
    else if c = '=' then (.beforeValue name, [])
    else if isHtmlBlank c then (.afterName name, [])
    else (.name [c.toLower], [⟨name, []⟩])
  | .beforeValue name, c =>
    if c = '>' then (.text, [⟨name, []⟩])
    else if c = '"' || c = '\'' then (.quoted name c [], [])
    else if isHtmlBlank c then (.beforeValue name, [])
    else (.bare name [c], [])
  | .quoted name quote value, c =>
    if c = quote then (.between, [⟨name, value⟩]) else (.quoted name quote (value ++ [c]), [])
  | .bare name value, c =>
    if c = '>' then (.text, [⟨name, value⟩])
    else if isHtmlBlank c then (.between, [⟨name, value⟩])
    else (.bare name (value ++ [c]), [])

/-- The place that a text leads to, and the attributes that end in it. -/
def scan (place : Place) : List Char → Place × List Attribute
  | [] => (place, [])
  | c :: rest =>
    let after := scan (next place c).1 rest
    (after.1, (next place c).2 ++ after.2)

/-- The names of the attributes whose values a browser follows. -/
def isLinkName (name : List Char) : Bool := name = ['h', 'r', 'e', 'f'] || name = ['s', 'r', 'c']

/-- The links among attributes, as they are written. -/
def linksOf (attributes : List Attribute) : List (List Char) :=
  (attributes.filter fun a => isLinkName a.name).map Attribute.value

/-- The links of a document, as they are written and in their order. -/
def linkValues (s : List Char) : List (List Char) := linksOf (scan .text s).2

/-- Names in capitals, blanks around `=`, either quote or none. -/
example : linkValues "<!-- href=0 --><IMG SRC='1>' alt=\"href='2'\"><a class=x href = 3></a>".toList
    = ["1>".toList, "3".toList] := by
  decide

/-! ### Pieces of a document -/

/-- A piece of a document leads from one place to another and has the links that end in it. -/
def Passes (place : Place) (s : List Char) (place' : Place) (links : List (List Char)) : Prop :=
  (scan place s).1 = place' ∧ linksOf (scan place s).2 = links

instance (place : Place) (s : List Char) (place' : Place) (links : List (List Char)) :
    Decidable (Passes place s place' links) :=
  inferInstanceAs (Decidable (_ ∧ _))

variable {place place' place'' : Place} {s t v : List Char} {links links' : List (List Char)}

theorem linksOf_append (attributes attributes' : List Attribute) :
    linksOf (attributes ++ attributes') = linksOf attributes ++ linksOf attributes' := by
  simp [linksOf]

theorem linksOf_singleton (name v : List Char) :
    linksOf [⟨name, v⟩] = if isLinkName name then [v] else [] := by
  cases h : isLinkName name <;> simp [linksOf, h]

/-- A text is read on from where its beginning leads to. -/
theorem scan_append (place : Place) (s t : List Char) :
    scan place (s ++ t)
      = ((scan (scan place s).1 t).1, (scan place s).2 ++ (scan (scan place s).1 t).2) := by
  induction s generalizing place with
  | nil => rfl
  | cons c s ih => rw [List.cons_append, scan, scan, ih, List.append_assoc]

namespace Passes

theorem nil (place : Place) : Passes place [] place [] := ⟨rfl, rfl⟩

/-- Pieces are read one after the other. -/
theorem append (hs : Passes place s place' links) (ht : Passes place' t place'' links') :
    Passes place (s ++ t) place'' (links ++ links') := by
  obtain ⟨hplace, hlinks⟩ := hs
  rw [Passes, scan_append, hplace, linksOf_append, hlinks]
  exact ⟨ht.1, congrArg (links ++ ·) ht.2⟩

/-- A character leads to the place where the rest is read. -/
theorem cons {c : Char} {attributes : List Attribute} (hc : next place c = (place', attributes))
    (ht : Passes place' t place'' links) :
    Passes place (c :: t) place'' (linksOf attributes ++ links) := by
  rw [Passes, scan, hc, linksOf_append]
  exact ⟨ht.1, congrArg (_ ++ ·) ht.2⟩

/-- A string passes as its characters do. -/
theorem string {l : List Char} (h : Passes place l place' links) :
    Passes place (String.ofList l).toList place' links := by
  rwa [String.toList_ofList]

/-- A text is read on from where a string without links leads to. -/
theorem string_append {l : List Char} (hl : linksOf (scan place l).2 = [])
    (ht : Passes (scan place l).1 t place' links) :
    Passes place ((String.ofList l).toList ++ t) place' links :=
  append (string ⟨rfl, hl⟩) ht

/-- A text without tags stays between tags. -/
theorem quiet (h : '<' ∉ s) : Passes .text s .text [] := by
  induction s with
  | nil => exact nil _
  | cons c s ih =>
    obtain ⟨hc, hs⟩ := not_or.mp (mt List.mem_cons.mpr h)
    have hnext : next .text c = (.text, []) := by rw [next, if_neg (Ne.symm hc)]
    exact cons hnext (ih hs)

/-- A value goes on until its quote. -/
theorem quoted (name start : List Char) {quote : Char} (h : quote ∉ v) :
    Passes (.quoted name quote start) v (.quoted name quote (start ++ v)) [] := by
  induction v generalizing start with
  | nil =>
    rw [List.append_nil]
    exact nil _
  | cons c v ih =>
    obtain ⟨hc, hv⟩ := not_or.mp (mt List.mem_cons.mpr h)
    have hnext : next (.quoted name quote start) c = (.quoted name quote (start ++ [c]), []) :=
      if_neg (Ne.symm hc)
    have hcons := cons hnext (ih (start ++ [c]) hv)
    rwa [List.append_assoc] at hcons

/-- An attribute ends with the quote of its value. -/
theorem closed (name start : List Char) {quote : Char} (hv : quote ∉ v)
    (ht : Passes .between t place' links) :
    Passes (.quoted name quote start) (v ++ quote :: t) place'
      ((if isLinkName name then [start ++ v] else []) ++ links) := by
  have hnext : next (.quoted name quote (start ++ v)) quote = (.between, [⟨name, start ++ v⟩]) :=
    if_pos rfl
  have hquote := (quoted name start hv).append (cons hnext ht)
  rwa [linksOf_singleton] at hquote

/-- **A value without quotes makes a link.** It stands between a string that begins the attribute
and a string that begins with the quote. -/
theorem link (name start : List Char) {opening closing : List Char}
    (hname : isLinkName name = true) (hv : '"' ∉ v)
    (hopen : Passes place opening (.quoted name '"' start) [])
    (hclose : linksOf (scan .between closing).2 = [])
    (ht : Passes (scan .between closing).1 t place' links) :
    Passes place ((String.ofList opening).toList ++
      (v ++ ((String.ofList ('"' :: closing)).toList ++ t))) place' ((start ++ v) :: links) := by
  have hrest := hopen.string.append (closed name start hv (append ⟨rfl, hclose⟩ ht))
  rwa [if_pos hname, ← List.cons_append, ← String.toList_ofList (l := '"' :: closing)] at hrest

end Passes

/-! ### Pieces between tags -/

/-- A piece of a document that begins and ends between tags, and its links. -/
def Links (s : List Char) (links : List (List Char)) : Prop := Passes .text s .text links

theorem Links.linkValues_eq (h : Links s links) : linkValues s = links := h.2

namespace Links

theorem nil : Links [] [] := Passes.nil .text

theorem append (hs : Links s links) (ht : Links t links') : Links (s ++ t) (links ++ links') :=
  Passes.append hs ht

theorem cons {link : List Char} (hs : Links s [link]) (ht : Links t links) :
    Links (s ++ t) (link :: links) :=
  hs.append ht

theorem append_left (hs : Links s []) (ht : Links t links) : Links (s ++ t) links :=
  hs.append ht

/-- Links are found in a document piece by piece. -/
theorem gathers : Gathers Links := ⟨nil, append⟩

/-- A string with the links that it is seen to have. -/
theorem string {l : List Char} (h : Passes .text l .text links) :
    Links (String.ofList l).toList links :=
  h.string

/-- A string without tags has no links. -/
theorem quiet_string {l : List Char} (h : (l.all fun c => c != '<') = true) :
    Links (String.ofList l).toList [] := by
  refine Passes.string (Passes.quiet fun hmem => ?_)
  exact bne_iff_ne.mp (List.all_eq_true.mp h _ hmem) rfl

/-- **An escaped value between tags has no links.** -/
theorem escaped (s : List Char) : Links (escapeHtml s) [] :=
  Passes.quiet fun hmem => absurd (not_isMarkup_of_mem_escapeHtml hmem) (by decide)

/-- An escaped value between two strings without links. -/
theorem enclosed (s : List Char) {l l' : List Char} (hl : Passes .text l .text [])
    (hl' : Passes .text l' .text []) :
    Links ((String.ofList l).toList ++ (escapeHtml s ++ (String.ofList l').toList)) [] :=
  (string hl).append_left <| (escaped s).append_left <| string hl'

end Links

end JobNotice.Text
