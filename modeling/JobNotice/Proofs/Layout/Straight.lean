import JobNotice.Proofs.Layout.TruthWord

/-!
# Straight layouts are read and filled piece by piece

A straight layout is a list of texts and markers that keep their borders in the source. Reading its
source gives one node for each piece, with nothing trimmed and no layout extended, unless there is a
marker that is refused. Filling these nodes puts the value of its slot in the place of each marker.
So a straight layout is what it looks like: all of the reader and of the evaluator is passed through
here once, and what is proved about documents speaks of `printedOf` alone.

## Main definitions

* `Layout.Piece.node?` — what a piece is read as
* `Layout.Piece.node` — the node of a piece whose name is read as a name
* `Layout.HasPlainNames`, `Layout.SlotsOnly` — layouts whose markers hold names, or name slots

## Main results

* `Layout.Source.ofChars?_straight` — reading a straight layout
* `Layout.Template.fill_straight` — filling it
* `Layout.Template.ofSources_straight` — a pair of straight layouts that show their slots is a
  template
-/

namespace JobNotice.Layout

/-- The node of a piece. -/
def Piece.node : Piece → Node
  | .text s => .text s.toList
  | .marker name _ => nameNode name

/-- What a piece is read as, if it is not refused. -/
def Piece.node? : Piece → Option Node
  | .text s => some (.text s.toList)
  | .marker name _ => markerNode? name

/-- Every marker of a layout holds a name that is read as a name. -/
def HasPlainNames (pieces : List Piece) : Prop :=
  ∀ name tight, Piece.marker name tight ∈ pieces → PlainName name.toList

theorem HasPlainNames.tail {p : Piece} {pieces : List Piece} (h : HasPlainNames (p :: pieces)) :
    HasPlainNames pieces :=
  fun name tight hm => h name tight (List.mem_cons_of_mem p hm)

theorem HasPlainNames.mapM_node? {pieces : List Piece} (h : HasPlainNames pieces) :
    pieces.mapM Piece.node? = some (pieces.map Piece.node) := by
  induction pieces with
  | nil => rfl
  | cons p rest ih =>
    have hp : p.node? = some p.node := by
      cases p with
      | text s => rfl
      | marker name tight => exact markerNode?_of_plain (h name tight (by simp)).no_bool
    simp [List.mapM_cons, hp, ih h.tail]

/-! ### Texts -/

/-- What stands after a text in a straight layout: nothing, or a marker that does not share a brace
with the text. -/
def Follows (t rest : List Char) : Prop :=
  rest = [] ∨ ∃ r, rest = '{' :: '{' :: r ∧ t.getLast? ≠ some '{'

theorem Follows.tail {c : Char} {t rest : List Char} (h : Follows (c :: t) rest) :
    Follows t rest := by
  rcases h with rfl | ⟨r, rfl, hlast⟩
  · exact Or.inl rfl
  · cases t with
    | nil => exact Or.inr ⟨r, rfl, by simp⟩
    | cons d t => exact Or.inr ⟨r, rfl, by simpa using hlast⟩

/-- No tag opens within a text, nor across its end. -/
theorem opensTag_append {c : Char} {t rest : List Char} (ht : isLiteral (c :: t) = true)
    (hr : Follows (c :: t) rest) : opensTag (c :: (t ++ rest)) = false := by
  simp only [isLiteral, Bool.and_eq_true, Bool.not_eq_true'] at ht
  cases t with
  | cons d t =>
    rw [← ht.1]
    by_cases hc : c = '{' <;> simp [opensTag, hc]
  | nil =>
    rcases hr with rfl | ⟨r, rfl, hlast⟩
    · simp [opensTag]
    · have hc : c ≠ '{' := by simpa using hlast
      simp [opensTag, hc]

theorem opensTag_text {t rest : List Char} (hne : t ≠ []) (ht : isLiteral t = true)
    (hr : Follows t rest) : opensTag (t ++ rest) = false := by
  cases t with
  | nil => exact absurd rfl hne
  | cons c t => exact opensTag_append ht hr

theorem isLiteral_tail {c : Char} {t : List Char} (h : isLiteral (c :: t) = true) :
    isLiteral t = true := by
  simp only [isLiteral, Bool.and_eq_true] at h
  exact h.2

/-- A text is read up to its end. -/
theorem readTextNode_append {t rest : List Char} (ht : isLiteral t = true)
    (hr : Follows t rest) : readTextNode (t ++ rest) = (t, rest) := by
  induction t with
  | nil => rcases hr with rfl | ⟨r, rfl, -⟩ <;> simp [readTextNode, opensTag]
  | cons c t ih => simp [readTextNode, opensTag_append ht hr, ih (isLiteral_tail ht) hr.tail]

/-- Behind white space there is either still the text, or what follows it. -/
theorem skipSpace_append {t rest : List Char} (ht : isLiteral t = true) (hr : Follows t rest) :
    skipSpace (t ++ rest) = rest ∨ opensTag (skipSpace (t ++ rest)) = false := by
  induction t with
  | nil =>
    rcases hr with rfl | ⟨r, rfl, -⟩
    · exact Or.inl rfl
    · exact Or.inl rfl
  | cons c t ih =>
    by_cases hc : isSpace c = true
    · simpa [skipSpace, hc] using ih (isLiteral_tail ht) hr.tail
    · exact Or.inr (by simpa [skipSpace, hc] using opensTag_append ht hr)

/-! ### Sources -/

theorem sourceOf_cons (p : Piece) (pieces : List Piece) :
    sourceOf (p :: pieces) = p.source ++ sourceOf pieces := by
  simp [sourceOf]

theorem source_marker (name : String) (tight : Bool) :
    ∃ r, (Piece.marker name tight).source = '{' :: '{' :: r := by
  cases tight <;> exact ⟨_, rfl⟩

/-- What `isStraight` says of a layout that begins with a text. -/
theorem isStraight_text {s : String} {rest : List Piece}
    (h : isStraight (.text s :: rest) = true) :
    s.toList ≠ [] ∧ isLiteral s.toList = true ∧ Follows s.toList (sourceOf rest) ∧
      isStraight rest = true := by
  match rest with
  | [] =>
    simp only [isStraight, Bool.and_eq_true, Bool.not_eq_true', String.isEmpty_eq_false_iff] at h
    exact ⟨by simpa using h.1, h.2, Or.inl rfl, rfl⟩
  | .text _ :: _ => simp [isStraight] at h
  | .marker name tight :: rest =>
    simp only [isStraight, Bool.and_eq_true, Bool.not_eq_true', bne_iff_ne,
      String.isEmpty_eq_false_iff] at h
    obtain ⟨⟨⟨hne, hlit⟩, hlast⟩, hrest⟩ := h
    obtain ⟨r, hr⟩ := source_marker name tight
    refine ⟨by simpa using hne, hlit, Or.inr ⟨r ++ sourceOf rest, ?_, hlast⟩, ?_⟩
    · simp [sourceOf_cons, hr]
    · simpa [isStraight] using hrest

theorem isStraight_marker {name : String} {tight : Bool} {rest : List Piece}
    (h : isStraight (.marker name tight :: rest) = true) :
    isMarkerName name = true ∧ isStraight rest = true := by
  simpa only [isStraight, Bool.and_eq_true] using h

theorem isStraight_tail {p : Piece} {rest : List Piece} (h : isStraight (p :: rest) = true) :
    isStraight rest = true := by
  cases p with
  | text s => exact (isStraight_text h).2.2.2
  | marker name tight => exact (isStraight_marker h).2

/-- No tag opens here, unless it prints a value. -/
def NoOtherTag (s : List Char) : Prop := (∃ r, s = '{' :: '{' :: r) ∨ opensTag s = false

/-- Only a marker opens a tag at the head of a straight layout. -/
theorem noOtherTag_sourceOf {pieces : List Piece} (h : isStraight pieces = true) :
    NoOtherTag (sourceOf pieces) := by
  match pieces with
  | [] => exact Or.inr rfl
  | .marker name tight :: rest =>
    obtain ⟨r, hr⟩ := source_marker name tight
    exact Or.inl ⟨r ++ sourceOf rest, by simp [sourceOf_cons, hr]⟩
  | .text s :: rest =>
    obtain ⟨hne, hlit, hfollows, -⟩ := isStraight_text h
    rw [sourceOf_cons]
    exact Or.inr (opensTag_text hne hlit hfollows)

/-- The same behind white space. -/
theorem noOtherTag_skipSpace_sourceOf {pieces : List Piece} (h : isStraight pieces = true) :
    NoOtherTag (skipSpace (sourceOf pieces)) := by
  match pieces with
  | [] => exact Or.inr rfl
  | .marker name tight :: rest =>
    obtain ⟨r, hr⟩ := source_marker name tight
    exact Or.inl ⟨r ++ sourceOf rest, by simp [sourceOf_cons, hr, skipSpace, isSpace]⟩
  | .text s :: rest =>
    obtain ⟨-, hlit, hfollows, hrest⟩ := isStraight_text h
    rw [sourceOf_cons, Piece.source]
    rcases skipSpace_append hlit hfollows with hskip | hskip
    · rw [hskip]
      exact noOtherTag_sourceOf hrest
    · exact Or.inr hskip

/-! ### Reading nodes -/

theorem readNode_text {fuel : Nat} {s : List Char} (hne : s ≠ []) (h : opensTag s = false) :
    readNode (fuel + 1) s = some (.text (readTextNode s).1, (readTextNode s).2) := by
  match s with
  | [] => exact absurd rfl hne
  | [c] => simp [readNode]
  | c :: d :: r =>
    by_cases hc : c = '{'
    · subst hc
      simp only [opensTag, Bool.or_eq_false_iff, decide_eq_false_iff_not] at h
      simp [readNode, h]
    · simp [readNode, hc]

theorem readNode_marker {fuel : Nat} {name : String} (h : isMarkerName name = true) (tight : Bool)
    (rest : List Char) : readNode (fuel + 1) ((Piece.marker name tight).source ++ rest)
      = (markerNode? name).map (·, rest) := by
  rw [← readPrint_marker_eq h tight rest]
  cases tight <;> simp [readNode, Piece.source]

/-- The piece at the head of a straight layout is read, or refused, as a whole. -/
theorem readNode_sourceOf {fuel : Nat} {p : Piece} {rest : List Piece}
    (h : isStraight (p :: rest) = true) :
    readNode (fuel + 1) (p.source ++ sourceOf rest) = p.node?.map (·, sourceOf rest) := by
  cases p with
  | text s =>
    obtain ⟨hne, hlit, hfollows, -⟩ := isStraight_text h
    have hopen : opensTag (s.toList ++ sourceOf rest) = false := opensTag_text hne hlit hfollows
    simp only [Piece.source]
    rw [readNode_text (by simp [hne]) hopen, readTextNode_append hlit hfollows]
    rfl
  | marker name tight => exact readNode_marker (isStraight_marker h).1 tight _

/-- The nodes of a reading that leaves nothing. -/
def whole? : List Node × List Char → Option (List Node)
  | (nodes, []) => some nodes
  | _ => none

theorem whole?_cons (node : Node) (nodes : List Node) (s : List Char) :
    whole? (node :: nodes, s) = (whole? (nodes, s)).map (node :: ·) := by
  cases s <;> rfl

theorem source_ne_nil {p : Piece} {rest : List Piece} (h : isStraight (p :: rest) = true) :
    p.source ≠ [] := by
  cases p with
  | text s => exact (isStraight_text h).1
  | marker name tight =>
    obtain ⟨r, hr⟩ := source_marker name tight
    simp [hr]

/-- A straight layout is read piece after piece, and up to its end unless a piece is refused. -/
theorem whole?_readNodes {pieces : List Piece} (h : isStraight pieces = true) {fuel : Nat}
    (hfuel : pieces.length + 1 < fuel) :
    whole? (readNodes fuel (sourceOf pieces)) = pieces.mapM Piece.node? := by
  induction pieces generalizing fuel with
  | nil =>
    obtain ⟨fuel, rfl⟩ : ∃ f, fuel = f + 2 := ⟨fuel - 2, by simp at hfuel; omega⟩
    simp [sourceOf, readNodes, readNode, whole?]
  | cons p rest ih =>
    obtain ⟨fuel, rfl⟩ : ∃ f, fuel = f + 2 := ⟨fuel - 2, by simp at hfuel; omega⟩
    replace hfuel : rest.length + 1 < fuel + 1 := by simp at hfuel; omega
    rw [sourceOf_cons, readNodes, readNode_sourceOf h, List.mapM_cons]
    cases hp : p.node? with
    | none =>
      cases hsource : p.source ++ sourceOf rest with
      | nil => exact absurd (List.append_eq_nil_iff.mp hsource).1 (source_ne_nil h)
      | cons c s => rfl
    | some node =>
      simp only [Option.map_some, whole?_cons, ih (isStraight_tail h) hfuel]
      cases rest.mapM Piece.node? <;> rfl

/-! ### Reading whole layouts -/

theorem length_le_length_sourceOf {pieces : List Piece} (h : isStraight pieces = true) :
    pieces.length ≤ (sourceOf pieces).length := by
  induction pieces with
  | nil => simp
  | cons p rest ih =>
    have hpos : 0 < p.source.length := List.length_pos_iff.mpr (source_ne_nil h)
    have := ih (isStraight_tail h)
    simp only [sourceOf_cons, List.length_append, List.length_cons]
    omega

/-- What a piece is read as is a text or a tag that leaves the blanks around it. -/
theorem Piece.node?_eq_some {p : Piece} {node : Node} (h : p.node? = some node) :
    (∃ s, node = .text s) ∨ ∃ e, node = .print ⟨false, false⟩ e := by
  cases p with
  | text s => exact Or.inl ⟨_, (Option.some.inj h).symm⟩
  | marker name tight =>
    right
    rcases markerNode?_cases h with rfl | ⟨b, u, -, rfl⟩
    · exact ⟨_, rfl⟩
    · exact ⟨_, rfl⟩

theorem mapM_node?_cons {p : Piece} {rest : List Piece} {nodes : List Node}
    (h : (p :: rest).mapM Piece.node? = some nodes) :
    ∃ node more, p.node? = some node ∧ rest.mapM Piece.node? = some more ∧
      nodes = node :: more := by
  rw [List.mapM_cons] at h
  cases hp : p.node? with
  | none => simp [hp] at h
  | some node =>
    cases hrest : rest.mapM Piece.node? with
    | none => simp [hp, hrest] at h
    | some more => exact ⟨node, more, rfl, rfl, by simpa [hp, hrest] using h.symm⟩

/-- No tag of a marker asks for blanks to be removed. -/
theorem trimFrom_node {pieces : List Piece} {nodes : List Node}
    (h : pieces.mapM Piece.node? = some nodes) (done : List Node) (afterText : Bool) :
    (trimFrom ⟨done, afterText, false⟩ nodes).done = nodes.reverse ++ done := by
  induction pieces generalizing nodes done afterText with
  | nil =>
    obtain rfl : [] = nodes := by simpa using h
    simp [trimFrom]
  | cons p rest ih =>
    obtain ⟨node, more, hp, hrest, rfl⟩ := mapM_node?_cons h
    rcases Piece.node?_eq_some hp with ⟨s, rfl⟩ | ⟨e, rfl⟩
    · simp [trimFrom, Trimming.text, ih hrest]
    · simp [trimFrom, Trimming.tag, Trimming.before, ih hrest]

theorem trimNodes_node {pieces : List Piece} {nodes : List Node}
    (h : pieces.mapM Piece.node? = some nodes) : trimNodes nodes = nodes := by
  simp [trimNodes, trimFrom_node h]

/-- A tag of another kind than a marker's has another second character. -/
theorem NoOtherTag.readOpening {s : List Char} (h : NoOtherTag s) {kind : Char}
    (hkind : kind = '%' ∨ kind = '#') : readOpening kind s = none := by
  rcases h with ⟨r, rfl⟩ | h
  · rcases hkind with rfl | rfl <;> simp [Layout.readOpening]
  · cases s with
    | nil => rfl
    | cons c s =>
      cases s with
      | nil => simp [Layout.readOpening]
      | cons d r =>
        by_cases hc : c = '{'
        · subst hc
          simp only [opensTag, Bool.or_eq_false_iff, decide_eq_false_iff_not] at h
          rcases hkind with rfl | rfl <;> simp [Layout.readOpening, h]
        · simp [Layout.readOpening, hc]

/-- **A straight layout is read as its pieces**, and refused if one of them is. -/
theorem Source.ofChars?_straight {pieces : List Piece} (h : isStraight pieces = true) :
    Source.ofChars? (sourceOf pieces) = (pieces.mapM Piece.node?).map (⟨none, ·⟩) := by
  have hcomment : readComment (sourceOf pieces) = none := by
    simp [readComment, (noOtherTag_sourceOf h).readOpening (Or.inr rfl)]
  have hdrop : ∀ fuel, dropComments fuel (sourceOf pieces) = sourceOf pieces := by
    intro fuel
    cases fuel <;> simp [dropComments, hcomment]
  have hbase : readBase (sourceOf pieces) = none := by
    simp [readBase, readTagWord, (noOtherTag_skipSpace_sourceOf h).readOpening (Or.inl rfl)]
  have hfuel : pieces.length + 1 < 4 * (sourceOf pieces).length + 8 := by
    have := length_le_length_sourceOf h
    omega
  have hread := whole?_readNodes h hfuel
  simp only [Source.ofChars?, hdrop, hbase]
  cases hnodes : readNodes (4 * (sourceOf pieces).length + 8) (sourceOf pieces) with
  | mk nodes left =>
    rw [hnodes] at hread
    cases left with
    | nil => simp [← hread, whole?, trimNodes_node hread.symm]
    | cons c s => simp [← hread, whole?]

theorem Source.ofChars?_sourceOf {pieces : List Piece} (h : isStraight pieces = true)
    (hn : HasPlainNames pieces) :
    Source.ofChars? (sourceOf pieces) = some ⟨none, pieces.map Piece.node⟩ := by
  rw [Source.ofChars?_straight h, hn.mapM_node?, Option.map_some]

/-! ### Filling -/

/-- Every marker of a layout names a slot. -/
def SlotsOnly (pieces : List Piece) : Prop :=
  ∀ name tight, Piece.marker name tight ∈ pieces → ∃ slot : Slot, slot.name = name

theorem SlotsOnly.tail {p : Piece} {pieces : List Piece} (h : SlotsOnly (p :: pieces)) :
    SlotsOnly pieces :=
  fun name tight hm => h name tight (List.mem_cons_of_mem p hm)

theorem Slot.plainName (slot : Slot) : PlainName slot.name.toList := by
  cases slot <;>
    exact ⟨⟨_, _, rfl, by decide⟩, List.all_eq_true.mp (by decide), by decide, by decide⟩

theorem SlotsOnly.hasPlainNames {pieces : List Piece} (h : SlotsOnly pieces) :
    HasPlainNames pieces := by
  intro name tight hm
  obtain ⟨slot, rfl⟩ := h name tight hm
  exact slot.plainName

theorem Slot.ofName?_name (slot : Slot) : Slot.ofName? slot.name = some slot := by
  cases slot <;> decide

variable (environment : Environment)

/-- The scope in which a layout is filled with the values of its slots. -/
def slotScope (environment : Environment) (layout : String) (value : Slot → String) : Scope :=
  ⟨[⟨[], none, layout⟩], slotValues value, environment⟩

theorem lookup_slotValues (value : Slot → String) (name : String) :
    (slotValues value).lookup name
      = (Slot.ofName? name).map fun slot => .string (value slot) := by
  rw [slotValues, Slot.ofName?]
  induction Slot.all with
  | nil => rfl
  | cons slot slots ih =>
    by_cases hname : slot.name = name
    · simp [hname]
    · have hne : (name == slot.name) = false := beq_false_of_ne fun h => hname h.symm
      simp [List.lookup_cons, hname, hne, ih]

theorem splitChars_of_not_mem {sep : Char} {s : List Char} (h : sep ∉ s) :
    Text.splitChars sep s = [s] := by
  induction s with
  | nil => rfl
  | cons c s ih =>
    have hc : c ≠ sep := fun hc => h (by simp [hc])
    simp [Text.splitChars, hc, ih fun hs => h (List.mem_cons_of_mem c hs)]

/-- A name has no parts: it is looked up as it stands. -/
theorem lookUpPath_name (layout : String) (value : Slot → String) {name : String}
    (hchars : ∀ c ∈ name.toList, isNameChar c = true) (hdump : name ≠ dumpName) :
    lookUpPath (slotScope environment layout value) name =
      match Slot.ofName? name with
      | some slot => .ok (.string (value slot))
      | none => .error (.unknownName name layout) := by
  have habsent : ∀ d, isNameChar d = false → d ∉ name.toList := by
    intro d hd hm
    simp [hchars d hm] at hd
  have hbracket : name.toList.contains '[' = false := by
    simpa using habsent '[' (by decide)
  have hdots : splitDots name = (name, []) := by
    simp [splitDots, splitChars_of_not_mem (habsent '.' (by decide))]
  have hfind : (slotScope environment layout value).find name
      = (Slot.ofName? name).map fun slot => .string (value slot) := by
    cases h : Slot.ofName? name <;>
      simp [Scope.find, hdots, slotScope, Frame.find, lookup_slotValues, follow, h]
  have hlayout : (slotScope environment layout value).layout = layout := rfl
  rw [lookUpPath, if_neg hdump, hbracket]
  cases h : Slot.ofName? name <;> simp [lookUp, hfind, hlayout, h]

theorem lookUpPath_slot (layout : String) (value : Slot → String) (slot : Slot) :
    lookUpPath (slotScope environment layout value) slot.name = .ok (.string (value slot)) := by
  have hdump : slot.name ≠ dumpName := by cases slot <;> decide
  rw [lookUpPath_name environment layout value slot.plainName.chars hdump, Slot.ofName?_name]

theorem evalExpr_path {s : Scope} {name : String} {v : Json.Value}
    (h : lookUpPath s name = .ok v) (hv : v.isNull = false) :
    evalExpr s (.ofTerm (.path name)) = .ok v := by
  simp only [Expr.ofTerm, evalExpr, h, hv, Bool.false_and, evalFiltered]
  rfl

/-- A marker prints the value of its slot and leaves the scope as it is. -/
theorem fillNode_slot (l : Library) (depth : Nat) (layout : String) (value : Slot → String)
    (slot : Slot) : fillNode l depth (slotScope environment layout value) (nameNode slot.name)
      = .ok ((value slot).toList, slotScope environment layout value) := by
  simp only [nameNode, fillNode, evalExpr_path (lookUpPath_slot environment layout value slot) rfl]
  rfl

/-- Nodes of a straight layout print what the layout prints. -/
theorem fillNodes_node (l : Library) (depth : Nat) (layout : String) (value : Slot → String)
    {pieces : List Piece} (h : SlotsOnly pieces) :
    fillNodes l (depth + 1) (slotScope environment layout value) (pieces.map Piece.node)
      = .ok (printedOf value pieces, slotScope environment layout value) := by
  induction pieces with
  | nil => simp [fillNodes, printedOf]
  | cons p rest ih =>
    have ih := ih h.tail
    cases p with
    | text s =>
      simp [Piece.node, fillNodes, fillNode, bind, Except.bind, ih, printedOf, Piece.printed]
    | marker name tight =>
      obtain ⟨slot, rfl⟩ := h name tight (List.mem_cons_self ..)
      simp [Piece.node, fillNodes, fillNode_slot, bind, Except.bind, ih, printedOf, Piece.printed,
        Slot.ofName?_name]

namespace Pair

/-- **Filling a straight layout is substitution**, in every environment. -/
theorem fill_straight {p : Pair} {format : Format} {pieces : List Piece}
    (hsource : p.source format = ⟨none, pieces.map Piece.node⟩) (hdepth : 0 < p.depth)
    (h : SlotsOnly pieces) (value : Slot → String) :
    p.fill environment format value = .ok (String.ofList (printedOf value pieces)) := by
  obtain ⟨depth, hd⟩ : ∃ d, p.depth = d + 1 := ⟨p.depth - 1, by omega⟩
  have hlookup : p.library.lookup format.fileName = some ⟨none, pieces.map Piece.node⟩ := by
    rw [← hsource]
    cases format <;> rfl
  have hfill := fillNodes_node environment p.library depth format.fileName value h
  simp only [slotScope] at hfill
  simp [fill, Layout.fill, hlookup, hd, hfill, Except.map]

/-- Two straight layouts. -/
def ofPieces (html text : List Piece) : Pair where
  html := ⟨none, html.map Piece.node⟩
  text := ⟨none, text.map Piece.node⟩
  depth := 8 * ((sourceOf html).length + (sourceOf text).length) + 64

theorem depth_ofPieces_pos (html text : List Piece) : 0 < (ofPieces html text).depth := by
  simp [ofPieces]

/-- The pair of two texts is the pair of their pieces. -/
theorem ofTexts?_sourceOf {html text : List Piece} (hh : isStraight html = true)
    (ht : isStraight text = true) (hhnames : HasPlainNames html) (htnames : HasPlainNames text) :
    ofTexts? (String.ofList (sourceOf html)) (String.ofList (sourceOf text))
      = some (ofPieces html text) := by
  simp only [ofTexts?, String.toList_ofList, Source.ofChars?_sourceOf hh hhnames,
    Source.ofChars?_sourceOf ht htnames, basesExist, if_true, String.length_ofList, ofPieces]

end Pair

namespace Template

/-- The template of two straight layouts. -/
def ofPieces (html text : List Piece) (product support : String) : Template :=
  ⟨(Pair.ofPieces html text).fill [], product, support⟩

theorem fill_ofPieces {html text : List Piece} {product support : String} {format : Format}
    {pieces : List Piece}
    (hsource : (Pair.ofPieces html text).source format = ⟨none, pieces.map Piece.node⟩)
    (h : SlotsOnly pieces) (value : Slot → String) :
    (ofPieces html text product support).fill format value
      = .ok (String.ofList (printedOf value pieces)) := by
  have hfill := Pair.fill_straight [] hsource (Pair.depth_ofPieces_pos html text) h value
  simp only [fill, ofPieces, hfill]

/-- Every slot that a format requires has a marker. -/
def ShowsSlots (format : Format) (pieces : List Piece) : Prop :=
  ∀ slot : Slot, slot.requiredIn format = true → ∃ tight, Piece.marker slot.name tight ∈ pieces

/-- The value of a slot that has a marker stands in the filled layout. -/
theorem infix_printedOf {pieces : List Piece} {slot : Slot} {tight : Bool}
    (h : Piece.marker slot.name tight ∈ pieces) (value : Slot → String) :
    (value slot).toList <:+: printedOf value pieces := by
  obtain ⟨before, after, rfl⟩ := List.append_of_mem h
  refine ⟨printedOf value before, printedOf value after, ?_⟩
  simp [printedOf, Piece.printed, Slot.ofName?_name]

theorem missingSlot?_straight {format : Format} {pieces : List Piece}
    (h : ShowsSlots format pieces) :
    missingSlot? format (String.ofList (printedOf Slot.marker pieces)) = none := by
  rw [missingSlot?, List.find?_eq_none]
  intro slot _ hmissing
  simp only [String.toList_ofList, Bool.and_eq_true, Bool.not_eq_true'] at hmissing
  obtain ⟨hrequired, hnot⟩ := hmissing
  obtain ⟨tight, hm⟩ := h slot hrequired
  rw [Text.isInfix_iff.mpr (infix_printedOf hm Slot.marker)] at hnot
  exact absurd hnot (by simp)

/-- Only the slots that the layout prints decide the check. -/
theorem checkSlots_ofPieces {html text : List Piece} {product support : String} {format : Format}
    {pieces : List Piece}
    (hsource : (Pair.ofPieces html text).source format = ⟨none, pieces.map Piece.node⟩)
    (hslots : SlotsOnly pieces) :
    (ofPieces html text product support).checkSlots format =
      match missingSlot? format (String.ofList (printedOf Slot.marker pieces)) with
      | none => .ok ()
      | some slot => .error (.missingSlot format slot) := by
  rw [checkSlots, fill_ofPieces hsource hslots]
  rfl

/-- Straight layouts make a template if neither check misses a slot. -/
theorem ofSources_eq_ok_iff {html text : List Piece} (hh : isStraight html = true)
    (ht : isStraight text = true) (hhslots : SlotsOnly html) (htslots : SlotsOnly text)
    {product support : String} {t : Template} :
    ofSources (String.ofList (sourceOf html)) (String.ofList (sourceOf text)) product support
        = .ok t ↔
      t = ofPieces html text product support ∧
        missingSlot? .html (String.ofList (printedOf Slot.marker html)) = none ∧
        missingSlot? .text (String.ofList (printedOf Slot.marker text)) = none := by
  have hload : ofSources (String.ofList (sourceOf html)) (String.ofList (sourceOf text)) product
      support = (ofPieces html text product support).checked := by
    simp only [ofSources, load, Engine.standard, Pair.ofTexts?_sourceOf hh ht
      hhslots.hasPlainNames htslots.hasPlainNames, Option.map_some, ofPieces]
  have hhtml : (ofPieces html text product support).checkSlots .html = _ :=
    checkSlots_ofPieces rfl hhslots
  have htext : (ofPieces html text product support).checkSlots .text = _ :=
    checkSlots_ofPieces rfl htslots
  rw [hload, checked, hhtml, htext]
  cases missingSlot? .html (String.ofList (printedOf Slot.marker html)) <;>
    cases missingSlot? .text (String.ofList (printedOf Slot.marker text)) <;>
    simp [bind, Except.bind, eq_comm]

/-- **Straight layouts that show their slots make a template.** -/
theorem ofSources_straight {html text : List Piece} (hh : isStraight html = true)
    (ht : isStraight text = true) (hhslots : SlotsOnly html) (htslots : SlotsOnly text)
    (hhshows : ShowsSlots .html html) (htshows : ShowsSlots .text text) (product support : String) :
    ofSources (String.ofList (sourceOf html)) (String.ofList (sourceOf text)) product support
      = .ok (ofPieces html text product support) :=
  (ofSources_eq_ok_iff hh ht hhslots htslots).mpr
    ⟨rfl, missingSlot?_straight hhshows, missingSlot?_straight htshows⟩

end Template

/-! ### Nothing but slots -/

/-- The smallest layout that shows every slot. -/
def bareSlots : List Piece := Slot.all.map Piece.slot

theorem isStraight_bareSlots : isStraight bareSlots = true := by decide

theorem slotsOnly_bareSlots : SlotsOnly bareSlots := by
  intro name tight hm
  obtain ⟨slot, -, hslot⟩ := List.mem_map.mp hm
  exact ⟨slot, (Piece.marker.inj hslot).1⟩

theorem showsSlots_bareSlots (format : Format) : Template.ShowsSlots format bareSlots := by
  intro slot _
  exact ⟨false, List.mem_map.mpr ⟨slot, by cases slot <;> decide, rfl⟩⟩

end JobNotice.Layout
