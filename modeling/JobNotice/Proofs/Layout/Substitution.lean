import JobNotice.Proofs.Layout.Straight

/-!
# Filling is substitution

What becomes of two straight layouts is decided by the names in their markers. If one of these names
cannot be read, the pair is refused as it stands, before anything is filled. Otherwise both are
filled once with slot markers, the first of them first, and a name that is no slot stops the filling
where it is met. So a pair that is accepted names slots only, and to fill it is to put values in the
place of markers, whatever the values hold.

## Main definitions

* `Layout.HasReadableNames` — layouts whose markers hold names that markers may hold

## Main results

* `Layout.Template.ofSources_other` — a name that is no slot is not accepted
* `Layout.Template.straight_layouts_are_substituted` — what becomes of two straight layouts
-/

namespace JobNotice.Layout

/-- Every marker of a layout holds a name that a marker may hold. -/
def HasReadableNames (pieces : List Piece) : Prop :=
  ∀ name tight, Piece.marker name tight ∈ pieces → IsReadable name

theorem hasReadableNames_cons {p : Piece} {pieces : List Piece} :
    HasReadableNames (p :: pieces) ↔ p.node?.isSome = true ∧ HasReadableNames pieces := by
  have hhead : p.node?.isSome = true ↔ ∀ name tight, p = .marker name tight → IsReadable name := by
    cases p with
    | text s => simp [Piece.node?]
    | marker name tight => simp [Piece.node?, isSome_markerNode?]
  rw [hhead]
  constructor
  · intro h
    exact ⟨fun name tight hp => h name tight (by simp [hp]),
      fun name tight hm => h name tight (List.mem_cons_of_mem p hm)⟩
  · rintro ⟨hp, hrest⟩ name tight hm
    rcases List.mem_cons.mp hm with heq | hm
    · exact hp name tight heq.symm
    · exact hrest name tight hm

/-- A layout is read as long as its names are. -/
theorem isSome_mapM_node? {pieces : List Piece} :
    (pieces.mapM Piece.node?).isSome = true ↔ HasReadableNames pieces := by
  induction pieces with
  | nil => simp [HasReadableNames]
  | cons p rest ih =>
    rw [hasReadableNames_cons, ← ih, List.mapM_cons]
    cases p.node? <;> cases rest.mapM Piece.node? <;> simp

/-! ### Names that are no slots -/

theorem evalExpr_path_error {s : Scope} {name : String} {why : Failure}
    (h : lookUpPath s name = .error why) : evalExpr s (.ofTerm (.path name)) = .error why := by
  simp [Expr.ofTerm, evalExpr, h, hasDefault]

section Filling

variable (environment : Environment) (l : Library) (depth : Nat) (layout : String) (value : Slot → String)

/-- A name stands for a text or for nothing. -/
theorem lookUpPath_string_or_error {name : String}
    (hchars : ∀ c ∈ name.toList, isNameChar c = true) :
    (∃ t, lookUpPath (slotScope environment layout value) name = .ok (.string t)) ∨
      ∃ why, lookUpPath (slotScope environment layout value) name = .error why := by
  by_cases hdump : name = dumpName
  · exact Or.inl ⟨_, by rw [lookUpPath, if_pos hdump]⟩
  · rw [lookUpPath_name environment layout value hchars hdump]
    cases Slot.ofName? name with
    | some slot => exact Or.inl ⟨_, rfl⟩
    | none => exact Or.inr ⟨_, rfl⟩

/-- So there is no answer to whether a truth value is within what it stands for. -/
theorem fillNode_member (b : Bool) {u : List Char} (hu : ∀ c ∈ u, isNameChar c = true) :
    ∃ why, fillNode l depth (slotScope environment layout value) (memberNode (.bool b) u) = .error why := by
  have hbool : evalExpr (slotScope environment layout value) (.ofTerm (.bool b)) = .ok (.bool b) := by
    simp [Expr.ofTerm, evalExpr, evalTerm, evalFiltered, isCondition, bind, Except.bind]
  have hname : ∀ c ∈ (String.ofList u).toList, isNameChar c = true := by simpa using hu
  rcases lookUpPath_string_or_error environment layout value hname with ⟨t, ht⟩ | ⟨why, hwhy⟩
  · refine ⟨.notInString (shown (.bool b)), ?_⟩
    rw [memberNode, fillNode, Expr.ofTerm, evalExpr, evalTerm, hbool, evalExpr_path ht rfl]
    · simp [bind, Except.bind, decideWithin, Except.map]
    · simp
  · refine ⟨why, ?_⟩
    rw [memberNode, fillNode, Expr.ofTerm, evalExpr, evalTerm, hbool, evalExpr_path_error hwhy]
    · simp [bind, Except.bind, Except.map]
    · simp

/-- A marker whose name is no slot prints nothing, but stops the filling. -/
theorem fillNode_other {name : String} {node : Node} (h : isMarkerName name = true)
    (hnode : markerNode? name = some node) (hslot : Slot.ofName? name = none) :
    ∃ why, fillNode l depth (slotScope environment layout value) node = .error why := by
  have hname := isName_of_isMarkerName h
  rcases markerNode?_cases hnode with rfl | ⟨b, u, hu, rfl⟩
  · have hdump : name ≠ dumpName := ne_of_isMarkerName h (by decide)
    have hlook : lookUpPath (slotScope environment layout value) name = .error (.unknownName name layout) := by
      rw [lookUpPath_name environment layout value hname.chars hdump, hslot]
    exact ⟨_, by rw [nameNode, fillNode, evalExpr_path_error hlook]; rfl⟩
  · exact fillNode_member environment l depth layout value b fun c hc => hname.chars c (hu c hc)

/-- Filling stops at the first name that is no slot. -/
theorem fillNodes_other {pieces : List Piece} {nodes : List Node}
    (h : isStraight pieces = true) (hnodes : pieces.mapM Piece.node? = some nodes)
    (hother : ¬ SlotsOnly pieces) :
    ∃ why, fillNodes l (depth + 1) (slotScope environment layout value) nodes = .error why := by
  induction pieces generalizing nodes with
  | nil => exact absurd (fun name tight hm => by simp at hm) hother
  | cons p rest ih =>
    obtain ⟨node, more, hp, hrest, rfl⟩ := mapM_node?_cons hnodes
    have hstop := fun hother => ih (isStraight_tail h) hrest hother
    have hlater : ∀ s, fillNode l depth (slotScope environment layout value) node
          = .ok (s, slotScope environment layout value) → ¬ SlotsOnly rest →
        ∃ why, fillNodes l (depth + 1) (slotScope environment layout value) (node :: more) = .error why := by
      intro s hs hother
      obtain ⟨why, hwhy⟩ := hstop hother
      exact ⟨why, by simp [fillNodes, hs, hwhy, bind, Except.bind]⟩
    cases p with
    | text s =>
      obtain rfl : Node.text s.toList = node := Option.some.inj hp
      refine hlater s.toList (by simp [fillNode]) fun hslots => hother fun name tight hm => ?_
      exact hslots name tight (by simpa using hm)
    | marker name tight =>
      have hname := (isStraight_marker h).1
      cases hslot : Slot.ofName? name with
      | none =>
        obtain ⟨why, hwhy⟩ := fillNode_other environment l depth layout value hname hp hslot
        exact ⟨why, by simp [fillNodes, hwhy, bind, Except.bind]⟩
      | some slot =>
        obtain rfl : slot.name = name := by simpa using List.find?_some hslot
        have hnode : Piece.node? (.marker slot.name tight) = some (nameNode slot.name) :=
          markerNode?_of_plain slot.plainName.no_bool
        obtain rfl : nameNode slot.name = node := Option.some.inj (hnode.symm.trans hp)
        refine hlater _ (fillNode_slot environment l depth layout value slot) fun hslots => hother ?_
        intro other tight' hm
        rcases List.mem_cons.mp hm with heq | hm
        · exact ⟨slot, (Piece.marker.inj heq).1.symm⟩
        · exact hslots other tight' hm

end Filling

/-! ### Templates -/

namespace Template

theorem checkSlots_other {p : Pair} {product support : String} {format : Format}
    {pieces : List Piece} {nodes : List Node} (hsource : p.source format = ⟨none, nodes⟩)
    (hdepth : 0 < p.depth) (h : isStraight pieces = true)
    (hnodes : pieces.mapM Piece.node? = some nodes) (hother : ¬ SlotsOnly pieces) :
    ∃ why, (Template.mk (p.fill []) product support).checkSlots format
      = .error (.failed format none why) := by
  obtain ⟨depth, hd⟩ : ∃ d, p.depth = d + 1 := ⟨p.depth - 1, by omega⟩
  have hlookup : p.library.lookup format.fileName = some ⟨none, nodes⟩ := by
    rw [← hsource]
    cases format <;> rfl
  obtain ⟨why, hwhy⟩ :=
    fillNodes_other [] p.library depth format.fileName Slot.marker h hnodes hother
  simp only [slotScope] at hwhy
  exact ⟨why, by simp [checkSlots, fill, Pair.fill, Layout.fill, hlookup, hd, hwhy, hsource,
    Except.map, bind, Except.bind]⟩

section Pair

variable {html text : List Piece} (hh : isStraight html = true) (ht : isStraight text = true)
  (product support : String)

include hh ht

/-- A pair with a name that cannot be read is refused as it stands. -/
theorem ofSources_unreadable (h : ¬ (HasReadableNames html ∧ HasReadableNames text)) :
    ofSources (String.ofList (sourceOf html)) (String.ofList (sourceOf text)) product support
      = .error .malformed := by
  simp only [ofSources, load, Engine.standard, Pair.ofTexts?, String.toList_ofList,
    Source.ofChars?_straight hh, Source.ofChars?_straight ht]
  cases hhtml : html.mapM Piece.node? with
  | none => rfl
  | some hn =>
    cases htext : text.mapM Piece.node? with
    | none => rfl
    | some tn =>
      exact absurd
        ⟨isSome_mapM_node?.mp (by simp [hhtml]), isSome_mapM_node?.mp (by simp [htext])⟩ h

/-- A pair whose names can be read is checked layout by layout. -/
theorem ofSources_readable (hhtml : HasReadableNames html) (htext : HasReadableNames text) :
    ∃ (hn tn : List Node) (p : Layout.Pair), html.mapM Piece.node? = some hn ∧
      text.mapM Piece.node? = some tn ∧
      p.html = ⟨none, hn⟩ ∧ p.text = ⟨none, tn⟩ ∧ 0 < p.depth ∧
      ofSources (String.ofList (sourceOf html)) (String.ofList (sourceOf text)) product support
        = (Template.mk (p.fill []) product support).checked := by
  obtain ⟨hn, hhn⟩ := Option.isSome_iff_exists.mp (isSome_mapM_node?.mpr hhtml)
  obtain ⟨tn, htn⟩ := Option.isSome_iff_exists.mp (isSome_mapM_node?.mpr htext)
  refine ⟨hn, tn, ⟨⟨none, hn⟩, ⟨none, tn⟩,
    8 * ((sourceOf html).length + (sourceOf text).length) + 64⟩, hhn, htn, rfl, rfl, by simp, ?_⟩
  simp only [ofSources, load, Engine.standard, Pair.ofTexts?, String.toList_ofList,
    Source.ofChars?_straight hh, Source.ofChars?_straight ht, hhn, htn, Option.map_some, basesExist,
    if_true, String.length_ofList]

end Pair

/-- A layout whose names are read and that names something else than slots is not accepted: its
own filling fails. -/
theorem ofSources_other_html {html text : List Piece} (hh : isStraight html = true)
    (ht : isStraight text = true) (hhtml : HasReadableNames html) (htext : HasReadableNames text)
    (hother : ¬ SlotsOnly html) (product support : String) :
    ∃ why, ofSources (String.ofList (sourceOf html)) (String.ofList (sourceOf text)) product support
      = .error (.failed .html none why) := by
  obtain ⟨hn, tn, p, hhn, -, hsource, -, hdepth, hload⟩ :=
    ofSources_readable hh ht product support hhtml htext
  obtain ⟨why, hwhy⟩ : ∃ why, (Template.mk (p.fill []) product support).checkSlots .html
      = .error (.failed .html none why) := checkSlots_other hsource hdepth hh hhn hother
  exact ⟨why, by rw [hload, checked, hwhy]; rfl⟩

/-- A pair that names something else than slots is not accepted. -/
theorem ofSources_other {html text : List Piece} (hh : isStraight html = true)
    (ht : isStraight text = true) (hother : ¬ (SlotsOnly html ∧ SlotsOnly text))
    (product support : String) :
    ∃ e, ofSources (String.ofList (sourceOf html)) (String.ofList (sourceOf text)) product support
      = .error e := by
  by_cases hread : HasReadableNames html ∧ HasReadableNames text
  · by_cases hslots : SlotsOnly html
    · obtain ⟨hn, tn, p, -, htn, -, hsource, hdepth, hload⟩ :=
        ofSources_readable hh ht product support hread.1 hread.2
      obtain ⟨why, hwhy⟩ : ∃ why, (Template.mk (p.fill []) product support).checkSlots .text
          = .error (.failed .text none why) :=
        checkSlots_other hsource hdepth ht htn fun htslots => hother ⟨hslots, htslots⟩
      rw [hload, checked, hwhy]
      cases (Template.mk (p.fill []) product support).checkSlots .html with
      | error e => exact ⟨e, rfl⟩
      | ok _ => exact ⟨_, rfl⟩
    · obtain ⟨why, hwhy⟩ := ofSources_other_html hh ht hread.1 hread.2 hslots product support
      exact ⟨_, hwhy⟩
  · exact ⟨_, ofSources_unreadable hh ht product support hread⟩

/-- A pair that is accepted is filled piece by piece, in either format and whatever the values
hold. -/
theorem fill_of_ofSources {html text : List Piece} (hh : isStraight html = true)
    (ht : isStraight text = true) {product support : String} {t : Template}
    (h : ofSources (String.ofList (sourceOf html)) (String.ofList (sourceOf text)) product support
      = .ok t) (value : Slot → String) :
    t.fill .html value = .ok (String.ofList (printedOf value html)) ∧
      t.fill .text value = .ok (String.ofList (printedOf value text)) := by
  have hslots : SlotsOnly html ∧ SlotsOnly text := by
    refine Classical.byContradiction fun hother => ?_
    obtain ⟨e, he⟩ := ofSources_other hh ht hother product support
    rw [h] at he
    simp at he
  obtain ⟨rfl, -, -⟩ := (ofSources_eq_ok_iff hh ht hslots.1 hslots.2).mp h
  exact ⟨fill_ofPieces rfl hslots.1 value, fill_ofPieces rfl hslots.2 value⟩

/-- **What becomes of two straight layouts.** A pair is refused as it stands if a marker holds a
name that cannot be read. Otherwise a name in the HTML layout that is no slot is met when that
layout is filled, before its slots are looked for. No pair with such a name is accepted, all others
are that show their slots, and to fill one that is accepted is to replace its markers. -/
theorem straight_layouts_are_substituted {html text : List Piece} (hh : isStraight html = true)
    (ht : isStraight text = true) {product support : String} {loaded : Except LayoutError Template}
    (hload : ofSources (String.ofList (sourceOf html)) (String.ofList (sourceOf text)) product
      support = loaded) :
    (¬ (HasReadableNames html ∧ HasReadableNames text) → loaded = .error .malformed) ∧
    (HasReadableNames html → HasReadableNames text → ¬ SlotsOnly html →
      ∃ why, loaded = .error (.failed .html none why)) ∧
    (¬ (SlotsOnly html ∧ SlotsOnly text) → ∃ e, loaded = .error e) ∧
    (SlotsOnly html → SlotsOnly text → ShowsSlots .html html → ShowsSlots .text text →
      ∃ t, loaded = .ok t) ∧
    ∀ t, loaded = .ok t → ∀ value : Slot → String,
      t.fill .html value = .ok (String.ofList (printedOf value html)) ∧
        t.fill .text value = .ok (String.ofList (printedOf value text)) := by
  subst hload
  exact ⟨fun h => ofSources_unreadable hh ht product support h,
    fun hhtml htext hother => ofSources_other_html hh ht hhtml htext hother product support,
    fun hother => ofSources_other hh ht hother product support,
    fun hhslots htslots hhshows htshows =>
      ⟨_, ofSources_straight hh ht hhslots htslots hhshows htshows product support⟩,
    fun _ h value => fill_of_ofSources hh ht h value⟩

/-- A pair that holds every slot once is accepted, and a value that looks like a marker is printed
as it is. -/
theorem bareSlots_are_substituted :
    ∃ t, ofSources (String.ofList (sourceOf bareSlots)) (String.ofList (sourceOf bareSlots))
          "SIVACOR" "help@sivacor.org" = .ok t ∧
      t.fill .html (fun slot => if slot = .title then "{{ footer }}" else "")
        = .ok "{{ footer }}" := by
  obtain ⟨-, -, -, haccept, hfill⟩ :=
    straight_layouts_are_substituted isStraight_bareSlots isStraight_bareSlots rfl
  obtain ⟨t, ht⟩ := haccept slotsOnly_bareSlots slotsOnly_bareSlots (showsSlots_bareSlots .html)
    (showsSlots_bareSlots .text)
  exact ⟨t, ht, (hfill t ht _).1⟩

/-- A name that begins with the letters of a truth value is no reserved word, but the layout that
prints it does not get as far as being filled. -/
theorem marker_of_truth_word_is_refused :
    isStraight [.marker "trueish" false] = true ∧ ¬ SlotsOnly [.marker "trueish" false] ∧
      ofSources "{{ trueish }}" "{{ title }}" "SIVACOR" "help@sivacor.org"
        = .error .malformed := by
  have hunreadable : ¬ HasReadableNames [.marker "trueish" false] := by
    intro h
    obtain ⟨c, u, hcu, -⟩ :=
      h "trueish" false (by simp) "true" (by decide) "ish".toList (by decide)
    exact absurd hcu (by simp)
  have hother : ¬ SlotsOnly [.marker "trueish" false] := by
    intro h
    obtain ⟨slot, hslot⟩ := h "trueish" false (by simp)
    revert hslot
    cases slot <;> decide
  have hstraight : isStraight [.marker "trueish" false] = true := by decide
  have htext : isStraight [.slot .title] = true := by decide
  exact ⟨hstraight, hother,
    ofSources_unreadable hstraight htext "SIVACOR" "help@sivacor.org" fun h => hunreadable h.1⟩

end Template

end JobNotice.Layout
