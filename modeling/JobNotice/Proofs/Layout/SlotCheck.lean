import JobNotice.Proofs.Layout.Straight

/-!
# What the check of the slots finds

A layout is filled with a marker for each slot, and the markers are looked for in what comes out. A
marker is the tag of its slot between two delimiters, and every marker has the same delimiter. So a
text that is the tag of a slot and stands between two markers cannot be told from the marker of that
slot: the first of its neighbours ends with a delimiter and the second one begins with one. This is
the only way to be mistaken. The check finds a slot if and only if the layout prints it or imitates
it, provided that no text holds a delimiter itself.

## Main definitions

* `Layout.Slot.tag` — a marker without its delimiters
* `Layout.Imitates` — layouts with the tag of a slot as a text between markers

## Main results

* `Layout.infix_printedOf_iff` — which slots the check finds
* `Layout.Template.accepted_iff_shown_or_imitated` — which layouts pass, and what is certain of them
-/

namespace JobNotice.Layout

/-! ### Delimiters -/

section Delimiters

variable {d : Char}

/-- What begins with a delimiter does not begin in a text without one. -/
theorem cons_infix_append_iff {needle s r : List Char} (hs : d ∉ s) :
    d :: needle <:+: s ++ r ↔ d :: needle <:+: r := by
  induction s with
  | nil => rfl
  | cons c s ih =>
    obtain ⟨hc, hs⟩ := not_or.mp (fun h => hs (List.mem_cons.mpr h))
    rw [List.cons_append, List.infix_cons_iff, ih hs, List.cons_prefix_cons]
    simp [hc]

/-- Up to their first delimiters, texts are what they begin with. -/
theorem append_prefix_append_iff {s t r : List Char} (hs : d ∉ s) (ht : d ∉ t) :
    s ++ [d] <+: t ++ d :: r ↔ s = t := by
  induction s generalizing t with
  | nil =>
    cases t with
    | nil => simp
    | cons c t =>
      have hc : d ≠ c := fun h => ht (by simp [h])
      simp [hc]
  | cons a s ih =>
    obtain ⟨ha, hs⟩ := not_or.mp (fun h => hs (List.mem_cons.mpr h))
    cases t with
    | nil => simp [Ne.symm ha]
    | cons c t =>
      have ht : d ∉ t := fun h => ht (List.mem_cons_of_mem c h)
      simp [List.cons_prefix_cons, ih hs ht]

end Delimiters

/-! ### Tags -/

/-- The marker of a slot without its delimiters. -/
def Slot.tag (slot : Slot) : String := "slot:" ++ slot.name

theorem Slot.toList_marker (slot : Slot) :
    slot.marker.toList = '\x01' :: (slot.tag.toList ++ ['\x01']) := by
  simp [Slot.marker, Slot.tag]

theorem Slot.not_mem_tag (slot : Slot) : '\x01' ∉ slot.tag.toList := by
  cases slot <;> decide

theorem Slot.tag_injective {slot slot' : Slot} (h : slot.tag.toList = slot'.tag.toList) :
    slot = slot' := by
  revert h
  cases slot <;> cases slot' <;> decide

/-- Whether the tag of a slot stands as a text between two markers. -/
def Imitates (slot : Slot) (pieces : List Piece) : Prop :=
  ∃ name tight name' tight',
    [.marker name tight, .text slot.tag, .marker name' tight'] <:+: pieces

theorem imitates_marker {slot : Slot} {name : String} {tight : Bool} {rest : List Piece} :
    Imitates slot (.marker name tight :: rest) ↔
      (∃ name' tight', [.text slot.tag, .marker name' tight'] <+: rest) ∨ Imitates slot rest := by
  constructor
  · rintro ⟨m, t, name', tight', hi⟩
    rcases List.infix_cons_iff.mp hi with hp | hi
    · exact Or.inl ⟨name', tight', (List.cons_prefix_cons.mp hp).2⟩
    · exact Or.inr ⟨m, t, name', tight', hi⟩
  · rintro (⟨name', tight', hp⟩ | ⟨m, t, name', tight', hi⟩)
    · exact ⟨name, tight, name', tight',
        List.infix_cons_iff.mpr (Or.inl (List.cons_prefix_cons.mpr ⟨rfl, hp⟩))⟩
    · exact ⟨m, t, name', tight', List.infix_cons_iff.mpr (Or.inr hi)⟩

theorem exists_marker_cons {slot : Slot} {name : String} {tight : Bool} {rest : List Piece} :
    (∃ t, Piece.marker slot.name t ∈ Piece.marker name tight :: rest) ↔
      name = slot.name ∨ ∃ t, Piece.marker slot.name t ∈ rest := by
  constructor
  · rintro ⟨t, hm⟩
    rcases List.mem_cons.mp hm with heq | hm
    · exact Or.inl (Piece.marker.inj heq).1.symm
    · exact Or.inr ⟨t, hm⟩
  · rintro (rfl | ⟨t, hm⟩)
    · exact ⟨tight, List.mem_cons_self ..⟩
    · exact ⟨t, List.mem_cons_of_mem _ hm⟩

/-- No text of a layout holds a delimiter. -/
def NoDelimiter (pieces : List Piece) : Prop := ∀ s, Piece.text s ∈ pieces → '\x01' ∉ s.toList

theorem NoDelimiter.tail {p : Piece} {pieces : List Piece} (h : NoDelimiter (p :: pieces)) :
    NoDelimiter pieces :=
  fun s hm => h s (List.mem_cons_of_mem p hm)

/-! ### What the check finds -/

theorem printed_marker (slot : Slot) (tight : Bool) :
    Piece.printed Slot.marker (.marker slot.name tight)
      = '\x01' :: (slot.tag.toList ++ ['\x01']) := by
  simp [Piece.printed, Slot.ofName?_name, Slot.toList_marker]

/-- Behind a delimiter, a tag and another delimiter come from a text and a marker. -/
theorem tag_prefix_printedOf_iff {pieces : List Piece} (h : isStraight pieces = true)
    (hslots : SlotsOnly pieces) (htext : NoDelimiter pieces) (slot : Slot) :
    slot.tag.toList ++ ['\x01'] <+: printedOf Slot.marker pieces ↔
      ∃ name tight, [.text slot.tag, .marker name tight] <+: pieces := by
  match pieces with
  | [] => simp [printedOf]
  | .marker name tight :: rest =>
    obtain ⟨shown, rfl⟩ := hslots name tight (by simp)
    have htag : ¬ slot.tag.toList ++ ['\x01'] <+:
        '\x01' :: (shown.tag.toList ++ ['\x01'] ++ printedOf Slot.marker rest) := by
      cases slot <;> simp [Slot.tag, List.cons_prefix_cons]
    simpa [printedOf, printed_marker, List.cons_prefix_cons] using htag
  | [.text s] =>
    have hs : '\x01' ∉ s.toList := htext s (by simp)
    have htag : ¬ slot.tag.toList ++ ['\x01'] <+: s.toList := fun hp => hs (hp.subset (by simp))
    simpa [printedOf, Piece.printed, List.cons_prefix_cons] using htag
  | .text s :: .text _ :: _ => simp [isStraight] at h
  | .text s :: .marker name tight :: rest =>
    obtain ⟨shown, rfl⟩ := hslots name tight (by simp)
    have hs : '\x01' ∉ s.toList := htext s (by simp)
    have hprinted : printedOf Slot.marker (.text s :: .marker shown.name tight :: rest)
        = s.toList ++ '\x01' :: (shown.tag.toList ++ ['\x01'] ++ printedOf Slot.marker rest) := by
      simp [printedOf, Piece.printed, Slot.ofName?_name, Slot.toList_marker]
    rw [hprinted, append_prefix_append_iff slot.not_mem_tag hs]
    constructor
    · intro heq
      exact ⟨shown.name, tight, by simp [List.cons_prefix_cons, String.toList_injective heq]⟩
    · rintro ⟨_, _, hp⟩
      simp only [List.cons_prefix_cons, Piece.text.injEq] at hp
      rw [hp.1]

/-- **The check finds a slot if and only if the layout prints it or imitates it.** -/
theorem infix_printedOf_iff {pieces : List Piece} (h : isStraight pieces = true)
    (hslots : SlotsOnly pieces) (htext : NoDelimiter pieces) (slot : Slot) :
    slot.marker.toList <:+: printedOf Slot.marker pieces ↔
      (∃ tight, Piece.marker slot.name tight ∈ pieces) ∨ Imitates slot pieces := by
  induction pieces with
  | nil => simp [printedOf, Slot.toList_marker, Imitates]
  | cons p rest ih =>
    have ih := ih (isStraight_tail h) hslots.tail htext.tail
    rw [Slot.toList_marker] at ih ⊢
    cases p with
    | text s =>
      have hprinted : printedOf Slot.marker (.text s :: rest)
          = s.toList ++ printedOf Slot.marker rest := by simp [printedOf, Piece.printed]
      rw [hprinted, cons_infix_append_iff (htext s (by simp)), ih]
      simp [Imitates, List.infix_cons_iff, List.cons_prefix_cons]
    | marker name tight =>
      obtain ⟨shown, rfl⟩ := hslots name tight (by simp)
      have hprinted : printedOf Slot.marker (.marker shown.name tight :: rest)
          = '\x01' :: (shown.tag.toList ++ '\x01' :: printedOf Slot.marker rest) := by
        simp [printedOf, Piece.printed, Slot.ofName?_name, Slot.toList_marker]
      have hsame : shown.name = slot.name ↔ slot.tag.toList = shown.tag.toList :=
        ⟨fun heq => by simp [Slot.tag, heq], fun heq => by rw [Slot.tag_injective heq]⟩
      -- the marker itself, or what its second delimiter opens, or something further on
      rw [hprinted, List.infix_cons_iff, List.cons_prefix_cons,
        append_prefix_append_iff slot.not_mem_tag shown.not_mem_tag,
        cons_infix_append_iff shown.not_mem_tag, List.infix_cons_iff, List.cons_prefix_cons,
        tag_prefix_printedOf_iff (isStraight_tail h) hslots.tail htext.tail, ih, ← hsame,
        exists_marker_cons, imitates_marker]
      simp only [true_and, or_assoc, or_left_comm]

namespace Template

/-! ### Layouts that pass -/

theorem missingSlot?_eq_none_iff {format : Format} {filled : String} :
    missingSlot? format filled = none ↔
      ∀ slot : Slot, slot.requiredIn format = true → slot.marker.toList <:+: filled.toList := by
  have hall : ∀ slot : Slot, slot ∈ Slot.all := by
    intro slot
    cases slot <;> decide
  simp [missingSlot?, hall, ← Text.isInfix_iff]

/-- Every slot that a format requires is printed or imitated. -/
def ShowsOrImitates (format : Format) (pieces : List Piece) : Prop :=
  ∀ slot : Slot, slot.requiredIn format = true →
    (∃ tight, Piece.marker slot.name tight ∈ pieces) ∨ Imitates slot pieces

theorem missingSlot?_eq_none_iff_shows {format : Format} {pieces : List Piece}
    (h : isStraight pieces = true) (hslots : SlotsOnly pieces) (htext : NoDelimiter pieces) :
    missingSlot? format (String.ofList (printedOf Slot.marker pieces)) = none ↔
      ShowsOrImitates format pieces := by
  simp only [missingSlot?_eq_none_iff, String.toList_ofList, infix_printedOf_iff h hslots htext,
    ShowsOrImitates]

theorem accepted_iff {html text : List Piece} (hh : isStraight html = true)
    (ht : isStraight text = true) (hhslots : SlotsOnly html) (htslots : SlotsOnly text)
    (hhtext : NoDelimiter html) (httext : NoDelimiter text) (product support : String)
    {t : Template} :
    ofSources (String.ofList (sourceOf html)) (String.ofList (sourceOf text)) product support
        = .ok t ↔
      t = ofPieces html text product support ∧ ShowsOrImitates .html html ∧
        ShowsOrImitates .text text := by
  rw [ofSources_eq_ok_iff hh ht hhslots htslots, missingSlot?_eq_none_iff_shows hh hhslots hhtext,
    missingSlot?_eq_none_iff_shows ht htslots httext]

/-- A slot that a layout has to show and does not imitate is printed, whatever it is filled with. -/
theorem exists_fill_of_shows {html text : List Piece} {product support : String} {format : Format}
    {pieces : List Piece}
    (hsource : (Pair.ofPieces html text).source format = ⟨none, pieces.map Piece.node⟩)
    (hslots : SlotsOnly pieces) (hshows : ShowsOrImitates format pieces) {slot : Slot}
    (hrequired : slot.requiredIn format = true) (hnot : ¬ Imitates slot pieces)
    (value : Slot → String) :
    ∃ out, (ofPieces html text product support).fill format value = .ok out ∧
      (value slot).toList <:+: out.toList := by
  obtain ⟨tight, hm⟩ := (hshows slot hrequired).resolve_right hnot
  exact ⟨_, fill_ofPieces hsource hslots value, by simpa using infix_printedOf hm value⟩

/-- **Which layouts pass, and what is certain of them.** Two straight layouts without delimiters are
accepted if and only if they print or imitate every slot that they have to show. A slot that an
accepted layout has to show and does not imitate is really printed, whatever it is filled with. -/
theorem accepted_iff_shown_or_imitated {html text : List Piece} (hh : isStraight html = true)
    (ht : isStraight text = true) (hhslots : SlotsOnly html) (htslots : SlotsOnly text)
    (hhtext : NoDelimiter html) (httext : NoDelimiter text) {product support : String}
    {loaded : Except LayoutError Template}
    (hload : ofSources (String.ofList (sourceOf html)) (String.ofList (sourceOf text)) product
      support = loaded) :
    ((∃ t, loaded = .ok t) ↔ ShowsOrImitates .html html ∧ ShowsOrImitates .text text) ∧
    ∀ t, loaded = .ok t → ∀ (slot : Slot) (value : Slot → String),
      (slot.requiredIn .html = true → ¬ Imitates slot html →
        ∃ out, t.fill .html value = .ok out ∧ (value slot).toList <:+: out.toList) ∧
      (slot.requiredIn .text = true → ¬ Imitates slot text →
        ∃ out, t.fill .text value = .ok out ∧ (value slot).toList <:+: out.toList) := by
  subst hload
  have haccepted := fun t =>
    accepted_iff hh ht hhslots htslots hhtext httext product support (t := t)
  refine ⟨⟨fun ⟨t, h⟩ => ((haccepted t).mp h).2, fun h => ⟨_, (haccepted _).mpr ⟨rfl, h⟩⟩⟩, ?_⟩
  intro t h slot value
  obtain ⟨rfl, hhshows, htshows⟩ := (haccepted t).mp h
  exact ⟨fun hrequired hnot => exists_fill_of_shows rfl hhslots hhshows hrequired hnot value,
    fun hrequired hnot => exists_fill_of_shows rfl htslots htshows hrequired hnot value⟩

/-- A layout of slots alone imitates none of them, so it is certain that the logo is printed. -/
theorem bareSlots_print_logo :
    ∃ t, ofSources (String.ofList (sourceOf bareSlots)) (String.ofList (sourceOf bareSlots))
          "SIVACOR" "help@sivacor.org" = .ok t ∧
      ∃ out, t.fill .html (fun slot => if slot = .logo then "LOGO" else "") = .ok out ∧
        "LOGO".toList <:+: out.toList := by
  have hno : ∀ s, Piece.text s ∉ bareSlots := by simp [bareSlots, Piece.slot]
  have htext : NoDelimiter bareSlots := fun s hm => absurd hm (hno s)
  have hnot : ¬ Imitates .logo bareSlots := by
    rintro ⟨name, tight, name', tight', hi⟩
    exact hno Slot.logo.tag (hi.subset (by simp))
  have hshows : ∀ format, ShowsOrImitates format bareSlots := fun format slot hrequired =>
    Or.inl (showsSlots_bareSlots format slot hrequired)
  obtain ⟨haccept, hprint⟩ := accepted_iff_shown_or_imitated isStraight_bareSlots
    isStraight_bareSlots slotsOnly_bareSlots slotsOnly_bareSlots htext htext rfl
  obtain ⟨t, ht⟩ := haccept.mpr ⟨hshows .html, hshows .text⟩
  exact ⟨t, ht, (hprint t ht .logo _).1 (by decide) hnot⟩

/-- A layout in which the tag of the logo stands in the place of its marker. -/
def logoAsText : List Piece :=
  [.slot .title, .text "slot:logo", .slot .statusBanner, .slot .greeting, .slot .jobDetails,
    .slot .stages, .slot .branchContent, .slot .action, .slot .footer]

/-- It passes, although it never prints the logo. -/
theorem logoAsText_is_accepted :
    (∀ tight, Piece.marker "logo" tight ∉ logoAsText) ∧
    ∃ t, ofSources (String.ofList (sourceOf logoAsText)) (String.ofList (sourceOf bareSlots))
          "SIVACOR" "help@sivacor.org" = .ok t ∧
      t.fill .html (fun slot => if slot = .logo then "LOGO" else "") = .ok "slot:logo" := by
  have hstraight : isStraight logoAsText = true := by decide
  have hslots : SlotsOnly logoAsText := by
    intro name tight hm
    simp only [logoAsText, Piece.slot, List.mem_cons, List.not_mem_nil, or_false,
      Piece.marker.injEq, reduceCtorEq, false_or] at hm
    rcases hm with h | h | h | h | h | h | h | h <;> exact ⟨_, h.1.symm⟩
  have hhtext : NoDelimiter logoAsText := by
    intro s hm
    obtain rfl : s = "slot:logo" := by simpa [logoAsText, Piece.slot] using hm
    decide
  have hbare : NoDelimiter bareSlots := fun s hm => by simp [bareSlots, Piece.slot] at hm
  have hshows : ShowsOrImitates .html logoAsText := by
    intro slot _
    by_cases hlogo : slot = .logo
    · subst hlogo
      exact Or.inr ⟨"title", false, "status_banner", false, [], _, rfl⟩
    · exact Or.inl ⟨false, by revert hlogo; cases slot <;> decide⟩
  have hload := (accepted_iff hstraight isStraight_bareSlots hslots slotsOnly_bareSlots hhtext hbare
    "SIVACOR" "help@sivacor.org").mpr
      ⟨rfl, hshows, fun slot hrequired => Or.inl (showsSlots_bareSlots .text slot hrequired)⟩
  refine ⟨by intro tight; cases tight <;> decide, _, hload, ?_⟩
  exact fill_ofPieces rfl hslots _

end Template

end JobNotice.Layout
