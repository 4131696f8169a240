import JobNotice.Proofs.Layout.Name

/-!
# Names that begin with a truth value

Expressions take the letters of a truth value off whatever follows them, so a name that begins with
these letters is never read as a name. Behind the truth value there stands the rest of the name.
Nothing of the grammar goes on there, with one exception: letters `in` ask whether the truth value
is within something, and if a name is left behind them too, that is what the marker prints. In all
other cases the tag does not close where it should and the layout is refused.

So what a marker is read as depends on its name alone, and `Layout.markerNode?` tells it for every
name that is not reserved.

## Main definitions

* `Layout.markerNode?` — the tag of a marker, if there is one
* `Layout.IsReadable` — the names for which there is one
* `Layout.ReadsAs` — words that are read as a truth value

## Main results

* `Layout.readPrint_marker_eq` — markers are read as `markerNode?` tells
-/

namespace JobNotice.Layout

/-- The tag that asks whether a truth value is within what a name stands for. -/
def memberNode (b : Term) (name : List Char) : Node :=
  .print ⟨false, false⟩
    (.ofTerm (.membership false (.ofTerm b) (.ofTerm (.path (String.ofList name)))))

/-- What a marker is read as. A name that begins with a truth value is none, and is refused unless
what is left of it is `in` and a name. -/
def markerNode? (name : String) : Option Node :=
  match readBool name.toList with
  | none => some (nameNode name)
  | some (b, r) =>
    match readLit "in".toList r with
    | none => none
    | some u => if u.head?.any isNameStart then some (memberNode b u) else none

/-- Letters `in` and a name. -/
def IsWithin (t : List Char) : Prop := ∃ c u, t = 'i' :: 'n' :: c :: u ∧ isNameStart c = true

/-- A name that a marker may hold: behind a truth value there stand letters `in` and a name. -/
def IsReadable (name : String) : Prop :=
  ∀ w ∈ boolWords, ∀ t, name.toList = w.toList ++ t → IsWithin t

/-! ### Words within what surrounds them -/

theorem NameTail.append {u r : List Char} (hu : ∀ c ∈ u, isNameChar c = true) (hr : NameTail r) :
    NameTail (u ++ r) := by
  obtain ⟨v, s, hv, hs, rfl⟩ := hr
  refine ⟨u ++ v, s, fun c hc => ?_, hs, by simp⟩
  rcases List.mem_append.mp hc with hc | hc
  · exact hu c hc
  · exact hv c hc

/-- Behind a word that a blank has to follow, the marker ends. -/
theorem readWord_append {lit t s r : List Char} (hlit : ∀ c ∈ lit, isNameChar c = true)
    (ht : ∀ c ∈ t, isNameChar c = true) (hs : ClosesTag s) (h : readWord lit (t ++ s) = some r) :
    ∃ v, r = '}' :: '}' :: v := by
  rw [readWord] at h
  split at h
  · next c v hv =>
    split at h
    · next hblank =>
      obtain rfl := Option.some.inj h
      obtain ⟨u, hu, hr⟩ := prefix_of_append_eq hlit hs (readLit_eq_some.mp hv)
      cases u with
      | nil =>
        obtain ⟨w, rfl | rfl⟩ := hs
        · -- the blank would be a brace
          obtain ⟨rfl, -⟩ : c = '}' ∧ v = '}' :: w := by simpa using hr
          simp [isSpace] at hblank
        · exact ⟨w, (List.cons.inj hr).2⟩
      | cons d u =>
        obtain ⟨rfl, -⟩ := List.cons.inj hr
        have hd : isNameChar c = true := ht c (by simp [hu])
        simp [not_isSpace_of_isNameChar hd] at hblank
    · simp at h
  · simp at h

theorem skipSpace_of_isNameChar {t s : List Char} (hne : t ≠ [])
    (ht : ∀ c ∈ t, isNameChar c = true) : skipSpace (t ++ s) = t ++ s := by
  cases t with
  | nil => exact absurd rfl hne
  | cons c t => simp [skipSpace, not_isSpace_of_isNameChar (ht c (by simp))]

theorem readPath_eq_none {s : List Char} (h : s.head?.any isNameStart = false) (fuel : Nat) :
    readPath fuel s = none := by
  have hident : readIdent s = none := by
    cases s with
    | nil => rfl
    | cons c s => simpa [readIdent] using h
  cases fuel <;> simp [readPath, hident]

/-! ### Nothing begins with a brace -/

section Brace

variable (v : List Char)

theorem nameTail_brace : NameTail ('}' :: '}' :: v) :=
  ClosesTag.nameTail ⟨v, Or.inl rfl⟩

theorem readOperand_brace (fuel : Nat) : readOperand fuel ('}' :: '}' :: v) = none := by
  have hpath : ∀ f, readPath f ('}' :: '}' :: v) = none := readPath_eq_none rfl
  have htest : ∀ f, readTest f ('}' :: '}' :: v) = none := by
    intro f
    cases f <;> simp [readTest, hpath]
  have hint : readInt ('}' :: '}' :: v) = none := by
    simp [readInt, (nameTail_brace v).readSign, readWholeDigits]
  have hfactor : ∀ f, readFactor f ('}' :: '}' :: v) = none := by
    intro f
    cases f <;> simp [readFactor, readLit, readBool, htest, (nameTail_brace v).readCall, hpath,
      (nameTail_brace v).readReal, hint]
  have harithmetic : ∀ f, readArithmetic f ('}' :: '}' :: v) = none := by
    intro f
    cases f <;> simp [readArithmetic, hfactor]
  cases fuel <;> simp [readOperand, harithmetic]

theorem readCondition_brace (fuel : Nat) : readCondition fuel ('}' :: '}' :: v) = none := by
  have hmember : ∀ f, readMembership f ('}' :: '}' :: v) = none := by
    intro f
    cases f <;> simp [readMembership, (nameTail_brace v).readText, readOperand_brace]
  have hsum : ∀ f, readSum f ('}' :: '}' :: v) = none := by
    intro f
    cases f <;> simp [readSum, readOperand_brace]
  have hcompare : ∀ f, readComparisonExpr f ('}' :: '}' :: v) = none := by
    intro f
    cases f <;> simp [readComparisonExpr, (nameTail_brace v).readText, hsum]
  cases fuel <;> simp [readCondition, readWord, readLit, hmember, hcompare]

end Brace

/-- No connective goes on with the rest of a name, not even one that is a connective. -/
theorem readConditions_append {t s : List Char} (hne : t ≠ [])
    (ht : ∀ c ∈ t, isNameChar c = true) (hs : ClosesTag s) (fuel : Nat) :
    readConditions fuel (t ++ s) = ([], t ++ s) := by
  cases fuel with
  | zero => simp [readConditions]
  | succ fuel =>
    cases h : readConnective (t ++ s) with
    | none => simp [readConditions, h]
    | some p =>
      obtain ⟨op, r⟩ := p
      obtain ⟨v, rfl⟩ : ∃ v, r = '}' :: '}' :: v := by
        rw [readConnective, skipSpace_of_isNameChar hne ht] at h
        cases hor : readWord ['o', 'r'] (t ++ s) with
        | some u =>
          obtain ⟨v, rfl⟩ := readWord_append (List.all_eq_true.mp (by decide)) ht hs hor
          obtain ⟨-, rfl⟩ : Connective.or = op ∧ '}' :: '}' :: v = r := by simpa [hor] using h
          exact ⟨v, rfl⟩
        | none =>
          cases hand : readWord ['a', 'n', 'd'] (t ++ s) with
          | some u =>
            obtain ⟨v, rfl⟩ := readWord_append (List.all_eq_true.mp (by decide)) ht hs hand
            obtain ⟨-, rfl⟩ : Connective.and = op ∧ '}' :: '}' :: v = r := by
              simpa [hor, hand] using h
            exact ⟨v, rfl⟩
          | none => simp [hor, hand] at h
      have hskip : skipSpace ('}' :: '}' :: v) = '}' :: '}' :: v := rfl
      simp [readConditions, h, hskip, readCondition_brace]

/-! ### Truth values -/

/-- A word that is read as a truth value, whatever follows it. -/
structure ReadsAs (w : List Char) (b : Bool) : Prop where
  chars : ∀ c ∈ w, isNameChar c = true
  readBool : ∀ r, readBool (w ++ r) = some (.bool b, r)
  readWord_not : ∀ r, readWord "not".toList (w ++ r) = none

theorem exists_readsAs {w : String} (hw : w ∈ boolWords) : ∃ b, ReadsAs w.toList b := by
  simp only [boolWords, List.mem_cons, List.not_mem_nil, or_false] at hw
  rcases hw with rfl | rfl | rfl | rfl <;>
    exact ⟨_, List.all_eq_true.mp (by decide), fun r => rfl, fun r => rfl⟩

/-- A name begins with a truth value or not. -/
theorem readsAs_or (name : List Char) :
    (∀ w ∈ boolWords, ¬ w.toList <+: name) ∨
      ∃ w ∈ boolWords, ∃ b t, ReadsAs w.toList b ∧ name = w.toList ++ t := by
  by_cases h : ∃ w ∈ boolWords, w.toList <+: name
  · obtain ⟨w, hw, t, rfl⟩ := h
    obtain ⟨b, hb⟩ := exists_readsAs hw
    exact Or.inr ⟨w, hw, b, t, hb, rfl⟩
  · exact Or.inl fun w hw hp => h ⟨w, hw, hp⟩

section Truth

variable {w r t s : List Char} {b : Bool}

theorem ReadsAs.readOperand (hw : ReadsAs w b) (hr : NameTail r) (fuel : Nat) :
    readOperand (fuel + 3) (w ++ r) = some (.ofTerm (.bool b), r) := by
  have hparen : readLit ['('] (w ++ r) = none :=
    (hr.append hw.chars).readLit (by decide) (by decide) (by decide) []
  have hfactor : readFactor (fuel + 1) (w ++ r) = some (.bool b, r) := by
    simp [readFactor, hparen, hw.readBool]
  simp [Layout.readOperand, readArithmetic, hfactor, hr.readFactors, hr.readFilters, joinMath,
    Expr.ofTerm]

theorem ReadsAs.readComparisonExpr (hw : ReadsAs w b) (hr : NameTail r) (fuel : Nat) :
    readComparisonExpr (fuel + 5) (w ++ r) = some (.ofTerm (.bool b), r) := by
  simp [Layout.readComparisonExpr, (hr.append hw.chars).readText, readSum, hw.readOperand hr,
    hr.readOperands, joinMath, hr.readComparison]

/-- Letters `in` and a name ask whether the truth value is within what the name stands for. -/
theorem ReadsAs.readMembership_name (hw : ReadsAs w b) {u : List Char} (hu : IsName u)
    (hs : ClosesTag s) (fuel : Nat) :
    readMembership (fuel + 4) (w ++ ('i' :: 'n' :: (u ++ s)))
      = some (.ofTerm (.membership false (.ofTerm (.bool b))
          (.ofTerm (.path (String.ofList u)))), s) := by
  have htail : NameTail ('i' :: 'n' :: (u ++ s)) :=
    (hu.nameTail hs).append (u := ['i', 'n']) (List.all_eq_true.mp (by decide))
  have hskip : skipSpace ('i' :: 'n' :: (u ++ s)) = 'i' :: 'n' :: (u ++ s) := rfl
  have hnot : readWord "not".toList ('i' :: 'n' :: (u ++ s)) = none := rfl
  have hin : readSym ['i', 'n'] ('i' :: 'n' :: (u ++ s)) = some (u ++ s) := rfl
  simp only [Layout.readMembership, (htail.append hw.chars).readText, hw.readOperand htail,
    Option.orElse_none, Option.bind_eq_bind, Option.bind_some, hskip]
  rw [hnot]
  simp [hin, hu.skipSpace, (hu.nameTail hs).readText, (hu.nameTail hs).readArray, hu.readPath hs]

/-- Nothing else that may be left of a name does so. -/
theorem ReadsAs.readMembership_eq_none (hw : ReadsAs w b) (hne : t ≠ [])
    (ht : ∀ c ∈ t, isNameChar c = true) (hs : ClosesTag s) (hin : ¬ IsWithin t) (fuel : Nat) :
    readMembership (fuel + 4) (w ++ (t ++ s)) = none := by
  have htail : NameTail (t ++ s) := ⟨t, s, ht, hs, rfl⟩
  simp only [Layout.readMembership, (htail.append hw.chars).readText, hw.readOperand htail,
    Option.orElse_none, Option.bind_eq_bind, Option.bind_some, skipSpace_of_isNameChar hne ht]
  cases hnot : readWord "not".toList (t ++ s) with
  | some r =>
    obtain ⟨v, rfl⟩ := readWord_append (List.all_eq_true.mp (by decide)) ht hs hnot
    rfl
  | none =>
    cases hword : readLit ['i', 'n'] (t ++ s) with
    | none => simp [readSym, skipSpace_of_isNameChar hne ht, hword]
    | some r =>
      obtain ⟨u, hu, rfl⟩ := prefix_of_append_eq (List.all_eq_true.mp (by decide)) hs
        (readLit_eq_some.mp hword)
      have huchars : ∀ c ∈ u, isNameChar c = true := fun c hc => ht c (by simp [hu, hc])
      -- what follows is the rest of a name, but not a name
      have hrest : NameTail (skipSpace (u ++ s)) ∧
          (skipSpace (u ++ s)).head?.any isNameStart = false := by
        cases hempty : u with
        | nil =>
          obtain ⟨v, hv⟩ := hs.skipSpace
          rw [List.nil_append, hv]
          exact ⟨nameTail_brace v, rfl⟩
        | cons c u' =>
          rw [← hempty, skipSpace_of_isNameChar (by simp [hempty]) huchars]
          have hc : isNameStart c = false := by
            simpa using fun hc => hin ⟨c, u', by simp [hu, hempty], hc⟩
          exact ⟨⟨u, s, huchars, hs, rfl⟩, by simp [hempty, hc]⟩
      simp [readSym, skipSpace_of_isNameChar hne ht, hword, hrest.1.readText, hrest.1.readArray,
        readPath_eq_none hrest.2]

/-- Behind a truth value the expression ends, unless it goes on with `in` and a name. -/
theorem ReadsAs.readLogic (hw : ReadsAs w b) (hne : t ≠ []) (ht : ∀ c ∈ t, isNameChar c = true)
    (hs : ClosesTag s) (hin : ¬ IsWithin t) (fuel : Nat) :
    readLogic (fuel + 7) (w ++ (t ++ s)) = some (.ofTerm (.bool b), t ++ s) := by
  have htail : NameTail (t ++ s) := ⟨t, s, ht, hs, rfl⟩
  have hcondition : readCondition (fuel + 6) (w ++ (t ++ s))
      = some (.ofTerm (.bool b), t ++ s) := by
    simp only [readCondition, hw.readWord_not, hw.readMembership_eq_none hne ht hs hin,
      hw.readComparisonExpr htail]
    rfl
  simp [Layout.readLogic, hcondition, readConditions_append hne ht hs, joinLogic]

theorem ReadsAs.readLogic_name (hw : ReadsAs w b) {u : List Char} (hu : IsName u)
    (hs : ClosesTag s) (fuel : Nat) :
    Layout.readLogic (fuel + 6) (w ++ ('i' :: 'n' :: (u ++ s)))
      = some (.ofTerm (.membership false (.ofTerm (.bool b))
          (.ofTerm (.path (String.ofList u)))), s) := by
  have hcondition : readCondition (fuel + 5) (w ++ ('i' :: 'n' :: (u ++ s)))
      = some (.ofTerm (.membership false (.ofTerm (.bool b))
          (.ofTerm (.path (String.ofList u)))), s) := by
    simp only [readCondition, hw.readWord_not, hw.readMembership_name hu hs]
    rfl
  simp [Layout.readLogic, hcondition, hs.readConditions, joinLogic]

end Truth

/-! ### The tags of names -/

theorem markerNode?_of_plain {name : String}
    (h : ∀ w ∈ boolWords, ¬ w.toList <+: name.toList) :
    markerNode? name = some (nameNode name) := by
  rw [markerNode?, readBool_eq_none h]

theorem markerNode?_within {name : String} {w u : List Char} {b : Bool} {c : Char}
    (hw : ReadsAs w b) (hname : name.toList = w ++ 'i' :: 'n' :: c :: u)
    (hc : isNameStart c = true) : markerNode? name = some (memberNode (.bool b) (c :: u)) := by
  simp [markerNode?, hname, hw.readBool, readLit, hc]

theorem markerNode?_eq_none {name : String} {w t : List Char} {b : Bool} (hw : ReadsAs w b)
    (hname : name.toList = w ++ t) (hin : ¬ IsWithin t) : markerNode? name = none := by
  simp only [markerNode?, hname, hw.readBool]
  split
  · rfl
  · next u hu =>
    obtain rfl := readLit_eq_some.mp hu
    have hstart : u.head?.any isNameStart = false := by
      cases u with
      | nil => rfl
      | cons c u => simpa using fun hc => hin ⟨c, u, rfl, hc⟩
    simp [hstart]

/-- A tag prints what the name stands for, or asks whether a truth value is within what a part of
the name stands for. -/
theorem markerNode?_cases {name : String} {node : Node} (h : markerNode? name = some node) :
    node = nameNode name ∨
      ∃ b u, (∀ c ∈ u, c ∈ name.toList) ∧ node = memberNode (.bool b) u := by
  rcases readsAs_or name.toList with hplain | ⟨w, -, b, t, hw, hname⟩
  · rw [markerNode?_of_plain hplain] at h
    exact Or.inl (Option.some.inj h).symm
  · by_cases hin : IsWithin t
    · obtain ⟨c, u, rfl, hc⟩ := hin
      rw [markerNode?_within hw hname hc] at h
      refine Or.inr ⟨b, c :: u, fun d hd => ?_, (Option.some.inj h).symm⟩
      rw [hname]
      exact List.mem_append_right _ (List.mem_cons_of_mem _ (List.mem_cons_of_mem _ hd))
    · rw [markerNode?_eq_none hw hname hin] at h
      simp at h

/-- **A marker has a tag if and only if it may hold its name.** -/
theorem isSome_markerNode? {name : String} :
    (markerNode? name).isSome = true ↔ IsReadable name := by
  rcases readsAs_or name.toList with hplain | ⟨w, hmem, b, t, hw, hname⟩
  · rw [markerNode?_of_plain hplain]
    exact ⟨fun _ w hw t ht => absurd ⟨t, ht.symm⟩ (hplain w hw), fun _ => rfl⟩
  · have honly : IsReadable name ↔ IsWithin t := by
      refine ⟨fun h => h w hmem t hname, fun h v hv r hr => ?_⟩
      -- no two truth values begin the same name
      obtain ⟨d, hd⟩ := exists_readsAs hv
      have hsame : some (Term.bool b, t) = some (Term.bool d, r) := by
        rw [← hw.readBool, ← hd.readBool, ← hname, ← hr]
      obtain ⟨-, rfl⟩ := Prod.mk.inj (Option.some.inj hsame)
      exact h
    rw [honly]
    by_cases hin : IsWithin t
    · obtain ⟨c, u, rfl, hc⟩ := hin
      simp [markerNode?_within hw hname hc, IsWithin, hc]
    · simp [markerNode?_eq_none hw hname hin, hin]

/-! ### Markers -/

theorem isName_of_isMarkerName {name : String} (h : isMarkerName name = true) :
    IsName name.toList := by
  simp only [isMarkerName, Bool.and_eq_true, List.all_eq_true] at h
  obtain ⟨⟨hstart, hchars⟩, -⟩ := h
  refine ⟨?_, hchars⟩
  cases hname : name.toList with
  | nil => simp [hname] at hstart
  | cons c r => exact ⟨c, r, rfl, by simpa [hname] using hstart⟩

theorem ne_of_isMarkerName {name word : String} (h : isMarkerName name = true)
    (hw : word ∈ reservedNames) : name ≠ word := by
  rintro rfl
  simp [isMarkerName, hw] at h

/-- A marker whose name is a truth value, letters `in` and a name asks for membership. -/
theorem readPrint_member {name : String} {w u : List Char} {b : Bool} (hname : IsName name.toList)
    (hw : ReadsAs w b) (hu : IsName u) (hsplit : name.toList = w ++ 'i' :: 'n' :: u) (tight : Bool)
    (rest : List Char) :
    readPrint ((Piece.marker name tight).source ++ rest) = some (memberNode (.bool b) u, rest) := by
  have hfuel : ∀ k, stepsFor k = (stepsFor k - 6) + 6 := fun k => by simp only [stepsFor]; omega
  rw [readPrint_marker hname, hsplit, List.append_assoc, readValue, hfuel]
  simp only [List.cons_append, hw.readLogic_name hu (closesTag_closing tight rest)]
  simp [readClosing_closing, memberNode]

/-- A tag that ends where the rest of a name stands does not close. -/
theorem readClosing_eq_none {t s : List Char} (hne : t ≠ []) (ht : ∀ c ∈ t, isNameChar c = true) :
    readClosing '}' (t ++ s) = none := by
  rw [readClosing, skipSpace_of_isNameChar hne ht]
  cases t with
  | nil => exact absurd rfl hne
  | cons c t =>
    have hminus : c ≠ '-' := ne_of_isNameChar (ht c (by simp)) (by decide)
    have hbrace : c ≠ '}' := ne_of_isNameChar (ht c (by simp)) (by decide)
    rw [List.cons_append]
    split
    · next h => exact absurd (List.cons.inj h).1 hminus
    · next h => simp [← (List.cons.inj h).1, hbrace]
    · rfl

/-- Any other marker whose name begins with a truth value is refused. -/
theorem readPrint_eq_none {name : String} {w t : List Char} {b : Bool} (hname : IsName name.toList)
    (hw : ReadsAs w b) (hsplit : name.toList = w ++ t) (hne : t ≠ []) (hin : ¬ IsWithin t)
    (tight : Bool) (rest : List Char) :
    readPrint ((Piece.marker name tight).source ++ rest) = none := by
  have hchars : ∀ c ∈ t, isNameChar c = true := fun c hc => hname.chars c (by simp [hsplit, hc])
  have hfuel : ∀ k, stepsFor k = (stepsFor k - 7) + 7 := fun k => by simp only [stepsFor]; omega
  rw [readPrint_marker hname, hsplit, List.append_assoc, readValue, hfuel,
    hw.readLogic hne hchars (closesTag_closing tight rest) hin]
  simp [readClosing_eq_none hne hchars]

/-- **What a marker is read as depends on its name alone.** -/
theorem readPrint_marker_eq {name : String} (h : isMarkerName name = true) (tight : Bool)
    (rest : List Char) :
    readPrint ((Piece.marker name tight).source ++ rest) = (markerNode? name).map (·, rest) := by
  have hname := isName_of_isMarkerName h
  rcases readsAs_or name.toList with hplain | ⟨w, hmem, b, t, hw, hsplit⟩
  · have hnot : name.toList ≠ "not".toList := fun hn =>
      ne_of_isMarkerName h (by decide) (String.toList_injective hn)
    rw [readPrint_name ⟨hname.start, hname.chars, hplain, hnot⟩, markerNode?_of_plain hplain]
    rfl
  · by_cases hin : IsWithin t
    · obtain ⟨c, u, rfl, hc⟩ := hin
      have hu : IsName (c :: u) :=
        ⟨⟨c, u, rfl, hc⟩, fun d hd => hname.chars d (by
          rw [hsplit]
          exact List.mem_append_right _ (List.mem_cons_of_mem _ (List.mem_cons_of_mem _ hd)))⟩
      rw [readPrint_member hname hw hu hsplit, markerNode?_within hw hsplit hc]
      rfl
    · have hne : t ≠ [] := by
        rintro rfl
        have hreserved : ∀ v ∈ boolWords, v ∈ reservedNames := by decide
        exact ne_of_isMarkerName h (hreserved w hmem)
          (String.toList_injective (by simpa using hsplit))
      rw [readPrint_eq_none hname hw hsplit hne hin, markerNode?_eq_none hw hsplit hin]
      rfl

end JobNotice.Layout
