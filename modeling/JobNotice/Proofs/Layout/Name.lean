import JobNotice.Layout.Straight

/-!
# Names between braces

The grammar of expressions tries many readings at every place, and a bare name is the last but two
of them. Here every other reading is shown to fail on a name that the closing of a tag follows, so
that such a tag prints what the name stands for.

Most readings fail for a reason that has nothing to do with the name as a whole. They look for a
mark that stands neither in a name nor at its end, and they would not find it behind any part of the
name either. So they are treated at a place from which the rest of a name is to be read.

Two families of names are not covered, and cannot be: names that begin with the letters of a truth
value, which the grammar takes off by their letters alone, and the name `not`.

## Main definitions

* `Layout.ClosesTag` — what follows the name in a marker
* `Layout.NameTail` — the rest of a name and what follows it
* `Layout.IsName` — names
* `Layout.PlainName` — the names that are read as names

## Main results

* `Layout.NameTail.readText` — no text stands in a name
* `Layout.readLogic_name` — an expression that is a name and nothing else
* `Layout.readPrint_name` — the tag that prints it
-/

namespace JobNotice.Layout

/-! ### What surrounds a name -/

/-- What follows the name in a marker: two closing braces, after a blank or at once. -/
def ClosesTag (s : List Char) : Prop := ∃ r, s = '}' :: '}' :: r ∨ s = ' ' :: '}' :: '}' :: r

/-- The rest of a name, of which there may be none, and what follows it. -/
def NameTail (r : List Char) : Prop :=
  ∃ u s, (∀ c ∈ u, isNameChar c = true) ∧ ClosesTag s ∧ r = u ++ s

/-- The words that are read as truth values, whatever letters follow them. -/
def boolWords : List String := ["true", "True", "false", "False"]

/-- A name. -/
structure IsName (name : List Char) : Prop where
  start : ∃ c r, name = c :: r ∧ isNameStart c = true
  chars : ∀ c ∈ name, isNameChar c = true

/-- A name that no other reading of an expression takes. -/
structure PlainName (name : List Char) : Prop where
  start : ∃ c r, name = c :: r ∧ isNameStart c = true
  chars : ∀ c ∈ name, isNameChar c = true
  no_bool : ∀ w ∈ boolWords, ¬ w.toList <+: name
  ne_not : name ≠ "not".toList

theorem PlainName.isName {name : List Char} (h : PlainName name) : IsName name :=
  ⟨h.start, h.chars⟩

theorem isNameChar_of_isNameStart {c : Char} (h : isNameStart c = true) : isNameChar c = true := by
  simp only [isNameStart, isNameChar, Char.isAlphanum, Bool.or_eq_true] at h ⊢
  exact h.imp_left Or.inl

/-- No character of a name is one that is not. -/
theorem ne_of_isNameChar {c d : Char} (h : isNameChar c = true) (hd : isNameChar d = false) :
    c ≠ d := by
  rintro rfl
  simp [hd] at h

theorem isNameChar_of_isDigit {c : Char} (h : c.isDigit = true) : isNameChar c = true := by
  simp [isNameChar, Char.isAlphanum, h]

theorem not_isSpace_of_isNameChar {c : Char} (h : isNameChar c = true) : isSpace c = false := by
  simp [isSpace, ne_of_isNameChar h (show isNameChar ' ' = false by decide),
    ne_of_isNameChar h (show isNameChar '\t' = false by decide),
    ne_of_isNameChar h (show isNameChar '\r' = false by decide),
    ne_of_isNameChar h (show isNameChar '\n' = false by decide)]

/-! ### The rest of a name -/

section Closing

variable {s : List Char} (hs : ClosesTag s)

include hs

theorem ClosesTag.nameTail : NameTail s := ⟨[], s, by simp, hs, rfl⟩

theorem ClosesTag.skipSpace : ∃ r, skipSpace s = '}' :: '}' :: r := by
  obtain ⟨r, rfl | rfl⟩ := hs <;> exact ⟨r, rfl⟩

/-- The character after a name is no part of it. -/
theorem ClosesTag.head : ∃ c r, s = c :: r ∧ isNameChar c = false ∧ c ≠ '.' ∧ c ≠ '[' := by
  obtain ⟨r, rfl | rfl⟩ := hs
  · exact ⟨'}', _, rfl, by decide, by decide, by decide⟩
  · exact ⟨' ', _, rfl, by decide, by decide, by decide⟩

/-- Nothing that stands in a name is taken from what follows it. -/
theorem ClosesTag.dropWhile {p : Char → Bool} (hp : ∀ c, p c = true → isNameChar c = true) :
    s.dropWhile p = s := by
  obtain ⟨c, r, rfl, hc, -, -⟩ := hs.head
  have hpc : p c = false := by
    rw [Bool.eq_false_iff]
    intro h
    simp [hp c h] at hc
  simp [hpc]

theorem ClosesTag.readDots (fuel : Nat) : readDots fuel s = ([], s) := by
  obtain ⟨c, r, rfl, -, hc, -⟩ := hs.head
  cases fuel <;> simp [Layout.readDots, hc]

theorem ClosesTag.readPathTail (fuel : Nat) : readPathTail fuel s = ([], s) := by
  have hdots := hs.readDots 1
  obtain ⟨c, r, rfl, -, -, hc⟩ := hs.head
  cases fuel <;> simp [Layout.readPathTail, hdots, hc]

end Closing

/-! Marks that stand neither in a name nor at its end are not found. -/

section Tail

variable {r : List Char} (hr : NameTail r)

include hr

theorem NameTail.head : ∃ c t, r = c :: t ∧
    ∀ d, isNameChar d = false → d ≠ '}' → d ≠ ' ' → c ≠ d := by
  obtain ⟨u, s, hu, ⟨t, hs⟩, rfl⟩ := hr
  cases u with
  | nil =>
    rcases hs with rfl | rfl
    · exact ⟨'}', _, rfl, fun d _ hd _ => hd.symm⟩
    · exact ⟨' ', _, rfl, fun d _ _ hd => hd.symm⟩
  | cons c u => exact ⟨c, u ++ s, rfl, fun d hd _ _ => ne_of_isNameChar (hu c (by simp)) hd⟩

theorem NameTail.skipSpace : ∃ c t, skipSpace r = c :: t ∧
    ∀ d, isNameChar d = false → d ≠ '}' → c ≠ d := by
  obtain ⟨u, s, hu, hs, rfl⟩ := hr
  cases u with
  | nil =>
    obtain ⟨t, ht⟩ := hs.skipSpace
    exact ⟨'}', _, ht, fun d _ hd => hd.symm⟩
  | cons c u =>
    have hc := hu c (by simp)
    refine ⟨c, u ++ s, ?_, fun d hd _ => ne_of_isNameChar hc hd⟩
    simp [Layout.skipSpace, not_isSpace_of_isNameChar hc]

/-- Taking off characters of a name leaves the rest of a name. -/
theorem NameTail.dropWhile {p : Char → Bool} (hp : ∀ c, p c = true → isNameChar c = true) :
    NameTail (r.dropWhile p) := by
  obtain ⟨u, s, hu, hs, rfl⟩ := hr
  rw [List.dropWhile_append]
  split
  · rw [hs.dropWhile hp]
    exact hs.nameTail
  · exact ⟨u.dropWhile p, s, fun c hc => hu c ((List.dropWhile_sublist p).subset hc), hs, rfl⟩

theorem NameTail.readLit {d : Char} (hd : isNameChar d = false) (hbrace : d ≠ '}')
    (hblank : d ≠ ' ') (lit : List Char) : readLit (d :: lit) r = none := by
  obtain ⟨c, t, rfl, hc⟩ := hr.head
  simp [Layout.readLit, hc d hd hbrace hblank]

theorem NameTail.readSym {d : Char} (hd : isNameChar d = false) (hbrace : d ≠ '}')
    (lit : List Char) : readSym (d :: lit) r = none := by
  obtain ⟨c, t, hct, hc⟩ := hr.skipSpace
  simp [Layout.readSym, hct, Layout.readLit, hc d hd hbrace]

theorem NameTail.readMathOp : readMathOp r = none := by
  obtain ⟨c, t, hct, hc⟩ := hr.skipSpace
  simp [Layout.readMathOp, hct, hc '+' (by decide) (by decide), hc '-' (by decide) (by decide),
    hc '*' (by decide) (by decide), hc '/' (by decide) (by decide), hc '%' (by decide) (by decide)]

theorem NameTail.readComparison : readComparison r = none := by
  obtain ⟨c, t, hct, hc⟩ := hr.skipSpace
  simp [Layout.readComparison, hct, hc '<' (by decide) (by decide), hc '>' (by decide) (by decide),
    hc '=' (by decide) (by decide), hc '!' (by decide) (by decide)]

theorem NameTail.readFilters (fuel : Nat) : readFilters fuel r = ([], r) := by
  cases fuel with
  | zero => simp [Layout.readFilters]
  | succ fuel =>
    simp [Layout.readFilters, hr.readSym (show isNameChar '|' = false by decide) (by decide) []]

theorem NameTail.readFactors (fuel : Nat) : readFactors fuel r = ([], r) := by
  cases fuel <;> simp [Layout.readFactors, hr.readMathOp]

theorem NameTail.readOperands (fuel : Nat) : readOperands fuel r = ([], r) := by
  cases fuel <;> simp [Layout.readOperands, hr.readMathOp]

/-- Neither texts nor arrays begin in a name. -/
theorem NameTail.readString : readString r = none := by
  obtain ⟨c, t, rfl, hc⟩ := hr.head
  have hq : c ≠ '"' ∧ c ≠ '\'' ∧ c.toNat ≠ 0x60 := by
    refine ⟨hc _ (by decide) (by decide) (by decide), hc _ (by decide) (by decide) (by decide),
      fun h => ?_⟩
    have : c = Char.ofNat 0x60 := by rw [← h, Char.ofNat_toNat]
    exact hc (Char.ofNat 0x60) (by decide) (by decide) (by decide) this
  simp [Layout.readString, hq]

theorem NameTail.readArray (fuel : Nat) : readArray fuel r = none := by
  cases fuel with
  | zero => simp [Layout.readArray]
  | succ fuel =>
    simp [Layout.readArray,
      hr.readLit (show isNameChar '[' = false by decide) (by decide) (by decide)]

theorem NameTail.readSign : readSign r = (false, r) := by
  obtain ⟨c, t, rfl, hc⟩ := hr.head
  simp [Layout.readSign, hc '-' (by decide) (by decide) (by decide)]

/-- Digits may stand in a name, and leave the rest of it. -/
theorem NameTail.readWholeDigits {ds t : List Char} (h : readWholeDigits r = some (ds, t)) :
    NameTail t := by
  have hdigits := hr.dropWhile (p := Char.isDigit) fun c => isNameChar_of_isDigit
  obtain ⟨u, s, hu, hs, rfl⟩ := hr
  cases u with
  | nil =>
    obtain ⟨v, rfl | rfl⟩ := hs <;> simp [Layout.readWholeDigits] at h
  | cons c u =>
    simp only [Layout.readWholeDigits, List.cons_append] at h
    split at h
    · obtain ⟨-, rfl⟩ : ['0'] = ds ∧ u ++ s = t := by simpa using h
      exact ⟨u, s, fun d hd => hu d (by simp [hd]), hs, rfl⟩
    · split at h
      · obtain ⟨-, rfl⟩ := Prod.mk.inj (Option.some.inj h)
        exact hdigits
      · simp at h

theorem NameTail.readReal : readReal r = none := by
  cases h : Layout.readWholeDigits r with
  | none => simp [Layout.readReal, hr.readSign, h]
  | some p =>
    obtain ⟨ds, t⟩ := p
    obtain ⟨c, u, rfl, hc⟩ := (hr.readWholeDigits h).head
    simp [Layout.readReal, hr.readSign, h, hc '.' (by decide) (by decide) (by decide)]

theorem NameTail.readInt {x : Term} {t : List Char} (h : readInt r = some (x, t)) :
    NameTail t := by
  cases hd : Layout.readWholeDigits r with
  | none => simp [Layout.readInt, hr.readSign, hd] at h
  | some p =>
    obtain ⟨ds, u⟩ := p
    have hu := hr.readWholeDigits hd
    simp only [Layout.readInt, hr.readSign, hd, Option.bind_eq_bind, Option.bind_some,
      Bool.false_eq_true, if_false] at h
    split at h
    · obtain ⟨-, rfl⟩ := Prod.mk.inj (Option.some.inj h)
      exact hu
    · simp at h

/-- A name is taken as a whole. -/
theorem NameTail.readIdent {name : String} {t : List Char} (h : readIdent r = some (name, t)) :
    ClosesTag t := by
  obtain ⟨u, s, hu, hs, rfl⟩ := hr
  have hdrop : (u ++ s).dropWhile isNameChar = s := by
    rw [List.dropWhile_append_of_pos hu, hs.dropWhile fun _ hc => hc]
  cases hus : u ++ s with
  | nil => simp [Layout.readIdent, hus] at h
  | cons c v =>
    rw [hus] at h hdrop
    simp only [Layout.readIdent] at h
    split at h
    · obtain ⟨-, rfl⟩ := Prod.mk.inj (Option.some.inj h)
      rwa [hdrop]
    · simp at h

/-- Nothing is called, as no parenthesis opens behind a name. -/
theorem NameTail.readCall (fuel : Nat) : readCall fuel r = none := by
  cases fuel with
  | zero => simp [Layout.readCall]
  | succ fuel =>
    cases h : Layout.readIdent r with
    | none => simp [Layout.readCall, h]
    | some p =>
      obtain ⟨name, t⟩ := p
      have ht := (hr.readIdent h).nameTail
      simp [Layout.readCall, h, ht.readSym (show isNameChar '(' = false by decide) (by decide) []]

theorem NameTail.readPath {fuel : Nat} {path t : List Char} (h : readPath fuel r = some (path, t)) :
    ClosesTag t := by
  cases fuel with
  | zero => simp [Layout.readPath] at h
  | succ fuel =>
    cases hi : Layout.readIdent r with
    | none => simp [Layout.readPath, hi] at h
    | some p =>
      obtain ⟨name, u⟩ := p
      have hu := hr.readIdent hi
      simp only [Layout.readPath, hi, hu.readDots, hu.readPathTail, Option.some.injEq,
        Prod.mk.injEq] at h
      rwa [← h.2]

theorem NameTail.readConcatPart {fuel : Nat} {x : Term} {t : List Char}
    (h : readConcatPart fuel r = some (x, t)) : NameTail t := by
  cases fuel with
  | zero => simp [Layout.readConcatPart] at h
  | succ fuel =>
    simp only [Layout.readConcatPart, hr.readCall, hr.readReal, hr.readString, Option.map_none,
      Option.orElse_none] at h
    cases hi : Layout.readInt r with
    | some p =>
      obtain ⟨y, u⟩ := p
      obtain ⟨-, rfl⟩ : y = x ∧ u = t := by simpa [hi] using h
      exact hr.readInt hi
    | none =>
      cases hp : Layout.readPath fuel r with
      | none => simp [hi, hp] at h
      | some p =>
        obtain ⟨path, u⟩ := p
        obtain ⟨-, rfl⟩ : Term.path (String.ofList path) = x ∧ u = t := by simpa [hi, hp] using h
        exact (hr.readPath hp).nameTail

/-- **No text stands in a name.** What is read of it is joined to nothing. -/
theorem NameTail.readText (fuel : Nat) : readText fuel r = none := by
  have hconcat : ∀ fuel, readConcat fuel r = none := by
    intro fuel
    cases fuel with
    | zero => simp [readConcat]
    | succ fuel =>
      cases h : Layout.readConcatPart fuel r with
      | none => simp [readConcat, h]
      | some p =>
        obtain ⟨x, t⟩ := p
        have ht := hr.readConcatPart h
        have hparts : readConcatParts fuel t = ([], t) := by
          cases fuel <;>
            simp [readConcatParts,
              ht.readSym (show isNameChar '~' = false by decide) (by decide) []]
        simp [readConcat, h, hparts]
  cases fuel with
  | zero => simp [Layout.readText]
  | succ fuel => simp [Layout.readText, hconcat, hr.readString]

end Tail

/-! ### Literal texts before a name -/

theorem readLit_eq_some {lit s r : List Char} : readLit lit s = some r ↔ s = lit ++ r := by
  induction lit generalizing s with
  | nil => simp [readLit]
  | cons e es ih =>
    cases s with
    | nil => simp [readLit]
    | cons c s => by_cases hc : c = e <;> simp [readLit, hc, ih]

theorem readBool_eq_none {s : List Char} (h : ∀ w ∈ boolWords, ¬ w.toList <+: s) :
    readBool s = none := by
  have hword : ∀ w ∈ boolWords, readLit w.toList s = none := by
    intro w hw
    cases hread : readLit w.toList s with
    | none => rfl
    | some r => exact absurd ⟨r, (readLit_eq_some.mp hread).symm⟩ (h w hw)
  simp only [readBool, hword "true" (by decide), hword "True" (by decide),
    hword "false" (by decide), hword "False" (by decide)]
  rfl

/-- A word at the head of a name and its closing is a word at the head of the name. -/
theorem prefix_of_append_eq {lit name r s : List Char} (hlit : ∀ c ∈ lit, isNameChar c = true)
    (hs : ClosesTag s) (h : name ++ s = lit ++ r) : ∃ t, name = lit ++ t ∧ r = t ++ s := by
  rcases List.append_eq_append_iff.mp h with ⟨t, hl, hr⟩ | ⟨t, hn, hr⟩
  · cases t with
    | nil => exact ⟨[], by simpa using hl.symm, by simpa using hr.symm⟩
    | cons c t =>
      -- the word would go on with the character after the name, which is not of a name
      obtain ⟨d, u, rfl, hd, -, -⟩ := hs.head
      have hcd : d = c := by simpa using congrArg List.head? hr
      have hc : isNameChar c = true := hlit c (by simp [hl])
      rw [← hcd, hd] at hc
      exact absurd hc (by simp)
  · exact ⟨t, hn, hr⟩

/-! ### Names -/

section Name

variable {name s : List Char}

theorem IsName.nameTail (hn : IsName name) (hs : ClosesTag s) : NameTail (name ++ s) :=
  ⟨name, s, hn.chars, hs, rfl⟩

theorem IsName.skipSpace (hn : IsName name) (s : List Char) :
    skipSpace (name ++ s) = name ++ s := by
  obtain ⟨c, r, rfl, hc⟩ := hn.start
  simp [Layout.skipSpace, not_isSpace_of_isNameChar (isNameChar_of_isNameStart hc)]

theorem IsName.readIdent (hn : IsName name) (hs : ClosesTag s) :
    readIdent (name ++ s) = some (String.ofList name, s) := by
  have htake : (name ++ s).takeWhile isNameChar = name := by
    obtain ⟨d, u, rfl, hd, -, -⟩ := hs.head
    rw [List.takeWhile_append_of_pos hn.chars]
    simp [hd]
  have hdrop : (name ++ s).dropWhile isNameChar = s := by
    rw [List.dropWhile_append_of_pos hn.chars, hs.dropWhile fun _ hc => hc]
  obtain ⟨c, r, rfl, hc⟩ := hn.start
  simp only [List.cons_append] at htake hdrop ⊢
  simp [Layout.readIdent, hc, htake, hdrop]

theorem IsName.readPath (hn : IsName name) (hs : ClosesTag s) (fuel : Nat) :
    readPath (fuel + 1) (name ++ s) = some (name, s) := by
  simp [Layout.readPath, hn.readIdent hs, hs.readDots, hs.readPathTail]

theorem IsName.readTest (hn : IsName name) (hs : ClosesTag s) (fuel : Nat) :
    readTest (fuel + 2) (name ++ s) = none := by
  obtain ⟨r, hr⟩ := hs.skipSpace
  have his : readSym "is".toList s = none := by simp [readSym, hr, readLit]
  simp only [Layout.readTest, hn.readPath hs, Option.bind_eq_bind, Option.bind_some, his]
  rfl

/-! ### A name as an expression

From here on only paths are left. The fuel goes down by one at each level of the grammar, so the
statements ask for one step more from level to level. -/

theorem ClosesTag.readConditions (hs : ClosesTag s) (fuel : Nat) :
    readConditions fuel s = ([], s) := by
  obtain ⟨r, hr⟩ := hs.skipSpace
  have hconnective : readConnective s = none := by
    simp [readConnective, readWord, hr, readLit]
  cases fuel <;> simp [Layout.readConditions, hconnective]

section Plain

variable (hn : PlainName name) (hs : ClosesTag s)

include hn hs

theorem PlainName.readBool : readBool (name ++ s) = none := by
  refine readBool_eq_none fun w hw hp => ?_
  have hchars : ∀ c ∈ w.toList, isNameChar c = true := by
    have hall : ∀ v ∈ boolWords, v.toList.all isNameChar = true := by decide
    exact List.all_eq_true.mp (hall w hw)
  obtain ⟨r, hr⟩ := hp
  obtain ⟨t, ht, -⟩ := prefix_of_append_eq hchars hs hr.symm
  exact hn.no_bool w hw ⟨t, ht.symm⟩

theorem PlainName.readWord_not : readWord "not".toList (name ++ s) = none := by
  rw [readWord]
  split
  · next c r h =>
    obtain ⟨t, ht, hr⟩ := prefix_of_append_eq (List.all_eq_true.mp (by decide)) hs
      (readLit_eq_some.mp h)
    cases t with
    | nil => exact absurd (by simpa using ht) hn.ne_not
    | cons d t =>
      have hcd : c = d := by simpa using congrArg List.head? hr
      have hd : isNameChar d = true := hn.chars d (by simp [ht])
      simp [hcd, not_isSpace_of_isNameChar hd]
  · rfl

theorem PlainName.readFactor (fuel : Nat) :
    readFactor (fuel + 3) (name ++ s) = some (.path (String.ofList name), s) := by
  have htail := hn.isName.nameTail hs
  simp [Layout.readFactor, htail.readLit (show isNameChar '(' = false by decide) (by decide)
    (by decide), hn.readBool hs, hn.isName.readTest hs, htail.readCall, hn.isName.readPath hs]

theorem PlainName.readOperand (fuel : Nat) :
    readOperand (fuel + 5) (name ++ s) = some (.ofTerm (.path (String.ofList name)), s) := by
  simp [Layout.readOperand, readArithmetic, hn.readFactor hs, hs.nameTail.readFactors,
    hs.nameTail.readFilters, joinMath, Expr.ofTerm]

/-- Neither `not` nor `in` stands after the name. -/
theorem PlainName.readMembership (fuel : Nat) : readMembership (fuel + 6) (name ++ s) = none := by
  obtain ⟨r, hr⟩ := hs.skipSpace
  have hnot : readWord "not".toList (skipSpace s) = none := by
    simp [readWord, hr, readLit]
  have hin : readSym "in".toList s = none := by simp [readSym, hr, readLit]
  simp only [Layout.readMembership, (hn.isName.nameTail hs).readText, hn.readOperand hs,
    Option.orElse_none, Option.bind_eq_bind, Option.bind_some]
  rw [hnot]
  simp only [hin, Option.bind_none]

theorem PlainName.readComparisonExpr (fuel : Nat) :
    readComparisonExpr (fuel + 7) (name ++ s) = some (.ofTerm (.path (String.ofList name)), s) := by
  simp [Layout.readComparisonExpr, (hn.isName.nameTail hs).readText, readSum, hn.readOperand hs,
    hs.nameTail.readOperands, joinMath, hs.nameTail.readComparison]

/-- **A name is read as a name.** -/
theorem readLogic_name (fuel : Nat) :
    readLogic (fuel + 9) (name ++ s) = some (.ofTerm (.path (String.ofList name)), s) := by
  have hcondition : readCondition (fuel + 8) (name ++ s)
      = some (.ofTerm (.path (String.ofList name)), s) := by
    simp only [readCondition, hn.readWord_not hs, hn.readMembership hs, hn.readComparisonExpr hs]
    rfl
  simp [readLogic, hcondition, hs.readConditions, joinLogic]

end Plain

end Name

/-! ### Markers -/

/-- What a marker prints. -/
def nameNode (name : String) : Node := .print ⟨false, false⟩ (.ofTerm (.path name))

/-- What follows the name of a marker, up to and beyond its end. -/
def closing (tight : Bool) (rest : List Char) : List Char :=
  if tight then '}' :: '}' :: rest else ' ' :: '}' :: '}' :: rest

theorem closesTag_closing (tight : Bool) (rest : List Char) : ClosesTag (closing tight rest) := by
  cases tight
  · exact ⟨rest, Or.inr rfl⟩
  · exact ⟨rest, Or.inl rfl⟩

theorem readClosing_closing (tight : Bool) (rest : List Char) :
    readClosing '}' (closing tight rest) = some (false, rest) := by
  cases tight <;> rfl

/-- A marker is read as its name is. -/
theorem readPrint_marker {name : String} (hn : IsName name.toList) (tight : Bool)
    (rest : List Char) :
    readPrint ((Piece.marker name tight).source ++ rest) = (do
      let (e, r) ← readValue (name.toList ++ closing tight rest)
      let (right, r) ← readClosing '}' r
      some (.print ⟨false, right⟩ e, r)) := by
  have hopen : ∀ t, readOpening '{' ('{' :: '{' :: (name.toList ++ t))
      = some (false, name.toList ++ t) := by
    intro t
    obtain ⟨c, r, hcr, hc⟩ := hn.start
    have hminus : c ≠ '-' := ne_of_isNameChar (isNameChar_of_isNameStart hc) (by decide)
    simp [readOpening, hcr, hminus]
  cases tight with
  | true => simp [readPrint, Piece.source, hopen, hn.skipSpace, closing]
  | false =>
    have hblank : skipSpace (' ' :: (name.toList ++ ' ' :: '}' :: '}' :: rest))
        = name.toList ++ ' ' :: '}' :: '}' :: rest := hn.skipSpace _
    simp [readPrint, Piece.source, readOpening, hblank, closing]

/-- Steps are given by the length of what is to be read, and nine are enough for a name. -/
theorem readValue_name {name s : List Char} (hn : PlainName name) (hs : ClosesTag s) :
    readValue (name ++ s) = some (.ofTerm (.path (String.ofList name)), s) := by
  have hfuel : stepsFor (name ++ s).length = (stepsFor (name ++ s).length - 9) + 9 := by
    simp only [stepsFor]
    omega
  rw [readValue, hfuel, readLogic_name hn hs]
  rfl

/-- **A marker is read as the tag that prints its name**, whether blanks stand around the name or
not. -/
theorem readPrint_name {name : String} (hn : PlainName name.toList) (tight : Bool)
    (rest : List Char) :
    readPrint ((Piece.marker name tight).source ++ rest) = some (nameNode name, rest) := by
  rw [readPrint_marker hn.isName, readValue_name hn (closesTag_closing tight rest)]
  simp [readClosing_closing, nameNode]

end JobNotice.Layout
