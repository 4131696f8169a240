import JobNotice.Proofs.Mail.Readers
import JobNotice.Proofs.Text.Trimming

/-!
# Names before addresses

A name before an address in angle brackets is a phrase: words and dots. What the reader makes of a
text without quotation marks can be told from the text alone. It takes plain words and dots as far
as they go, and of several spaces it keeps one. So such a text is read as a whole exactly when it
begins with a word, has nothing but words, dots and spaces, and has its spaces before words.

Quotation marks make longer texts out of which less is kept. Whatever the reader leaves out, it
leaves out no angle bracket, and with a quotation mark it leaves out something. That is all that is
needed about them: a text which is read as itself has none.

## Main definitions

* `Mail.isPhrase` — plain words and dots, with spaces before words
* `Mail.singleBlanks` — a text with one space for every run of spaces
* `Mail.Kept` — what is kept of a text that a name has been read from

## Main results

* `Mail.readPhrase_plain` — how far a name is read in a text without quotation marks
* `Mail.kept_of_readPhrase` — what is kept of any name
-/

namespace JobNotice.Mail

/-! ### Phrases -/

/-- Whether words and dots go on to the end; after a space comes a word or another space. -/
def isPhraseRest : List Char → Bool
  | [] => true
  | c :: r =>
    (if c = ' ' then r.head?.any fun d => d = ' ' || isAtomChar d else isAtomChar c || c = '.') &&
      isPhraseRest r

/-- Plain words and dots with spaces before words; a word comes first. -/
def isPhrase (s : List Char) : Bool := s.head?.any isAtomChar && isPhraseRest s

/-- A text with one space for every run of spaces. -/
def singleBlanks : List Char → List Char
  | [] => []
  | c :: r => if c = ' ' ∧ r.head? = some ' ' then singleBlanks r else c :: singleBlanks r

variable {s t u w p r rest : List Char} {c : Char} {k count : ℕ}

/-- A run of spaces. -/
abbrev spaces (k : ℕ) : List Char := List.replicate k ' '

theorem exists_spaces (s : List Char) : ∃ k u, s = spaces k ++ u ∧ u.head? ≠ some ' ' := by
  induction s with
  | nil => exact ⟨0, [], rfl, by simp⟩
  | cons c s ih =>
    by_cases hc : c = ' '
    · obtain ⟨k, u, hs, hu⟩ := ih
      exact ⟨k + 1, u, by rw [hc, hs, spaces, spaces, List.replicate_succ, List.cons_append], hu⟩
    · exact ⟨0, c :: s, rfl, by simpa using hc⟩

/-- A text that begins with a word is the word and what comes after it. -/
theorem exists_word (hs : s.head?.any isAtomChar = true) :
    ∃ w rest, s = w ++ rest ∧ w ≠ [] ∧ (∀ c ∈ w, isAtomChar c = true) ∧
      ∀ c ∈ rest.head?, isAtomChar c = false := by
  refine ⟨s.takeWhile isAtomChar, s.dropWhile isAtomChar, List.takeWhile_append_dropWhile.symm, ?_,
    fun c hc => List.mem_takeWhile_imp hc, fun c hc => Text.not_of_mem_head?_dropWhile hc⟩
  cases s with
  | nil => cases hs
  | cons c s => simp [show isAtomChar c = true from hs]

theorem ne_space_of_isAtomChar (hc : isAtomChar c = true) : c ≠ ' ' := by
  rintro rfl
  exact absurd hc (by decide)

theorem isPhraseRest_atoms (hw : ∀ c ∈ w, isAtomChar c = true) (s : List Char) :
    isPhraseRest (w ++ s) = isPhraseRest s := by
  induction w with
  | nil => rfl
  | cons c w ih =>
    have hc := hw c List.mem_cons_self
    rw [List.cons_append, isPhraseRest, if_neg (ne_space_of_isAtomChar hc), hc, Bool.true_or,
      Bool.true_and]
    exact ih fun d hd => hw d (List.mem_cons_of_mem c hd)

/-- Spaces go on only before a word. -/
theorem isPhraseRest_spaces (hu : u.head? ≠ some ' ') :
    isPhraseRest (spaces (k + 1) ++ u) = (u.head?.any isAtomChar && isPhraseRest u) := by
  induction k with
  | zero =>
    change isPhraseRest (' ' :: u) = _
    rw [isPhraseRest, if_pos rfl]
    cases u with
    | nil => rfl
    | cons d u =>
      have hd : d ≠ ' ' := by simpa using hu
      simp [hd]
  | succ k ih =>
    rw [spaces, List.replicate_succ, List.cons_append, isPhraseRest, if_pos rfl]
    simpa [spaces, List.replicate_succ] using ih

theorem singleBlanks_atoms (hw : ∀ c ∈ w, isAtomChar c = true) (s : List Char) :
    singleBlanks (w ++ s) = w ++ singleBlanks s := by
  induction w with
  | nil => rfl
  | cons c w ih =>
    have hc := ne_space_of_isAtomChar (hw c List.mem_cons_self)
    rw [List.cons_append, singleBlanks, if_neg fun h => hc h.1,
      ih fun d hd => hw d (List.mem_cons_of_mem c hd), List.cons_append]

theorem singleBlanks_spaces (hu : u.head? ≠ some ' ') :
    singleBlanks (spaces k ++ u) = (spaces k).take 1 ++ singleBlanks u := by
  induction k with
  | zero => rfl
  | succ k ih =>
    rw [spaces, List.replicate_succ, List.cons_append, singleBlanks]
    cases k with
    | zero => simp [hu]
    | succ k =>
      rw [if_pos ⟨rfl, rfl⟩, ih]
      rfl

theorem singleBlanks_length_le (s : List Char) : (singleBlanks s).length ≤ s.length := by
  induction s with
  | nil => exact le_rfl
  | cons c s ih =>
    rw [singleBlanks]
    split
    · exact ih.trans (Nat.le_succ _)
    · exact Nat.succ_le_succ ih

/-! ### Reading plain words -/

theorem readBlanks_spaces (hu : ∀ d ∈ u.head?, isSpaceOrTab d = false) :
    readBlanks (spaces k ++ u) = ((spaces k).take 1, u) := by
  have hk : ∀ d ∈ spaces k, isSpaceOrTab d = true := by
    intro d hd
    rw [List.eq_of_mem_replicate hd]
    rfl
  have hstop : u.takeWhile isSpaceOrTab = [] ∧ u.dropWhile isSpaceOrTab = u := by
    cases u with
    | nil => exact ⟨rfl, rfl⟩
    | cons d u => simp [hu d rfl]
  rw [readBlanks, List.takeWhile_append_of_pos hk, List.dropWhile_append_of_pos hk, hstop.1,
    hstop.2, List.append_nil]

theorem readQuoted_eq_none (hu : '"' ∉ u.head?) : readQuoted u = none := by
  rw [readQuoted]
  rintro r rfl
  exact hu rfl

theorem isSpaceOrTab_of_isAtomChar (hc : isAtomChar c = true) : isSpaceOrTab c = false := by
  rw [isSpaceOrTab, Bool.or_eq_false_iff]
  constructor
  · simpa using ne_space_of_isAtomChar hc
  · rw [decide_eq_false_iff_not]
    rintro rfl
    exact absurd hc (by decide)

/-- A plain word is read up to its end, with one of the spaces before it. -/
theorem readWord_plain (hne : w ≠ []) (hw : ∀ c ∈ w, isAtomChar c = true)
    (hrest : ∀ d ∈ rest.head?, isAtomChar d = false) :
    readWord (spaces k ++ (w ++ rest)) = some ((spaces k).take 1 ++ w, rest) := by
  obtain ⟨c, v, rfl⟩ := List.exists_cons_of_ne_nil hne
  have hc := hw c List.mem_cons_self
  have hblank : ∀ d ∈ (c :: v ++ rest).head?, isSpaceOrTab d = false := by
    rintro d ⟨⟩
    exact isSpaceOrTab_of_isAtomChar hc
  have hquote : '"' ∉ (c :: v ++ rest).head? := by
    rintro ⟨⟩
    exact absurd hc (by decide)
  have hstop : rest.takeWhile isAtomChar = [] ∧ rest.dropWhile isAtomChar = rest := by
    cases rest with
    | nil => exact ⟨rfl, rfl⟩
    | cons d rest => simp [hrest d rfl]
  rw [readWord, readBlanks_spaces hblank]
  simp only [readQuoted_eq_none hquote]
  rw [List.takeWhile_append_of_pos hw, List.dropWhile_append_of_pos hw, hstop.1, hstop.2,
    List.append_nil]
  rfl

/-- A character that neither begins a word nor is a blank. -/
structure Stops (c : Char) : Prop where
  blank : isSpaceOrTab c = false
  quote : c ≠ '"'
  atom : isAtomChar c = false

theorem readWord_stops (hc : Stops c) (k : ℕ) (u : List Char) :
    readWord (spaces k ++ c :: u) = none := by
  have hblank : ∀ d ∈ (c :: u).head?, isSpaceOrTab d = false := by
    rintro d ⟨⟩
    exact hc.blank
  have hquote : '"' ∉ (c :: u).head? := by
    rintro ⟨⟩
    exact hc.quote rfl
  rw [readWord, readBlanks_spaces hblank]
  simp only [readQuoted_eq_none hquote]
  rw [List.takeWhile_cons_of_neg (by simp [hc.atom])]
  rfl

/-! ### Reading words and dots -/

theorem stops_of_plain (hc : c ≠ '\t' ∧ c ≠ '"') (hspace : c ≠ ' ') (hatom : isAtomChar c = false) :
    Stops c :=
  ⟨by simp [isSpaceOrTab, hc.1, hspace], hc.2, hatom⟩

theorem stops_angle : Stops '<' := ⟨by decide, by decide, by decide⟩

theorem stops_dot : Stops '.' := ⟨by decide, by decide, by decide⟩

/-- Nothing more of a name is read where no word begins, unless there is a dot with no space before
it. The text is a phrase up to there only if nothing is left of it. -/
theorem readMoreWords_stops (hu : ∀ c ∈ u.head?, Stops c) (hdot : k ≠ 0 ∨ u.head? ≠ some '.')
    (count j : ℕ) (t : List Char) :
    readMoreWords count (spaces k ++ u ++ (spaces j ++ '<' :: t))
        = ([], spaces k ++ u ++ (spaces j ++ '<' :: t)) ∧
      (spaces k ++ u = [] ↔ isPhraseRest (spaces k ++ u) = true) := by
  cases u with
  | nil =>
    -- the spaces run into those before the angle bracket
    have hmerge : spaces k ++ [] ++ (spaces j ++ '<' :: t) = spaces (k + j) ++ '<' :: t := by
      rw [List.append_nil, ← List.append_assoc, List.replicate_append_replicate]
    rw [hmerge]
    refine ⟨readMoreWords_of_none (readWord_stops stops_angle _ _) ?_ _, ?_⟩
    · cases k + j with
      | zero => simp
      | succ n => simp [List.replicate_succ]
    · cases k with
      | zero => exact ⟨fun _ => rfl, fun _ => rfl⟩
      | succ k =>
        rw [isPhraseRest_spaces (by simp)]
        simp [List.replicate_succ]
  | cons c u =>
    have hc : Stops c := hu c rfl
    have hspace : c ≠ ' ' := by
      rintro rfl
      exact absurd hc.blank (by decide)
    rw [List.append_assoc, List.cons_append]
    refine ⟨readMoreWords_of_none (readWord_stops hc _ _) ?_ _, ?_⟩
    · cases k with
      | zero => simpa using hdot
      | succ k => simp [List.replicate_succ]
    · cases k with
      | zero =>
        have hne : c ≠ '.' := by simpa using hdot
        simp [isPhraseRest, hspace, hc.atom, hne]
      | succ k =>
        rw [isPhraseRest_spaces (by simpa using hspace)]
        simp [hc.atom]

/-- A word that ends in a text ends there when an angle bracket follows the text. -/
theorem not_isAtomChar_before_angle (hrest : ∀ c ∈ rest.head?, isAtomChar c = false) (j : ℕ)
    (t : List Char) :
    ∀ c ∈ (rest ++ (spaces j ++ '<' :: t)).head?, isAtomChar c = false := by
  intro c hc
  cases rest with
  | cons d rest => exact hrest c hc
  | nil =>
    cases j with
    | zero => cases hc; decide
    | succ j => cases hc; decide

/-- **How far words and dots are read in a text without quotation marks.** The induction is on the
number of words and dots that may be read, of which there are no more than characters. -/
theorem readMoreWords_plain (hs : ∀ d ∈ s, d ≠ '\t' ∧ d ≠ '"') (hcount : s.length ≤ count)
    (j : ℕ) (t : List Char) :
    ∃ v r, s = v ++ r ∧
      readMoreWords count (s ++ (spaces j ++ '<' :: t))
        = (singleBlanks v, r ++ (spaces j ++ '<' :: t)) ∧
      (r = [] ↔ isPhraseRest s = true) := by
  induction count generalizing s with
  | zero =>
    rw [List.length_eq_zero_iff.mp (Nat.le_zero.mp hcount)]
    exact ⟨[], [], rfl, rfl, fun _ => rfl, fun _ => rfl⟩
  | succ count ih =>
    obtain ⟨k, u, rfl, hu⟩ := exists_spaces s
    have hplain : ∀ d ∈ u, d ≠ '\t' ∧ d ≠ '"' := fun d hd => hs d (List.mem_append_right _ hd)
    cases hatom : u.head?.any isAtomChar with
    | true =>
      -- a word, and what comes after it
      obtain ⟨w, rest, rfl, hne, hw, hrest⟩ := exists_word hatom
      have hshort : rest.length ≤ count := by
        have := List.length_pos_iff.mpr hne
        simp only [List.length_append] at hcount
        omega
      obtain ⟨v, r, rfl, hread, hiff⟩ :=
        ih (fun d hd => hplain d (List.mem_append_right _ hd)) hshort
      have hword := readWord_plain (k := k) hne hw (not_isAtomChar_before_angle hrest j t)
      have hspace : (w ++ v).head? ≠ some ' ' := by
        rw [List.head?_append_of_ne_nil _ hne] at hu ⊢
        exact hu
      refine ⟨spaces k ++ (w ++ v), r, by simp, ?_, ?_⟩
      · rw [List.append_assoc, List.append_assoc, readMoreWords_of_word hword, hread,
          singleBlanks_spaces hspace, singleBlanks_atoms hw, List.append_assoc]
      · rw [hiff]
        cases k with
        | zero => rw [spaces, List.replicate_zero, List.nil_append, isPhraseRest_atoms hw]
        | succ k => rw [isPhraseRest_spaces hu, hatom, Bool.true_and, isPhraseRest_atoms hw]
    | false =>
      by_cases hdot : k = 0 ∧ u.head? = some '.'
      · obtain ⟨rfl, hdot⟩ := hdot
        obtain ⟨u, rfl⟩ := List.head?_eq_some_iff.mp hdot
        have hshort : u.length ≤ count := Nat.le_of_succ_le_succ hcount
        obtain ⟨v, r, rfl, hread, hiff⟩ :=
          ih (fun d hd => hplain d (List.mem_cons_of_mem _ hd)) hshort
        refine ⟨'.' :: v, r, rfl, ?_, hiff⟩
        change readMoreWords (count + 1) ('.' :: (v ++ r ++ (spaces j ++ '<' :: t))) = _
        rw [readMoreWords_of_dot (readWord_stops stops_dot 0 _), hread]
        rfl
      · have hstops : ∀ c ∈ u.head?, Stops c := by
          intro c hc
          have hmem : c ∈ u := List.mem_of_mem_head? hc
          refine stops_of_plain (hplain c hmem) ?_ ?_
          · rintro rfl
            exact hu hc
          · rw [Option.mem_def.mp hc] at hatom
            exact hatom
        obtain ⟨hread, hiff⟩ :=
          readMoreWords_stops hstops (not_and_or.mp hdot) (count + 1) j t
        exact ⟨[], spaces k ++ u, rfl, hread, hiff⟩

/-- **How far a name is read in a text without quotation marks.** -/
theorem readPhrase_plain (hs : ∀ d ∈ s, d ≠ '\t' ∧ d ≠ '"') (hstart : s.head?.any isAtomChar = true)
    (j : ℕ) (t : List Char) :
    ∃ v r, s = v ++ r ∧
      readPhrase (s ++ (spaces j ++ '<' :: t))
        = some (singleBlanks v, r ++ (spaces j ++ '<' :: t)) ∧
      (r = [] ↔ isPhrase s = true) := by
  obtain ⟨w, rest, rfl, hne, hw, hrest⟩ := exists_word hstart
  have hcount : rest.length ≤ (rest ++ (spaces j ++ '<' :: t)).length := by simp
  obtain ⟨v, r, rfl, hread, hiff⟩ :=
    readMoreWords_plain (fun d hd => hs d (List.mem_append_right _ hd)) hcount j t
  have hword := readWord_plain (k := 0) hne hw (not_isAtomChar_before_angle hrest j t)
  refine ⟨w ++ v, r, (List.append_assoc ..).symm, ?_, ?_⟩
  · rw [List.append_assoc, readPhrase_eq_some]
    exact ⟨w, _, hword, by rw [hread, singleBlanks_atoms hw], by rw [hread]⟩
  · rw [hiff, isPhrase, hstart, Bool.true_and, isPhraseRest_atoms hw]

/-- No name is read where no word begins. -/
theorem readPhrase_stops (hc : Stops c) (u : List Char) : readPhrase (c :: u) = none := by
  have hword : readWord (c :: u) = none := readWord_stops hc 0 u
  rw [readPhrase, hword]
  rfl

/-! ### What is kept of a name -/

/-- A name `p` read from a text `s`: no angle bracket is left out, some character is if there is a
quotation mark, and there are no blanks at the end. -/
structure Kept (s p : List Char) : Prop where
  length_le : p.length ≤ s.length
  length_lt : '"' ∈ s → p.length < s.length
  angles : p.count '<' = s.count '<'
  last : ∀ c ∈ s.getLast?, isSpaceOrTab c = false

namespace Kept

theorem nil : Kept [] [] := ⟨le_rfl, by simp, rfl, by simp⟩

theorem append (hs : Kept s p) (ht : Kept t r) : Kept (s ++ t) (p ++ r) where
  length_le := by
    have := hs.length_le
    have := ht.length_le
    simp only [List.length_append]
    omega
  length_lt h := by
    have := hs.length_le
    have := ht.length_le
    simp only [List.length_append]
    rcases List.mem_append.mp h with h | h
    · have := hs.length_lt h
      omega
    · have := ht.length_lt h
      omega
  angles := by rw [List.count_append, List.count_append, hs.angles, ht.angles]
  last c hc := by
    rw [List.getLast?_append] at hc
    cases hlast : t.getLast? with
    | none => exact hs.last c (by simpa [hlast] using hc)
    | some d => exact ht.last c (by simpa [hlast] using hc)

/-- Characters that are no quotation marks and do not end in a blank are kept as they are. -/
theorem refl (hquote : '"' ∉ s) (hlast : ∀ c ∈ s.getLast?, isSpaceOrTab c = false) : Kept s s :=
  ⟨le_rfl, fun h => absurd h hquote, rfl, hlast⟩

theorem atoms (hw : ∀ c ∈ w, isAtomChar c = true) : Kept w w := by
  refine refl (fun h => absurd (hw _ h) (by decide)) fun c hc => ?_
  exact isSpaceOrTab_of_isAtomChar (hw c (List.mem_of_getLast? hc))

theorem dot : Kept ['.'] ['.'] := by
  refine refl (by decide) ?_
  rintro c ⟨⟩
  decide

theorem count_takeWhile {q : Char → Bool} (hq : q '<' = false) (s : List Char) :
    (s.takeWhile q).count '<' = 0 :=
  List.count_eq_zero.mpr (not_mem_takeWhile hq s)

theorem count_readBlanks (s : List Char) : (readBlanks s).1.count '<' = 0 :=
  Nat.le_zero.mp <| (List.take_sublist 1 _).count_le '<' |>.trans_eq (count_takeWhile (by decide) s)

theorem length_readBlanks_le (s : List Char) :
    (readBlanks s).1.length ≤ (s.takeWhile isSpaceOrTab).length :=
  (List.take_sublist 1 _).length_le

/-- One of the blanks before what is kept is kept. -/
theorem after_blanks (h : Kept u p) (hne : u ≠ []) (s : List Char) :
    Kept (s.takeWhile isSpaceOrTab ++ u) ((readBlanks s).1 ++ p) where
  length_le := by
    have := h.length_le
    have := length_readBlanks_le s
    simp only [List.length_append]
    omega
  length_lt hquote := by
    have hu : '"' ∈ u := by
      rcases List.mem_append.mp hquote with hmem | hmem
      · exact absurd hmem (not_mem_takeWhile (by decide) s)
      · exact hmem
    have := h.length_lt hu
    have := length_readBlanks_le s
    simp only [List.length_append]
    omega
  angles := by
    rw [List.count_append, List.count_append, h.angles, count_readBlanks,
      count_takeWhile (by decide)]
  last c hc := by
    rw [List.getLast?_append_of_ne_nil _ hne] at hc
    exact h.last c hc

end Kept

/-- Between quotation marks, backslashes and blanks are left out. -/
theorem exists_of_readQuotedFrom (h : readQuotedFrom count s = some (p, r)) :
    ∃ v, s = v ++ '"' :: r ∧ p.length ≤ v.length ∧ p.count '<' = v.count '<' := by
  induction count generalizing s p r with
  | zero => cases h
  | succ count ih =>
    rcases readQuotedFrom_cases h with ⟨rfl, hs⟩ | ⟨mark, c, rest, more, hmark, hs, hmore, rfl⟩
    · refine ⟨s.takeWhile Text.isBlank, ?_, Nat.zero_le _, ?_⟩
      · rw [← hs, List.takeWhile_append_dropWhile]
      · rw [Kept.count_takeWhile (by decide), List.count_nil]
    · obtain ⟨v, rfl, hlength, hcount⟩ := ih hmore
      have hangle : mark.count '<' = 0 := by
        rcases hmark with ⟨rfl, -⟩ | ⟨rfl, -⟩
        · rfl
        · rfl
      refine ⟨s.takeWhile isSpaceOrTab ++ (mark ++ c :: v), ?_, ?_, ?_⟩
      · rw [List.append_assoc, List.append_assoc, List.cons_append, ← hs]
        exact (blanks_append s).symm
      · have := Kept.length_readBlanks_le s
        simp only [List.length_append, List.length_cons]
        omega
      · rw [List.count_append, List.count_append, List.count_append, List.count_cons,
          List.count_cons, hcount, hangle, Kept.count_readBlanks, Kept.count_takeWhile (by decide),
          Nat.zero_add, Nat.zero_add]

theorem kept_of_readQuoted (h : readQuoted s = some (p, r)) :
    ∃ v, s = v ++ r ∧ '"' ∈ v ∧ Kept v p := by
  obtain ⟨rest, rfl, h⟩ := exists_of_readQuoted h
  obtain ⟨v, rfl, hlength, hcount⟩ := exists_of_readQuotedFrom h
  refine ⟨'"' :: v ++ ['"'], by simp, by simp, ?_, fun _ => ?_, ?_, ?_⟩
  · simp only [List.length_append, List.length_cons]
    omega
  · simp only [List.length_append, List.length_cons]
    omega
  · simp [hcount]
  · rw [List.getLast?_append_of_ne_nil _ (by simp)]
    rintro c ⟨⟩
    decide

theorem kept_of_readWord (h : readWord s = some (p, r)) :
    ∃ v, s = v ++ r ∧ v ≠ [] ∧ Kept v p := by
  rcases readWord_cases h with ⟨word, hquoted, rfl⟩ | ⟨hne, rfl, rfl⟩
  · obtain ⟨v, hv, hquote, hkept⟩ := kept_of_readQuoted hquoted
    have hne := List.ne_nil_of_mem hquote
    refine ⟨s.takeWhile isSpaceOrTab ++ v, ?_, by simp [hne], hkept.after_blanks hne s⟩
    rw [List.append_assoc, ← hv, blanks_append]
  · have hkept : Kept ((readBlanks s).2.takeWhile isAtomChar) _ :=
      .atoms fun c hc => List.mem_takeWhile_imp hc
    refine ⟨s.takeWhile isSpaceOrTab ++ (readBlanks s).2.takeWhile isAtomChar, ?_, by simp [hne],
      hkept.after_blanks hne s⟩
    rw [List.append_assoc, List.takeWhile_append_dropWhile, blanks_append]

theorem kept_of_readMoreWords (count : ℕ) (s : List Char) :
    ∃ v, s = v ++ (readMoreWords count s).2 ∧ Kept v (readMoreWords count s).1 := by
  induction count generalizing s with
  | zero => exact ⟨[], rfl, .nil⟩
  | succ count ih =>
    cases hword : readWord s with
    | some word =>
      obtain ⟨w, rest⟩ := word
      obtain ⟨v, rfl, -, hkept⟩ := kept_of_readWord hword
      obtain ⟨v', hrest, hkept'⟩ := ih rest
      rw [readMoreWords_of_word hword]
      exact ⟨v ++ v', by rw [List.append_assoc, ← hrest], hkept.append hkept'⟩
    | none =>
      by_cases hdot : s.head? = some '.'
      · obtain ⟨rest, rfl⟩ := List.head?_eq_some_iff.mp hdot
        obtain ⟨v, hrest, hkept⟩ := ih rest
        rw [readMoreWords_of_dot hword]
        exact ⟨'.' :: v, by rw [List.cons_append, ← hrest], Kept.dot.append hkept⟩
      · rw [readMoreWords_of_none hword hdot]
        exact ⟨[], rfl, .nil⟩

/-- **What is kept of a name.** -/
theorem kept_of_readPhrase (h : readPhrase s = some (p, r)) : ∃ v, s = v ++ r ∧ Kept v p := by
  obtain ⟨w, rest, hword, rfl, rfl⟩ := readPhrase_eq_some.mp h
  obtain ⟨v, rfl, -, hkept⟩ := kept_of_readWord hword
  obtain ⟨v', hrest, hkept'⟩ := kept_of_readMoreWords rest.length rest
  exact ⟨v ++ v', by rw [List.append_assoc, ← hrest], hkept.append hkept'⟩

end JobNotice.Mail
