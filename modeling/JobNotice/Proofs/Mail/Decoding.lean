import JobNotice.Proofs.Mail.EncodedWords

/-!
# Headers read back

A reader drops the spaces between two encoded words, because a long text takes several of them. The
writer puts a single space there, so a run of words is read as it was. But it also leaves spaces
between two encoded words when a text has two words to encode with nothing but two or more spaces
between them: each of these spaces is a word of its own that may stand in a header. They are not
read back, and they are the only part of a text that is lost.

## Main definitions

* `Mail.readBack` — what is read of the words of a text
* `Mail.WideGapIn`, `Mail.HasWideGap` — two words to encode, with nothing but two or more spaces
  between them

## Main results

* `Mail.decodeWords_eq` — the words of a header are read as `readBack` says
* `Mail.readBack_eq_iff` — nothing is lost exactly when there is no wide gap
* `Mail.decodeWords_headerOf` — the header of a text is read as the text
-/

namespace JobNotice.Mail

open Text (splitChars joinWith utf8Bytes)

/-! ### Encoded words -/

theorem ofEncodedWord?_eq (word : List Char) : ofEncodedWord? word =
    if opening.isPrefixOf word ∧ closing.isSuffixOf word ∧ opening.length + 2 ≤ word.length then
      (Base64.decode? ((word.drop opening.length).dropLast.dropLast)).bind Text.ofUtf8?
    else none := by
  have hopening : "=?utf-8?b?".toList = opening := by decide
  have hclosing : "?=".toList = closing := by decide
  unfold ofEncodedWord?
  rw [hopening, hclosing]
  rfl

/-- An encoded word stands for its text. -/
theorem ofEncodedWord?_encodedWord (s : List Char) :
    ofEncodedWord? (HeaderText.encodedWord s) = some s := by
  rw [ofEncodedWord?_eq, encodedWord_eq, if_pos, List.drop_left]
  · have hdigits (digits : List Char) : (digits ++ closing).dropLast.dropLast = digits := by
      simp [closing]
    rw [hdigits, Base64.decode?_encode (Text.utf8Bytes_lt s), Option.bind_some,
      Text.ofUtf8?_utf8Bytes]
  · refine ⟨?_, ?_, ?_⟩
    · rw [List.isPrefixOf_iff_prefix]
      exact List.prefix_append _ _
    · rw [List.isSuffixOf_iff_suffix, ← List.append_assoc]
      exact List.suffix_append _ _
    · simp [closing]

/-- A word without the marks of encoded words stands for itself. -/
theorem ofEncodedWord?_eq_none {word : List Char} (h : ¬ ['=', '?'] <:+: word) :
    ofEncodedWord? word = none := by
  rw [ofEncodedWord?_eq, if_neg]
  rintro ⟨hbegins, -, -⟩
  rw [List.isPrefixOf_iff_prefix] at hbegins
  have hmark : ['=', '?'] <+: opening := ⟨_, rfl⟩
  exact h (hmark.trans hbegins).isInfix

/-- **Encoded words are read as the text they stand for**, without the spaces between them, and
without those before them if they come after another encoded word. -/
theorem Encoded.decodeWordsFrom {s e : List Char} (h : Encoded s e) :
    ∃ words, splitChars ' ' e = words ∧
      ∀ gap after rest, decodeWordsFrom gap after (words ++ rest)
        = (if after then [] else gap) ++ s ++ decodeWordsFrom [' '] true rest := by
  have hword (s gap : List Char) (after : Bool) (rest : List (List Char)) :
      Mail.decodeWordsFrom gap after (HeaderText.encodedWord s :: rest)
        = (if after then [] else gap) ++ s ++ Mail.decodeWordsFrom [' '] true rest := by
    have hne : (HeaderText.encodedWord s).isEmpty = false := by
      rw [encodedWord_eq]
      rfl
    rw [Mail.decodeWordsFrom, hne, ofEncodedWord?_encodedWord]
    cases after <;> simp
  induction h with
  | last s =>
    exact ⟨[HeaderText.encodedWord s], Text.splitChars_eq_singleton (not_mem_encodedWord s),
      fun gap after rest => hword s gap after rest⟩
  | @more s t e _ ih =>
    obtain ⟨words, hwords, hread⟩ := ih
    refine ⟨HeaderText.encodedWord s :: words, ?_, fun gap after rest => ?_⟩
    · rw [Text.splitChars_word_append (not_mem_encodedWord s), hwords]
    · rw [List.cons_append, hword, hread]
      simp

/-! ### What is read back -/

/-- What is read of the words of a text, `gap` being the number of spaces before the next word. -/
def readBack (gap : Nat) (afterEncoded : Bool) : List (List Char) → List Char
  | [] => List.replicate (gap - 1) ' '
  | w :: words =>
    if w.isEmpty then readBack (gap + 1) afterEncoded words
    else if w.all isHeaderChar then List.replicate gap ' ' ++ w ++ readBack 1 false words
    else (if afterEncoded && 1 < gap then [] else List.replicate gap ' ') ++ w ++
      readBack 1 true words

theorem readBack_nil_cons (gap : Nat) (after : Bool) (words : List (List Char)) :
    readBack gap after ([] :: words) = readBack (gap + 1) after words := by
  rw [readBack, if_pos List.isEmpty_nil]

theorem readBack_cons {w : List Char} (hne : w ≠ []) (hw : w.all isHeaderChar = true) (gap : Nat)
    (after : Bool) (words : List (List Char)) :
    readBack gap after (w :: words) = List.replicate gap ' ' ++ w ++ readBack 1 false words := by
  have hempty : ¬ w.isEmpty = true := by simpa using hne
  rw [readBack, if_neg hempty, if_pos hw]

theorem readBack_encoded {w : List Char} (hw : NeedsEncoding w) (gap : Nat) (after : Bool)
    (words : List (List Char)) :
    readBack gap after (w :: words)
      = (if after && 1 < gap then [] else List.replicate gap ' ') ++ w ++
          readBack 1 true words := by
  have hempty : ¬ w.isEmpty = true := by simpa using hw.ne_nil
  have hplain : ¬ w.all isHeaderChar = true := by simpa [NeedsEncoding] using hw
  rw [readBack, if_neg hempty, if_neg hplain]

/-- A run of words to encode is read as it is. -/
theorem readBack_run {run : List (List Char)} (hne : run ≠ []) (hrun : ∀ w ∈ run, NeedsEncoding w)
    (gap : Nat) (after : Bool) (words : List (List Char)) :
    readBack gap after (run ++ words)
      = (if after && 1 < gap then [] else List.replicate gap ' ') ++ joinWith [' '] run ++
          readBack 1 true words := by
  induction run generalizing gap after with
  | nil => exact absurd rfl hne
  | cons w run ih =>
    rw [List.cons_append, readBack_encoded (hrun w (List.mem_cons_self ..))]
    cases run with
    | nil => simp [joinWith]
    | cons v run =>
      have hrest := ih (List.cons_ne_nil v run) (fun x hx => hrun x (List.mem_cons_of_mem w hx)) 1
        true
      rw [hrest]
      simp [joinWith]

/-- An empty word is one more space. -/
theorem decodeWordsFrom_nil_cons (gap : Nat) (after : Bool) (rest : List (List Char)) :
    decodeWordsFrom (List.replicate gap ' ') after ([] :: rest)
      = decodeWordsFrom (List.replicate (gap + 1) ' ') after rest := by
  rw [decodeWordsFrom, if_pos List.isEmpty_nil, List.replicate_succ]

/-- A word without the marks of encoded words is read as it is. -/
theorem decodeWordsFrom_cons {w : List Char} (hne : w ≠ []) (hmark : ¬ ['=', '?'] <:+: w)
    (gap : List Char) (after : Bool) (rest : List (List Char)) :
    decodeWordsFrom gap after (w :: rest) = gap ++ w ++ decodeWordsFrom [' '] false rest := by
  have hempty : ¬ w.isEmpty = true := by simpa using hne
  rw [decodeWordsFrom, if_neg hempty, ofEncodedWord?_eq_none hmark]

/-- After an encoded word, a run of words to encode comes after two spaces or more, which are not
read. -/
theorem gap_before_run {run : List (List Char)} {gap : Nat} {after : Bool}
    (words : List (List Char)) (hne : run ≠ []) (hrun : ∀ w ∈ run, NeedsEncoding w)
    (hgap : after = true → gap ≠ 0)
    (hnext : after = true → gap = 1 → ∀ w ∈ (run ++ words).head?, w.all isHeaderChar = true) :
    (if after then [] else List.replicate gap ' ')
      = if after && 1 < gap then [] else List.replicate gap ' ' := by
  cases after with
  | false => rfl
  | true =>
    obtain ⟨w, rest, rfl⟩ := List.exists_cons_of_ne_nil hne
    have hone : gap ≠ 1 := by
      intro hone
      have hplain := hnext rfl hone w (by simp)
      rw [hrun w (List.mem_cons_self ..)] at hplain
      cases hplain
    have hwide : 1 < gap := by
      have hzero := hgap rfl
      omega
    simp [hwide]

/-- **The words of a header are read as `readBack` says.** -/
theorem decodeWords_eq {words : List (List Char)} {x : List Char} (h : Mixed words x)
    (hspace : ∀ w ∈ words, ' ' ∉ w) (hmark : ∀ w ∈ words, ¬ ['=', '?'] <:+: w) (gap : Nat)
    (after : Bool) (hgap : after = true → gap ≠ 0)
    (hnext : after = true → gap = 1 → ∀ w ∈ words.head?, w.all isHeaderChar = true) :
    decodeWordsFrom (List.replicate gap ' ') after (splitChars ' ' x)
      = readBack gap after words := by
  induction h generalizing gap after with
  | @plainLast w hw =>
    rw [Text.splitChars_eq_singleton (hspace w (List.mem_cons_self ..))]
    cases w with
    | nil =>
      rw [decodeWordsFrom_nil_cons, decodeWordsFrom, List.dropLast_replicate, readBack_nil_cons,
        readBack]
    | cons c w =>
      rw [decodeWordsFrom_cons (List.cons_ne_nil c w) (hmark _ (List.mem_cons_self ..)),
        readBack_cons (List.cons_ne_nil c w) hw]
      rfl
  | @plain w x words hw _ ih =>
    have hrest := ih (fun v hv => hspace v (List.mem_cons_of_mem w hv))
      fun v hv => hmark v (List.mem_cons_of_mem w hv)
    rw [Text.splitChars_word_append (hspace w (List.mem_cons_self ..))]
    cases w with
    | nil =>
      rw [decodeWordsFrom_nil_cons, readBack_nil_cons]
      exact hrest (gap + 1) after (fun _ => Nat.succ_ne_zero gap)
        fun hafter hone => absurd (Nat.succ.inj hone) (hgap hafter)
    | cons c w =>
      rw [decodeWordsFrom_cons (List.cons_ne_nil c w) (hmark _ (List.mem_cons_self ..)),
        readBack_cons (List.cons_ne_nil c w) hw, ← hrest 1 false (by simp) (by simp)]
      rfl
  | @runLast run e hne hrun he =>
    obtain ⟨coded, hcoded, hread⟩ := he.decodeWordsFrom
    have hrun' := readBack_run hne hrun gap after []
    have hread' := hread (List.replicate gap ' ') after []
    rw [List.append_nil] at hrun' hread'
    rw [hcoded, hread', hrun', gap_before_run [] hne hrun hgap (by simpa using hnext)]
    rfl
  | @run run words e w x hne hrun he hw _ ih =>
    obtain ⟨coded, hcoded, hread⟩ := he.decodeWordsFrom
    have hrest := ih (fun v hv => hspace v (List.mem_append_right run hv))
      (fun v hv => hmark v (List.mem_append_right run hv)) 1 true (by simp)
      fun _ _ v hv => by
        obtain rfl : w = v := by simpa using hv
        exact hw
    rw [Text.splitChars_append, hcoded, hread, readBack_run hne hrun, ← hrest,
      gap_before_run (w :: words) hne hrun hgap hnext]
    rfl

/-! ### Wide gaps -/

/-- The text of words with `gap` spaces before them. -/
def fullText (gap : Nat) : List (List Char) → List Char
  | [] => List.replicate (gap - 1) ' '
  | w :: words => List.replicate gap ' ' ++ w ++ fullText 1 words

theorem fullText_zero {words : List (List Char)} (hne : words ≠ []) :
    fullText 0 words = joinWith [' '] words := by
  have hrest (words : List (List Char)) : fullText 1 words = words.flatMap (' ' :: ·) := by
    induction words with
    | nil => rfl
    | cons w words ih =>
      rw [fullText, ih, List.flatMap_cons]
      rfl
  obtain ⟨w, rest, rfl⟩ := List.exists_cons_of_ne_nil hne
  rw [fullText, hrest, Text.joinWith_cons]
  rfl

theorem fullText_nil_cons (gap : Nat) (words : List (List Char)) :
    fullText gap ([] :: words) = fullText (gap + 1) words := by
  cases words with
  | nil => simp [fullText]
  | cons w words => simp [fullText, List.replicate_succ']

/-- A word is empty, may stand in a header, or needs encoding. -/
theorem word_cases (w : List Char) :
    w = [] ∨ (w ≠ [] ∧ w.all isHeaderChar = true) ∨ NeedsEncoding w := by
  unfold NeedsEncoding
  cases w.all isHeaderChar <;> simp [em]

theorem length_readBack_le (gap : Nat) (after : Bool) (words : List (List Char)) :
    (readBack gap after words).length ≤ (fullText gap words).length := by
  induction words generalizing gap after with
  | nil => exact Nat.le_refl _
  | cons w words ih =>
    rcases word_cases w with rfl | ⟨hne, hw⟩ | hw
    · rw [readBack_nil_cons, fullText_nil_cons]
      exact ih (gap + 1) after
    · have hrest := ih 1 false
      rw [readBack_cons hne hw, fullText]
      simp only [List.length_append]
      omega
    · have hrest := ih 1 true
      rw [readBack_encoded hw, fullText]
      split <;> simp only [List.length_append, List.length_nil] <;> omega

/-- Two words to encode, with nothing but two or more spaces between them. -/
def WideGapIn (words : List (List Char)) : Prop :=
  ∃ w k w', NeedsEncoding w ∧ NeedsEncoding w' ∧
    w :: (List.replicate (k + 1) [] ++ [w']) <:+: words

/-- Words that begin with a word to encode, after two spaces or more. -/
def OpensWide (gap : Nat) (words : List (List Char)) : Prop :=
  ∃ k w rest, words = List.replicate k [] ++ w :: rest ∧ NeedsEncoding w ∧ 1 < gap + k

theorem not_needsEncoding_nil : ¬ NeedsEncoding [] := fun h => h.ne_nil rfl

theorem wideGapIn_cons {w : List Char} {words : List (List Char)} :
    WideGapIn (w :: words) ↔ (NeedsEncoding w ∧ OpensWide 1 words) ∨ WideGapIn words := by
  constructor
  · rintro ⟨v, k, v', hv, hv', hpart⟩
    rcases List.infix_cons_iff.mp hpart with hbegins | hpart
    · obtain ⟨rfl, rest, hrest⟩ := List.cons_prefix_cons.mp hbegins
      exact .inl ⟨hv, k + 1, v', rest, by simpa using hrest.symm, hv', by omega⟩
    · exact .inr ⟨v, k, v', hv, hv', hpart⟩
  · rintro (⟨hw, k, v', rest, rfl, hv', hk⟩ | ⟨v, k, v', hv, hv', hpart⟩)
    · obtain ⟨k, rfl⟩ : ∃ j, k = j + 1 := ⟨k - 1, by omega⟩
      refine ⟨w, k, v', hw, hv', List.IsPrefix.isInfix ⟨rest, by simp⟩⟩
    · exact ⟨v, k, v', hv, hv', List.infix_cons hpart⟩

theorem opensWide_cons {gap : Nat} {w : List Char} {words : List (List Char)} :
    OpensWide gap (w :: words) ↔
      (w = [] ∧ OpensWide (gap + 1) words) ∨ (NeedsEncoding w ∧ 1 < gap) := by
  constructor
  · rintro ⟨k, v, rest, hwords, hv, hk⟩
    cases k with
    | zero =>
      obtain ⟨rfl, rfl⟩ := List.cons.inj hwords
      exact .inr ⟨hv, hk⟩
    | succ k =>
      rw [List.replicate_succ, List.cons_append] at hwords
      obtain ⟨rfl, rfl⟩ := List.cons.inj hwords
      exact .inl ⟨rfl, k, v, rest, rfl, hv, by omega⟩
  · rintro (⟨rfl, k, v, rest, rfl, hv, hk⟩ | ⟨hw, hgap⟩)
    · exact ⟨k + 1, v, rest, rfl, hv, by omega⟩
    · exact ⟨0, w, words, rfl, hw, hgap⟩

/-- **Nothing is lost exactly when there is no wide gap.** -/
theorem readBack_eq_iff (gap : Nat) (after : Bool) (words : List (List Char)) :
    readBack gap after words = fullText gap words ↔
      ¬ (WideGapIn words ∨ (after = true ∧ OpensWide gap words)) := by
  induction words generalizing gap after with
  | nil => simp [readBack, fullText, WideGapIn, OpensWide]
  | cons w words ih =>
    rw [wideGapIn_cons, opensWide_cons]
    rcases word_cases w with rfl | ⟨hne, hw⟩ | hw
    · rw [readBack_nil_cons, fullText_nil_cons, ih]
      simp [not_needsEncoding_nil]
    · have hencode : ¬ NeedsEncoding w := by simp [NeedsEncoding, hw]
      rw [readBack_cons hne hw, fullText, List.append_cancel_left_eq, ih]
      simp [hencode, hne]
    · have hne := hw.ne_nil
      rw [readBack_encoded hw, fullText]
      by_cases hdrop : after = true ∧ 1 < gap
      · -- spaces are dropped, so what is read is too short
        have hlength := length_readBack_le 1 true words
        have hshort : [] ++ w ++ readBack 1 true words
            ≠ List.replicate gap ' ' ++ w ++ fullText 1 words := by
          intro h
          have hlengths := congrArg List.length h
          simp only [List.length_append, List.length_nil, List.length_replicate] at hlengths
          omega
        rw [if_pos (by simpa using hdrop)]
        exact iff_of_false hshort (not_not_intro (.inr ⟨hdrop.1, .inr ⟨hw, hdrop.2⟩⟩))
      · rw [if_neg (by simpa using hdrop), List.append_cancel_left_eq, ih]
        have hlost : ¬ (after = true ∧ (w = [] ∧ OpensWide (gap + 1) words ∨
            NeedsEncoding w ∧ 1 < gap)) := by
          rintro ⟨hafter, ⟨hnil, -⟩ | ⟨-, hgap⟩⟩
          · exact hne hnil
          · exact hdrop ⟨hafter, hgap⟩
        rw [or_iff_left hlost, and_iff_right hw, and_iff_right rfl, or_comm]

/-- **The header of a text is read as the text**, unless the text has a wide gap. -/
theorem decodeWords_headerOf (name : String) {s : String} (hmark : ¬ ['=', '?'] <:+: s.toList) :
    decodeWords (unfold (headerOf name s).toList) = s.toList ↔
      ¬ WideGapIn (splitChars ' ' s.toList) := by
  obtain ⟨x, hx, hfolded⟩ := exists_mixed_headerOf name s
  obtain ⟨first, rest, hwords⟩ := Text.exists_splitChars ' ' s.toList
  have hne : splitChars ' ' s.toList ≠ [] := by simp [hwords]
  have hread := decodeWords_eq hx (fun _ hw => Text.not_mem_of_mem_splitChars hw)
    (fun _ hw h => hmark (h.trans (Text.infix_of_mem_splitChars hw))) 0 false (by simp) (by simp)
  have hiff := readBack_eq_iff 0 false (splitChars ' ' s.toList)
  rw [fullText_zero hne, Text.joinWith_splitChars] at hiff
  rw [hfolded.unfold, decodeWords]
  rw [List.replicate_zero] at hread
  rw [hread, hiff]
  simp

/-- In a text without control characters, the words to encode are those that are not ASCII. -/
theorem needsEncoding_iff {w : List Char} (h : ∀ c ∈ w, Text.isControl c = false) :
    NeedsEncoding w ↔ ∃ c ∈ w, 128 ≤ c.toNat := by
  have hchar {c : Char} (hc : Text.isControl c = false) :
      isHeaderChar c = false ↔ 128 ≤ c.toNat := by
    simp only [Text.isControl, isHeaderChar, Bool.or_eq_false_iff, Bool.and_eq_false_iff,
      decide_eq_false_iff_not, beq_eq_false_iff_ne] at hc ⊢
    omega
  rw [NeedsEncoding, List.all_eq_false]
  refine exists_congr fun c => and_congr_right fun hc => ?_
  rw [Bool.not_eq_true, hchar (h c hc)]

/-- Two words with characters outside ASCII, with nothing but two or more spaces between them. -/
def HasWideGap (s : String) : Prop :=
  ∃ w k w', (∃ c ∈ w, 128 ≤ c.toNat) ∧ (∃ c ∈ w', 128 ≤ c.toNat) ∧
    w :: (List.replicate (k + 1) [] ++ [w']) <:+: splitChars ' ' s.toList

theorem wideGapIn_iff {s : String} (h : ∀ c ∈ s.toList, Text.isControl c = false) :
    WideGapIn (splitChars ' ' s.toList) ↔ HasWideGap s := by
  have hword {w : List Char} (hw : w ∈ splitChars ' ' s.toList) :
      NeedsEncoding w ↔ ∃ c ∈ w, 128 ≤ c.toNat :=
    needsEncoding_iff fun c hc => h c ((Text.infix_of_mem_splitChars hw).subset hc)
  refine exists_congr fun w => exists_congr fun k => exists_congr fun w' => ?_
  rw [← and_assoc, ← and_assoc, and_congr_left_iff]
  intro hpart
  rw [hword (hpart.subset (by simp)), hword (hpart.subset (by simp))]

end JobNotice.Mail
