import JobNotice.Proofs.Mail.Base64
import JobNotice.Proofs.Mail.Folding
import JobNotice.Proofs.Text.Utf8

/-!
# Encoded words in headers

The words of a text that may stand in a header are written as they are. Each run of other words
becomes encoded words with one space between each two: an encoded word takes as many characters as
fit its line, so the next character does not fit behind it, and a new line is begun with a space.

## Main definitions

* `Mail.Encoded` — a text and encoded words that stand for it
* `Mail.Mixed` — the words of a text and how they are written

## Main results

* `Mail.HeaderText.Shows.putEncoded` — encoded words are written for a text
* `Mail.exists_mixed_headerOf` — the header of a text is folded and shows its words
-/

namespace JobNotice.Mail

open Text (splitChars joinWith utf8Length utf8Bytes)

/-! ### Encoded words -/

/-- The mark before the base64 of an encoded word. -/
def opening : List Char := ['=', '?', 'u', 't', 'f', '-', '8', '?', 'b', '?']

/-- The mark after it. -/
def closing : List Char := ['?', '=']

theorem encodedWord_eq (s : List Char) :
    HeaderText.encodedWord s = opening ++ (Base64.encode (utf8Bytes s) ++ closing) := by
  have hopening : "=?utf-8?b?".toList = opening := by decide
  have hclosing : "?=".toList = closing := by decide
  unfold HeaderText.encodedWord
  rw [hopening, hclosing, List.append_assoc]

/-- The characters of encoded words: those of base64 and of the marks around it. -/
def isEncodedChar (c : Char) : Bool := Base64.isDigit c || opening.contains c

theorem isEncodedChar_of_mem {s : List Char} {c : Char} (h : c ∈ HeaderText.encodedWord s) :
    isEncodedChar c = true := by
  have hopening : ∀ d ∈ opening, isEncodedChar d = true := List.all_eq_true.mp (by decide)
  have hclosing : ∀ d ∈ closing, isEncodedChar d = true := List.all_eq_true.mp (by decide)
  rw [encodedWord_eq, List.mem_append, List.mem_append] at h
  rcases h with h | h | h
  · exact hopening c h
  · rw [isEncodedChar, Base64.isDigit_of_mem_encode h, Bool.true_or]
  · exact hclosing c h

theorem clean_encodedWord (s : List Char) : Clean (HeaderText.encodedWord s) :=
  Clean.of_mem (fun _ h => isEncodedChar_of_mem h) (by decide) (by decide)

theorem not_mem_encodedWord (s : List Char) : ' ' ∉ HeaderText.encodedWord s := by
  intro h
  exact Text.ne_of_test (isEncodedChar_of_mem h) (by decide) rfl

theorem utf8Length_encodedWord (s : List Char) :
    utf8Length (HeaderText.encodedWord s) = 12 + 4 * ((utf8Length s + 2) / 3) := by
  have hdigits : utf8Length (Base64.encode (utf8Bytes s)) = 4 * ((utf8Length s + 2) / 3) := by
    rw [Text.utf8Length_ascii fun c hc =>
      Base64.toNat_lt_of_isDigit (Base64.isDigit_of_mem_encode hc), Base64.length_encode,
      Text.length_utf8Bytes]
  have hopening : utf8Length opening = 10 := by decide
  have hclosing : utf8Length closing = 2 := by decide
  rw [encodedWord_eq, Text.utf8Length_append, Text.utf8Length_append, hdigits, hopening, hclosing]
  omega

/-- A text and encoded words, with one space between each two, that stand for its parts. -/
inductive Encoded : List Char → List Char → Prop
  | last (s : List Char) : Encoded s (HeaderText.encodedWord s)
  | more (s : List Char) {t e : List Char} :
    Encoded t e → Encoded (s ++ t) (HeaderText.encodedWord s ++ ' ' :: e)

/-! ### Chunks -/

namespace HeaderText

/-- The first characters of a text are all that fit. -/
theorem takeBytes_append (count : Nat) (s : List Char) :
    ∃ rest, takeBytes count s ++ rest = s ∧
      ∀ c r, rest = c :: r → count < utf8Length (takeBytes count s) + c.utf8Size := by
  induction s generalizing count with
  | nil => exact ⟨[], rfl, fun _ _ h => by cases h⟩
  | cons c s ih =>
    rw [takeBytes]
    split
    · rename_i hfits
      obtain ⟨rest, hrest, hnext⟩ := ih (count - c.utf8Size)
      refine ⟨rest, by rw [List.cons_append, hrest], fun d r hd => ?_⟩
      have hd := hnext d r hd
      rw [utf8Length]
      omega
    · refine ⟨c :: s, rfl, fun d r hd => ?_⟩
      obtain ⟨rfl, rfl⟩ := List.cons.inj hd
      rw [utf8Length]
      omega

/-- The characters that an encoded word on the last line stands for. -/
def chunk (h : HeaderText) (c : Char) (r : List Char) : List Char :=
  match takeBytes h.roomForEncoded (c :: r) with
  | [] => [c]
  | chunk => chunk

theorem putChunk_eq (h : HeaderText) (follows : Bool) (c : Char) (r : List Char) :
    h.putChunk follows c r =
      let line :=
        if h.roomForEncoded < c.utf8Size ∧ (follows ∨ h.spaces ≠ 0) then
          if h.spaces = 0 then h.newLine.space else h.newLine
        else h
      (line.put (encodedWord (line.chunk c r)), (c :: r).drop (line.chunk c r).length) := by
  unfold putChunk
  split <;> rfl

/-- No character fits behind an encoded word. -/
theorem roomForEncoded_put_lt (h : HeaderText) {s : List Char} {size : Nat} (hsize : size ≤ 4)
    (hpos : 1 ≤ size)
    (hs : h.roomForEncoded < utf8Length s + size) :
    (h.put (encodedWord s)).roomForEncoded < size := by
  unfold roomForEncoded at hs ⊢
  simp only [put, utf8Length_encodedWord, headerLimit] at hs ⊢
  omega

/-- A chunk begins the text and is followed by a character that does not fit behind it. -/
theorem exists_chunk (h : HeaderText) (c : Char) (r : List Char) :
    ∃ rest, h.chunk c r ++ rest = c :: r ∧ h.chunk c r ≠ [] ∧
      ∀ d t, rest = d :: t →
        (h.put (encodedWord (h.chunk c r))).roomForEncoded < d.utf8Size := by
  obtain ⟨rest, hrest, hnext⟩ := takeBytes_append h.roomForEncoded (c :: r)
  unfold chunk
  split
  · -- no character fits, and the first one is taken nevertheless
    rename_i hnone
    rw [hnone, List.nil_append] at hrest
    rw [hnone] at hnext
    have hfirst := hnext c r hrest
    refine ⟨r, rfl, List.cons_ne_nil c [], fun d t hd => ?_⟩
    have hc := Text.utf8Size_bounds c
    have hd := Text.utf8Size_bounds d
    refine roomForEncoded_put_lt h hd.2 hd.1 ?_
    simp only [utf8Length] at hfirst ⊢
    omega
  · rename_i hne
    refine ⟨rest, hrest, hne, fun d t hd => ?_⟩
    have hsize := Text.utf8Size_bounds d
    exact roomForEncoded_put_lt h hsize.2 hsize.1 (hnext d t hd)

namespace Shows

variable {h : HeaderText} {u s : List Char}

/-- The line on which an encoded word goes: a new one with a space when it follows another encoded
word. -/
theorem exists_line {follows : Bool} {c : Char} (r : List Char) (hu : h.Shows u)
    (hfollows : follows = true → h.spaces = 0 ∧ h.roomForEncoded < c.utf8Size) :
    ∃ line : HeaderText, h.putChunk follows c r
        = (line.put (encodedWord (line.chunk c r)), (c :: r).drop (line.chunk c r).length) ∧
      ∀ s, Clean s → (line.put s).Shows (u ++ ((if follows then [' '] else []) ++ s)) := by
  have heq := putChunk_eq h follows c r
  simp only at heq
  refine ⟨_, heq, fun s hs => ?_⟩
  split
  · rename_i hfull
    split
    · rename_i hspaces
      have hfollow : follows = true := hfull.2.resolve_right fun hne => hne hspaces
      rw [if_pos hfollow, ← List.append_assoc]
      exact hu.space.newLine_put (by simp [HeaderText.space]) hs
    · rename_i hspaces
      have hfollow : ¬ follows = true := fun hf => hspaces (hfollows hf).1
      rw [if_neg hfollow, List.nil_append]
      exact hu.newLine_put hspaces hs
  · rename_i hfits
    have hfollow : ¬ follows = true := fun hf => hfits ⟨(hfollows hf).2, .inl hf⟩
    rw [if_neg hfollow, List.nil_append]
    exact hu.put hs

/-- **An encoded word is written for the first characters of a text**, and the next one does not fit
behind it. -/
theorem putChunk {follows : Bool} {c : Char} {r : List Char} (hu : h.Shows u)
    (hfollows : follows = true → h.spaces = 0 ∧ h.roomForEncoded < c.utf8Size) :
    ∃ chunk rest, chunk ++ rest = c :: r ∧ chunk ≠ [] ∧ (h.putChunk follows c r).2 = rest ∧
      (h.putChunk follows c r).1.Shows
        (u ++ ((if follows then [' '] else []) ++ encodedWord chunk)) ∧
      (h.putChunk follows c r).1.spaces = 0 ∧
      ∀ d t, rest = d :: t → (h.putChunk follows c r).1.roomForEncoded < d.utf8Size := by
  obtain ⟨line, heq, hshows⟩ := hu.exists_line r hfollows
  obtain ⟨rest, hrest, hne, hnext⟩ := exists_chunk line c r
  rw [heq]
  refine ⟨line.chunk c r, rest, hrest, hne, ?_, hshows _ (clean_encodedWord _), rfl, hnext⟩
  rw [← hrest, List.drop_left]

theorem putEncodedFrom {count : Nat} {follows : Bool} (hu : h.Shows u) (hne : s ≠ [])
    (hcount : s.length ≤ count) (hfollows : follows = true → h.spaces = 0 ∧
      ∀ c r, s = c :: r → h.roomForEncoded < c.utf8Size) :
    ∃ e, Encoded s e ∧
      (putEncodedFrom count follows h s).Shows (u ++ ((if follows then [' '] else []) ++ e)) := by
  induction count generalizing h u s follows with
  | zero => exact absurd (List.eq_nil_of_length_eq_zero (by omega)) hne
  | succ count ih =>
    cases s with
    | nil => exact absurd rfl hne
    | cons c r =>
      obtain ⟨chunk, rest, hrest, hchunk, hsnd, hshows, hspaces, hnext⟩ :=
        hu.putChunk (r := r) fun hf => ⟨(hfollows hf).1, (hfollows hf).2 c r rfl⟩
      rw [HeaderText.putEncodedFrom]
      simp only [hsnd]
      rw [← hrest]
      cases rest with
      | nil =>
        refine ⟨encodedWord chunk, ?_, ?_⟩
        · rw [List.append_nil]
          exact .last chunk
        · have hend : HeaderText.putEncodedFrom count true (h.putChunk follows c r).1 []
              = (h.putChunk follows c r).1 := by cases count <;> rfl
          rwa [hend]
      | cons d t =>
        have hlength : (d :: t).length ≤ count := by
          have hpos := List.length_pos_iff.mpr hchunk
          have htotal := congrArg List.length hrest
          rw [List.length_append] at htotal
          omega
        obtain ⟨e, he, hall⟩ := ih hshows (List.cons_ne_nil d t) hlength fun _ =>
          ⟨hspaces, hnext⟩
        refine ⟨encodedWord chunk ++ ' ' :: e, .more chunk he, ?_⟩
        rw [if_pos (rfl : true = true)] at hall
        simpa only [List.append_assoc, List.singleton_append] using hall

/-- **A text is written as encoded words.** -/
theorem putEncoded (hu : h.Shows u) (hne : s ≠ []) :
    ∃ e, Encoded s e ∧ (h.putEncoded s).Shows (u ++ e) :=
  hu.putEncodedFrom hne (Nat.le_refl _) fun hf => absurd hf (by decide)

end Shows

end HeaderText

/-! ### Runs of words -/

/-- A word that is to be encoded. -/
def NeedsEncoding (w : List Char) : Prop := w.all isHeaderChar = false

theorem NeedsEncoding.ne_nil {w : List Char} (h : NeedsEncoding w) : w ≠ [] := by
  rintro rfl
  cases h

theorem isHeaderChar_space : isHeaderChar ' ' = true := by decide

theorem all_isHeaderChar_append_space (w : List Char) :
    (w ++ [' ']).all isHeaderChar = w.all isHeaderChar := by
  simp [isHeaderChar_space]

theorem clean_of_isHeaderChar {w : List Char} (h : w.all isHeaderChar = true) : Clean w :=
  Clean.of_mem (List.all_eq_true.mp h) (by decide) (by decide)

/-- The words of a text and how they are written: words that may stand in a header as they are, and
each run of other words, up to the next word that may stand there, as encoded words. -/
inductive Mixed : List (List Char) → List Char → Prop
  | plainLast {w : List Char} : w.all isHeaderChar = true → Mixed [w] w
  | plain {w x : List Char} {words : List (List Char)} :
    w.all isHeaderChar = true → Mixed words x → Mixed (w :: words) (w ++ ' ' :: x)
  | runLast {run : List (List Char)} {e : List Char} : run ≠ [] → (∀ w ∈ run, NeedsEncoding w) →
    Encoded (joinWith [' '] run) e → Mixed run e
  | run {run words : List (List Char)} {e w x : List Char} : run ≠ [] →
    (∀ w ∈ run, NeedsEncoding w) → Encoded (joinWith [' '] run) e → w.all isHeaderChar = true →
    Mixed (w :: words) x → Mixed (run ++ w :: words) (e ++ ' ' :: x)

namespace HeaderText.Shows

variable {h : HeaderText} {u : List Char} {run : List (List Char)}

/-- **A run of words that waits is written as encoded words**, and the spaces after it wait. -/
theorem flush_run {last : List Char} (run : List (List Char)) (hu : h.Shows u)
    (hlast : NeedsEncoding last) (hspace : ' ' ∉ last) (n : Nat) :
    ∃ e, Encoded (joinWith [' '] (run ++ [last])) e ∧
      (flush h (run.flatMap (· ++ [' ']) ++ last ++ List.replicate n ' ')).Shows
        (u ++ (e ++ List.replicate n ' ')) := by
  have hword : ∀ c ∈ last, decide (c = ' ') = false := fun c hc => by
    rw [decide_eq_false_iff_not]
    rintro rfl
    exact hspace hc
  have hdrop : Text.dropEndWhile (· = ' ')
      (run.flatMap (· ++ [' ']) ++ last ++ List.replicate n ' ')
        = run.flatMap (· ++ [' ']) ++ last := by
    induction n with
    | zero =>
      rw [List.replicate_zero, List.append_nil]
      exact Text.dropEndWhile_append_of_neg hlast.ne_nil hword _
    | succ n ih =>
      rw [List.replicate_succ', ← List.append_assoc, Text.dropEndWhile_append_of_pos (by simp), ih]
  have hne : run.flatMap (· ++ [' ']) ++ last ≠ [] := by simp [hlast.ne_nil]
  obtain ⟨e, he, hshows⟩ := hu.putEncoded hne
  refine ⟨e, by rwa [Text.joinWith_concat], ?_⟩
  have hspaces := hshows.addSpaces n
  rw [List.append_assoc] at hspaces
  have hlength (s : List Char) : (s ++ List.replicate n ' ').length - s.length = n := by simp
  unfold Mail.flush
  simp only [hdrop, hlength]
  exact hspaces

theorem flush_nil (h : HeaderText) : Mail.flush h [] = h := rfl

/-- The run that waits before a word that may stand in a header. -/
theorem flush_before (hu : h.Shows u) (hrun : ∀ w ∈ run, NeedsEncoding w ∧ ' ' ∉ w) :
    ∃ before, (flush h (run.flatMap (· ++ [' ']))).Shows (u ++ before) ∧
      ∀ w words x, w.all isHeaderChar = true → Mixed (w :: words) x →
        Mixed (run ++ w :: words) (before ++ x) := by
  rcases List.eq_nil_or_concat' run with rfl | ⟨init, last, rfl⟩
  · refine ⟨[], ?_, fun _ _ _ _ hx => hx⟩
    rw [List.flatMap_nil, flush_nil, List.append_nil]
    exact hu
  · obtain ⟨hlast, hspace⟩ := hrun last (by simp)
    obtain ⟨e, he, hshows⟩ := hu.flush_run init hlast hspace 1
    refine ⟨e ++ [' '], ?_, fun w words x hw hx => ?_⟩
    · simpa using hshows
    · have hmixed := Mixed.run (by simp) (fun v hv => (hrun v hv).1) he hw hx
      simpa using hmixed

/-- **Words are written as they are or as encoded words.** -/
theorem putMixed {words : List (List Char)} (run : List (List Char)) (hu : h.Shows u)
    (hrun : ∀ w ∈ run, NeedsEncoding w ∧ ' ' ∉ w) (hne : words ≠ [])
    (hwords : ∀ w ∈ words, ' ' ∉ w) :
    ∃ x, Mixed (run ++ words) x ∧
      (putMixed h (run.flatMap (· ++ [' '])) (spacedWords words)).Shows (u ++ x) := by
  induction words generalizing h u run with
  | nil => exact absurd rfl hne
  | cons w words ih =>
    have hspace := hwords w (List.mem_cons_self ..)
    cases words with
    | nil =>
      by_cases hplain : w.all isHeaderChar = true
      · obtain ⟨before, hshows, hmixed⟩ := hu.flush_before hrun
        refine ⟨before ++ w, hmixed w [] w hplain (.plainLast hplain), ?_⟩
        cases w with
        | nil => simpa [spacedWords, Mail.putMixed] using hshows
        | cons c w =>
          have hword := hshows.putWords (clean_of_isHeaderChar hplain)
          rw [List.append_assoc] at hword
          rw [spacedWords, if_neg (by simp), Mail.putMixed, if_pos hplain, Mail.putMixed, flush_nil]
          exact hword
      · have hencode : NeedsEncoding w := by simpa [NeedsEncoding] using hplain
        obtain ⟨e, he, hshows⟩ := hu.flush_run run hencode hspace 0
        refine ⟨e, .runLast (by simp) (fun v hv => ?_) he, ?_⟩
        · rcases List.mem_append.mp hv with hv | hv
          · exact (hrun v hv).1
          · rwa [List.mem_singleton.mp hv]
        · rw [spacedWords, if_neg (by simp [hencode.ne_nil]), Mail.putMixed, if_neg hplain,
            Mail.putMixed]
          simpa using hshows
    | cons v words =>
      have hrest : ∀ w ∈ v :: words, ' ' ∉ w := fun x hx => hwords x (List.mem_cons_of_mem w hx)
      rw [spacedWords, Mail.putMixed, all_isHeaderChar_append_space]
      · by_cases hplain : w.all isHeaderChar = true
        · rw [if_pos hplain]
          obtain ⟨before, hshows, hmixed⟩ := hu.flush_before hrun
          have hword := hshows.putWords (s := w ++ [' '])
            ((clean_of_isHeaderChar hplain).append (Clean.spaces 1))
          obtain ⟨x, hx, hall⟩ := ih [] hword (by simp) (List.cons_ne_nil v words) hrest
          refine ⟨before ++ (w ++ ' ' :: x), hmixed w _ _ hplain (.plain hplain hx), ?_⟩
          simpa using hall
        · rw [if_neg hplain]
          have hencode : NeedsEncoding w := by simpa [NeedsEncoding] using hplain
          have hrun' : ∀ x ∈ run ++ [w], NeedsEncoding x ∧ ' ' ∉ x := by
            intro x hx
            rcases List.mem_append.mp hx with hx | hx
            · exact hrun x hx
            · rw [List.mem_singleton.mp hx]
              exact ⟨hencode, hspace⟩
          obtain ⟨x, hx, hall⟩ := ih (run ++ [w]) hu hrun' (List.cons_ne_nil v words) hrest
          refine ⟨x, by simpa using hx, ?_⟩
          simpa using hall
      · simp

end HeaderText.Shows

/-- **The header of a text is folded**, and unfolded it shows the words of the text, as they are or
as encoded words. -/
theorem exists_mixed_headerOf (name s : String) :
    ∃ x, Mixed (splitChars ' ' s.toList) x ∧ Folded (headerOf name s).toList x := by
  obtain ⟨first, rest, hwords⟩ := Text.exists_splitChars ' ' s.toList
  have hspace : ∀ w ∈ splitChars ' ' s.toList, ' ' ∉ w :=
    fun w hw => Text.not_mem_of_mem_splitChars hw
  obtain ⟨x, hx, hshows⟩ := (HeaderText.Shows.start name).putMixed [] (by simp) (by simp [hwords])
    hspace
  refine ⟨x, hx, ?_⟩
  rw [headerOf, String.toList_ofList]
  exact hshows.finish

end JobNotice.Mail
