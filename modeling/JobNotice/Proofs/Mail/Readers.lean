import JobNotice.Mail.Mailbox
import Mathlib.Data.List.TakeWhile

/-!
# What the readers of mailboxes have read

One lemma for each reader says what it has found when it has found something, so that no proof about
mailboxes has to open a reader.

## Main results

* `Mail.readQuotedFrom_cases`, `Mail.readWord_cases`, `Mail.readPhrase_eq_some` — words and names
* `Mail.readDotted_eq_some`, `Mail.readAddress_eq_some`, `Mail.readAngled_eq_some` — addresses
* `Mail.readMailbox_cases`, `Mail.ofText_eq_ok` — mailboxes
-/

namespace JobNotice.Mail

variable {s p r w user domain : List Char} {c : Char} {count : ℕ}

/-! ### Words -/

theorem not_mem_takeWhile {q : Char → Bool} (hq : q c = false) (s : List Char) :
    c ∉ s.takeWhile q := by
  intro hc
  rw [List.mem_takeWhile_imp hc] at hq
  cases hq

theorem blanks_append (s : List Char) :
    s.takeWhile isSpaceOrTab ++ (readBlanks s).2 = s :=
  List.takeWhile_append_dropWhile

/-- Between quotation marks comes the mark at the end, or a character that is kept, after blanks and
perhaps a backslash. -/
theorem readQuotedFrom_cases (h : readQuotedFrom (count + 1) s = some (p, r)) :
    (p = [] ∧ s.dropWhile Text.isBlank = '"' :: r) ∨
      ∃ mark c rest more,
        (mark = [] ∧ isQuotedChar c = true ∨ mark = ['\\'] ∧ isPairChar c = true) ∧
        (readBlanks s).2 = mark ++ c :: rest ∧
        readQuotedFrom count rest = some (more, r) ∧ p = (readBlanks s).1 ++ c :: more := by
  have hclosing {rest : List Char} (hs : s.dropWhile Text.isBlank = '"' :: rest)
      (hp : some (([] : List Char), rest) = some (p, r)) :
      p = [] ∧ s.dropWhile Text.isBlank = '"' :: r := by
    obtain ⟨rfl, rfl⟩ := Prod.mk.inj (Option.some.inj hp)
    exact ⟨rfl, hs⟩
  have hchar {c : Char} {rest : List Char}
      (hp : (readQuotedFrom count rest).map (fun q => ((readBlanks s).1 ++ c :: q.1, q.2))
        = some (p, r)) :
      ∃ more, readQuotedFrom count rest = some (more, r) ∧ p = (readBlanks s).1 ++ c :: more := by
    obtain ⟨⟨more, r'⟩, hmore, hpair⟩ := Option.map_eq_some_iff.mp hp
    obtain ⟨rfl, rfl⟩ := Prod.mk.inj hpair
    exact ⟨more, hmore, rfl⟩
  rw [readQuotedFrom.eq_def] at h
  simp only at h
  split at h
  · rename_i c rest hs
    split at h
    · rename_i hc
      obtain ⟨more, hmore, hp⟩ := hchar h
      exact .inr ⟨['\\'], c, rest, more, .inr ⟨rfl, hc⟩, hs, hmore, hp⟩
    · split at h
      · rename_i hmark
        exact .inl (hclosing hmark h)
      · cases h
  · rename_i c rest _ hs
    split at h
    · rename_i hc
      obtain ⟨more, hmore, hp⟩ := hchar h
      exact .inr ⟨[], c, rest, more, .inl ⟨rfl, hc⟩, hs, hmore, hp⟩
    · split at h
      · rename_i hmark
        exact .inl (hclosing hmark h)
      · cases h
  · split at h
    · rename_i hmark
      exact .inl (hclosing hmark h)
    · cases h

theorem exists_of_readQuoted (h : readQuoted s = some (p, r)) :
    ∃ rest, s = '"' :: rest ∧ readQuotedFrom (rest.length + 1) rest = some (p, r) := by
  rw [readQuoted.eq_def] at h
  split at h
  · exact ⟨_, rfl, h⟩
  · cases h

theorem readWord_cases (h : readWord s = some (p, r)) :
    (∃ word, readQuoted (readBlanks s).2 = some (word, r) ∧ p = (readBlanks s).1 ++ word) ∨
      (readBlanks s).2.takeWhile isAtomChar ≠ [] ∧
        p = (readBlanks s).1 ++ (readBlanks s).2.takeWhile isAtomChar ∧
        r = (readBlanks s).2.dropWhile isAtomChar := by
  rw [readWord] at h
  simp only at h
  split at h
  · rename_i word rest hquoted
    obtain ⟨rfl, rfl⟩ := Prod.mk.inj (Option.some.inj h)
    exact .inl ⟨word, hquoted, rfl⟩
  · split at h
    · cases h
    · rename_i hword
      obtain ⟨rfl, rfl⟩ := Prod.mk.inj (Option.some.inj h)
      exact .inr ⟨by simpa using hword, rfl, rfl⟩

/-! ### Names -/

theorem readMoreWords_of_word (h : readWord s = some (w, r)) (count : ℕ) :
    readMoreWords (count + 1) s
      = (w ++ (readMoreWords count r).1, (readMoreWords count r).2) := by
  rw [readMoreWords.eq_def]
  simp only [h]

theorem readMoreWords_of_dot (h : readWord ('.' :: r) = none) (count : ℕ) :
    readMoreWords (count + 1) ('.' :: r)
      = ('.' :: (readMoreWords count r).1, (readMoreWords count r).2) := by
  rw [readMoreWords.eq_def]
  simp only [h]

theorem readMoreWords_of_none (h : readWord s = none) (hdot : s.head? ≠ some '.') (count : ℕ) :
    readMoreWords count s = ([], s) := by
  cases count with
  | zero => rfl
  | succ count =>
    rw [readMoreWords.eq_def]
    simp only [h]
    split
    · exact absurd rfl hdot
    · rfl

theorem readPhrase_eq_some :
    readPhrase s = some (p, r) ↔ ∃ w rest, readWord s = some (w, rest) ∧
      w ++ (readMoreWords rest.length rest).1 = p ∧ (readMoreWords rest.length rest).2 = r := by
  rw [readPhrase, Option.bind_eq_bind, Option.bind_eq_some_iff]
  constructor
  · rintro ⟨⟨w, rest⟩, hword, hpair⟩
    obtain ⟨rfl, rfl⟩ := Prod.mk.inj (Option.some.inj hpair)
    exact ⟨w, rest, hword, rfl, rfl⟩
  · rintro ⟨w, rest, hword, rfl, rfl⟩
    exact ⟨(w, rest), hword, rfl⟩

/-! ### Addresses -/

theorem readMoreAtoms_dot (count : ℕ) (r : List Char) :
    readMoreAtoms (count + 1) ('.' :: r) =
      if (r.takeWhile isAtomChar).isEmpty then ([], '.' :: r)
      else ('.' :: (r.takeWhile isAtomChar ++ (readMoreAtoms count (r.dropWhile isAtomChar)).1),
        (readMoreAtoms count (r.dropWhile isAtomChar)).2) := by
  rfl

theorem readMoreAtoms_of_head (h : s.head? ≠ some '.') (count : ℕ) :
    readMoreAtoms count s = ([], s) := by
  cases count with
  | zero => rfl
  | succ count =>
    rw [readMoreAtoms.eq_def]
    simp only
    split
    · exact absurd rfl h
    · rfl

theorem readDotted_eq_some :
    readDotted s = some (p, r) ↔ ∃ w rest, w = (readBlanks s).2.takeWhile isAtomChar ∧
      rest = (readBlanks s).2.dropWhile isAtomChar ∧ w ≠ [] ∧
      (readBlanks s).1 ++ w ++ (readMoreAtoms (readBlanks s).2.length rest).1 = p ∧
      (readMoreAtoms (readBlanks s).2.length rest).2 = r := by
  rw [readDotted]
  simp only
  constructor
  · intro h
    split at h
    · cases h
    · rename_i hword
      obtain ⟨rfl, rfl⟩ := Prod.mk.inj (Option.some.inj h)
      exact ⟨_, _, rfl, rfl, by simpa using hword, rfl, rfl⟩
  · rintro ⟨w, rest, hw, hrest, hne, rfl, rfl⟩
    subst hrest
    subst hw
    rw [if_neg (by simpa using hne)]

theorem readQuotedWord_eq_some :
    readQuotedWord s = some (p, r) ↔
      ∃ word, readQuoted (readBlanks s).2 = some (word, r) ∧
        (readBlanks s).1 ++ word = p := by
  rw [readQuotedWord, Option.bind_eq_bind, Option.bind_eq_some_iff]
  constructor
  · rintro ⟨⟨word, r'⟩, hquoted, hpair⟩
    obtain ⟨rfl, rfl⟩ := Prod.mk.inj (Option.some.inj hpair)
    exact ⟨word, hquoted, rfl⟩
  · rintro ⟨word, hquoted, rfl⟩
    exact ⟨(word, r), hquoted, rfl⟩

theorem readAddress_eq_some :
    readAddress s = some ((user, domain), r) ↔ ∃ rest,
      (readDotted s = some (user, '@' :: rest) ∨
        readDotted s = none ∧ readQuotedWord s = some (user, '@' :: rest)) ∧
      readDotted rest = some (domain, r) := by
  constructor
  · intro h
    -- the domain after a user
    have hdomain {user' rest : List Char}
        (hrest : (readDotted rest).bind (fun q => some ((user', q.1), q.2))
          = some ((user, domain), r)) : user' = user ∧ readDotted rest = some (domain, r) := by
      obtain ⟨⟨domain', r'⟩, hdotted, hpair⟩ := Option.bind_eq_some_iff.mp hrest
      simp only [Option.some.injEq, Prod.mk.injEq] at hpair
      obtain ⟨⟨rfl, rfl⟩, rfl⟩ := hpair
      exact ⟨rfl, hdotted⟩
    rw [readAddress, Option.bind_eq_bind] at h
    split at h
    · rename_i q huser
      obtain ⟨user', rest⟩ := q
      simp only [Option.bind_some] at h
      split at h
      · obtain ⟨rfl, hrest⟩ := hdomain h
        exact ⟨_, .inl huser, hrest⟩
      · cases h
    · rename_i hnone
      obtain ⟨⟨user', rest⟩, huser, h⟩ := Option.bind_eq_some_iff.mp h
      simp only at h
      split at h
      · obtain ⟨rfl, hrest⟩ := hdomain h
        exact ⟨_, .inr ⟨hnone, huser⟩, hrest⟩
      · cases h
  · rintro ⟨rest, huser | ⟨hnone, huser⟩, hdomain⟩
    · rw [readAddress, huser]
      simp only [hdomain, Option.bind_eq_bind, Option.bind_some]
    · rw [readAddress, hnone, huser]
      simp only [hdomain, Option.bind_eq_bind, Option.bind_some]

theorem readAngled_eq_some {a : List Char × List Char} :
    readAngled s = some (a, r) ↔ ∃ rest rest', s.dropWhile Text.isBlank = '<' :: rest ∧
      readAddress rest = some (a, '>' :: rest') ∧ rest'.dropWhile Text.isBlank = r := by
  constructor
  · intro h
    rw [readAngled] at h
    split at h
    · rename_i rest hrest
      obtain ⟨⟨a', s'⟩, haddress, h⟩ := Option.bind_eq_some_iff.mp h
      simp only at h
      split at h
      · rename_i rest'
        obtain ⟨rfl, rfl⟩ := Prod.mk.inj (Option.some.inj h)
        exact ⟨rest, rest', hrest, haddress, rfl⟩
      · cases h
    · cases h
  · rintro ⟨rest, rest', hrest, haddress, rfl⟩
    rw [readAngled, hrest]
    simp only [haddress, Option.bind_eq_bind, Option.bind_some]

/-! ### Mailboxes -/

theorem eq_of_addressOf {user domain : List Char} {a : Address}
    (h : Address.of user domain = .ok a) : a = ⟨String.ofList user, String.ofList domain⟩ := by
  rw [Address.of] at h
  split at h
  · cases h
  · split at h
    · exact (Except.ok.inj h).symm
    · cases h

/-- A mailbox has a name before angle brackets, or only angle brackets, or only an address. -/
theorem readMailbox_cases {name : Option (List Char)} {a : List Char × List Char}
    (h : readMailbox s = some ((name, a), r)) :
    (∃ p rest, name = some p ∧ readPhrase s = some (p, rest) ∧ readAngled rest = some (a, r)) ∨
      (name = none ∧ readAngled s = some (a, r)) ∨
      (name = none ∧ readAddress s = some (a, r)) := by
  have hmap {read : Option ((List Char × List Char) × List Char)} {found : Option (List Char)}
      (hread : read.map (fun q => ((found, q.1), q.2)) = some ((name, a), r)) :
      name = found ∧ read = some (a, r) := by
    obtain ⟨⟨a', r'⟩, rfl, hpair⟩ := Option.map_eq_some_iff.mp hread
    simp only [Prod.mk.injEq] at hpair
    obtain ⟨⟨rfl, rfl⟩, rfl⟩ := hpair
    exact ⟨rfl, rfl⟩
  rw [readMailbox] at h
  split at h
  · rename_i q hnamed
    rw [h, readNamed] at hnamed
    split at hnamed
    · rename_i p rest hphrase
      obtain ⟨hname, hangled⟩ := hmap hnamed
      exact .inl ⟨p, rest, hname, hphrase, hangled⟩
    · exact .inr (.inl (hmap hnamed))
  · exact .inr (.inr (hmap h))

theorem ofText_eq_ok {text : String} {m : Mailbox} :
    Mailbox.ofText text = .ok m ↔ ∃ name user domain r a,
      readMailbox (text.toList.dropWhile Text.isBlank) = some ((name, user, domain), r) ∧
        r.all Text.isBlank = true ∧ Address.of user domain = .ok a ∧
        m = ⟨name.map String.ofList, a⟩ := by
  constructor
  · intro h
    rw [Mailbox.ofText] at h
    split at h
    · rename_i name user domain r hread
      split at h
      · rename_i hblank
        cases haddress : Address.of user domain with
        | error why => rw [haddress] at h; cases h
        | ok a =>
          rw [haddress] at h
          exact ⟨name, user, domain, r, a, hread, hblank, haddress, (Except.ok.inj h).symm⟩
      · cases h
    · cases h
  · rintro ⟨name, user, domain, r, a, hread, hblank, haddress, rfl⟩
    rw [Mailbox.ofText, hread]
    simp only
    rw [if_pos hblank, haddress]
    rfl

/-- A text of which something is always left is no mailbox. -/
theorem ofText_eq_badText {text : String}
    (h : ∀ m r, readMailbox (text.toList.dropWhile Text.isBlank) = some (m, r) →
      r.all Text.isBlank = false) : Mailbox.ofText text = .error .badText := by
  rw [Mailbox.ofText]
  split
  · rename_i hread
    rw [if_neg (by simpa using h _ _ hread)]
  · rfl

end JobNotice.Mail
