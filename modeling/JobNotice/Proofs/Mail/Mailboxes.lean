import JobNotice.Proofs.Mail.EncodedWords
import JobNotice.Proofs.Mail.Readers

/-!
# Mailboxes in headers

Every part of an address has been read from characters that end no line, and a name is either made
of such characters or written as encoded words. So the header of a mailbox that has been read from a
text is folded, whatever the text.

## Main results

* `Mail.clean_of_readMailbox` — the parts of an address end no line
* `Mail.exists_folded_header` — the header of a mailbox that has been read is folded
-/

namespace JobNotice.Mail

variable {s p r : List Char}

/-! ### Reading addresses -/

theorem clean_takeWhile {q : Char → Bool} (hreturn : q '\r' = false) (hfeed : q '\n' = false)
    (s : List Char) : Clean (s.takeWhile q) :=
  Clean.of_mem (List.all_eq_true.mp List.all_takeWhile) hreturn hfeed

theorem clean_singleton {q : Char → Bool} {c : Char} (hc : q c = true) (hreturn : q '\r' = false)
    (hfeed : q '\n' = false) : Clean [c] :=
  Clean.of_mem (fun d hd => by rwa [List.mem_singleton.mp hd]) hreturn hfeed

theorem clean_readBlanks (s : List Char) : Clean (readBlanks s).1 :=
  (clean_takeWhile (by decide) (by decide) s).of_isInfix (List.take_prefix 1 _).isInfix

theorem clean_atoms (s : List Char) : Clean (s.takeWhile isAtomChar) :=
  clean_takeWhile (by decide) (by decide) s

theorem clean_readMoreAtoms (count : Nat) (s : List Char) : Clean (readMoreAtoms count s).1 := by
  induction count generalizing s with
  | zero => exact Clean.nil
  | succ count ih =>
    by_cases hdot : s.head? = some '.'
    · obtain ⟨s, rfl⟩ := List.head?_eq_some_iff.mp hdot
      rw [readMoreAtoms_dot]
      split
      · exact Clean.nil
      · have hmark : Clean ['.'] := ⟨by decide, by decide⟩
        exact hmark.append ((clean_atoms s).append (ih _))
    · rw [readMoreAtoms_of_head hdot]
      exact Clean.nil

theorem clean_readDotted (h : readDotted s = some (p, r)) : Clean p := by
  obtain ⟨w, rest, rfl, -, -, rfl, -⟩ := readDotted_eq_some.mp h
  exact ((clean_readBlanks s).append (clean_atoms _)).append (clean_readMoreAtoms _ _)

/-- A quoted text is made of characters that may stand between the marks. -/
theorem clean_readQuotedFrom {count : Nat} (h : readQuotedFrom count s = some (p, r)) :
    Clean p := by
  induction count generalizing s p r with
  | zero => cases h
  | succ count ih =>
    rcases readQuotedFrom_cases h with ⟨rfl, -⟩ | ⟨mark, c, rest, more, hmark, -, hmore, rfl⟩
    · exact Clean.nil
    · have hc : Clean [c] := by
        rcases hmark with ⟨-, hc⟩ | ⟨-, hc⟩
        · exact clean_singleton hc (by decide) (by decide)
        · exact clean_singleton hc (by decide) (by decide)
      exact (clean_readBlanks s).append (hc.append (ih hmore))

theorem clean_readQuotedWord (h : readQuotedWord s = some (p, r)) : Clean p := by
  obtain ⟨word, hquoted, rfl⟩ := readQuotedWord_eq_some.mp h
  obtain ⟨rest, -, hword⟩ := exists_of_readQuoted hquoted
  exact (clean_readBlanks s).append (clean_readQuotedFrom hword)

/-- The user and the domain of an address end no line. -/
theorem clean_readAddress {user domain : List Char}
    (h : readAddress s = some ((user, domain), r)) : Clean user ∧ Clean domain := by
  obtain ⟨rest, huser, hdomain⟩ := readAddress_eq_some.mp h
  refine ⟨?_, clean_readDotted hdomain⟩
  rcases huser with huser | ⟨-, huser⟩
  · exact clean_readDotted huser
  · exact clean_readQuotedWord huser

theorem clean_readAngled {user domain : List Char}
    (h : readAngled s = some ((user, domain), r)) : Clean user ∧ Clean domain := by
  obtain ⟨rest, rest', -, haddress, -⟩ := readAngled_eq_some.mp h
  exact clean_readAddress haddress

/-- **The parts of an address that has been read end no line.** -/
theorem clean_of_readMailbox {name : Option (List Char)} {user domain : List Char}
    (h : readMailbox s = some ((name, user, domain), r)) : Clean user ∧ Clean domain := by
  rcases readMailbox_cases h with ⟨p, rest, -, -, hangled⟩ | ⟨-, hangled⟩ | ⟨-, haddress⟩
  · exact clean_readAngled hangled
  · exact clean_readAngled hangled
  · exact clean_readAddress haddress

theorem clean_text_of_ofText {text : String} {m : Mailbox} (h : Mailbox.ofText text = .ok m) :
    Clean m.address.text.toList := by
  obtain ⟨name, user, domain, r, a, hread, -, haddress, rfl⟩ := ofText_eq_ok.mp h
  obtain ⟨huser, hdomain⟩ := clean_of_readMailbox hread
  have hat : Clean "@".toList := ⟨by decide, by decide⟩
  simp only [eq_of_addressOf haddress, Address.text, String.toList_append, String.toList_ofList]
  exact (huser.append hat).append hdomain

/-! ### Writing names -/

namespace HeaderText.Shows

variable {h : HeaderText} {u : List Char}

theorem putChar {c : Char} (hu : h.Shows u) (hc : Clean [c]) : (h.putChar c).Shows (u ++ [c]) := by
  unfold HeaderText.putChar
  split
  · rename_i hspace
    rw [hspace]
    exact hu.space
  · exact hu.putWord hc

/-- Quotation marks and backslashes of a name stand after backslashes. -/
theorem putEscaped {name : List Char} (hu : h.Shows u) (hname : Clean name) :
    ∃ v, (name.foldl (fun h c =>
      (if c = '"' ∨ c = '\\' then h.putChar '\\' else h).putChar c) h).Shows v := by
  induction name generalizing h u with
  | nil => exact ⟨u, hu⟩
  | cons c name ih =>
    have hc : Clean [c] := hname.of_isInfix (List.prefix_append [c] name).isInfix
    have hrest : Clean name := hname.of_isInfix (List.suffix_cons c name).isInfix
    rw [List.foldl_cons]
    split
    · exact ih ((hu.putChar ⟨by decide, by decide⟩).putChar hc) hrest
    · exact ih (hu.putChar hc) hrest

/-- **A name is written as text in folded lines.** -/
theorem putName (hu : h.Shows u) (name : List Char) : ∃ v, (h.putName name).Shows v := by
  have hmark : Clean ['"'] := ⟨by decide, by decide⟩
  unfold HeaderText.putName
  cases hstyle : nameStyle name with
  | plain =>
    have hname : name.all Char.isAlphanum = true := by
      unfold nameStyle at hstyle
      split_ifs at hstyle with hname
      exact hname
    exact ⟨_, hu.putWords (Clean.of_mem (List.all_eq_true.mp hname) (by decide) (by decide))⟩
  | quoted =>
    have hname : (name.all fun c => c.isAlphanum || c = ' ' || c = '.') = true := by
      unfold nameStyle at hstyle
      split_ifs at hstyle with _ hname
      exact hname
    have hclean := Clean.of_mem (List.all_eq_true.mp hname) (by decide) (by decide)
    exact ⟨_, ((hu.put hmark).putWords hclean).put hmark⟩
  | escaped =>
    have hname : (name.all fun c => c.isAlphanum || c = ' ' || c = '.' || c = '"' || c = '\\')
        = true := by
      unfold nameStyle at hstyle
      split_ifs at hstyle with _ _ hname
      exact hname
    have hclean := Clean.of_mem (List.all_eq_true.mp hname) (by decide) (by decide)
    obtain ⟨v, hv⟩ := (hu.put hmark).putEscaped hclean
    exact ⟨_, hv.put hmark⟩
  | encoded =>
    have hne : name ≠ [] := by
      rintro rfl
      cases hstyle
    obtain ⟨e, -, he⟩ := hu.putEncoded hne
    exact ⟨_, he⟩

end HeaderText.Shows

/-- **The header of a mailbox that has been read is folded.** -/
theorem exists_folded_header {text : String} {m : Mailbox} (h : Mailbox.ofText text = .ok m)
    (field : String) : ∃ u, Folded (m.header field).toList u := by
  have haddress := clean_text_of_ofText h
  have hstart := HeaderText.Shows.start field
  rw [Mailbox.header, String.toList_ofList]
  cases m.name with
  | none => exact ⟨_, (hstart.put haddress).finish⟩
  | some name =>
    obtain ⟨v, hname⟩ := hstart.putName name.toList
    have hopen : Clean ['<'] := ⟨by decide, by decide⟩
    have hclose : Clean ['>'] := ⟨by decide, by decide⟩
    exact ⟨_, (((hname.space.put hopen).put haddress).put hclose).finish⟩

end JobNotice.Mail
