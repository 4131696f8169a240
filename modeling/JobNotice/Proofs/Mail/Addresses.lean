import JobNotice.Proofs.Mail.Phrases

/-!
# Addresses in angle brackets

An address that a text consists of is read in the same way between angle brackets: what is read of
it is plain words, dots and an `@`, and none of these goes on over a closing bracket. Nor do they
reach over an opening one.

## Main results

* `Mail.mem_of_readAngled` — an address does not reach over an angle bracket
* `Mail.readAngled_of_ofText` — an address that is accepted as it stands, in angle brackets
-/

namespace JobNotice.Mail

variable {s t u x p r user domain : List Char} {c : Char} {j count : ℕ}

/-! ### What is read of an address -/

/-- Words between dots are read as they are, and no angle bracket is among them. -/
theorem readMoreAtoms_append (count : ℕ) (s : List Char) :
    (readMoreAtoms count s).1 ++ (readMoreAtoms count s).2 = s ∧
      '<' ∉ (readMoreAtoms count s).1 := by
  induction count generalizing s with
  | zero => exact ⟨rfl, by simp [readMoreAtoms]⟩
  | succ count ih =>
    by_cases hdot : s.head? = some '.'
    · obtain ⟨s, rfl⟩ := List.head?_eq_some_iff.mp hdot
      rw [readMoreAtoms_dot]
      split
      · exact ⟨rfl, by simp⟩
      · obtain ⟨happend, hangle⟩ := ih (s.dropWhile isAtomChar)
        constructor
        · simp only [List.cons_append, List.append_assoc]
          rw [happend, List.takeWhile_append_dropWhile]
        · have hword := not_mem_takeWhile (q := isAtomChar) (c := '<') (by decide) s
          simp [hword, hangle]
    · rw [readMoreAtoms_of_head hdot]
      exact ⟨rfl, by simp⟩

/-- Of plain words between dots only blanks are left out. -/
theorem exists_of_readDotted (h : readDotted s = some (p, r)) :
    ∃ v, s = v ++ r ∧ p.length ≤ v.length ∧ '<' ∉ v := by
  obtain ⟨w, rest, hw, hrest, -, rfl, rfl⟩ := readDotted_eq_some.mp h
  have hword : w ++ rest = (readBlanks s).2 := by
    rw [hw, hrest, List.takeWhile_append_dropWhile]
  obtain ⟨happend, hangle⟩ := readMoreAtoms_append (readBlanks s).2.length rest
  refine ⟨s.takeWhile isSpaceOrTab ++ (w ++ (readMoreAtoms (readBlanks s).2.length rest).1),
    ?_, ?_, ?_⟩
  · rw [List.append_assoc, List.append_assoc, happend, hword, blanks_append]
  · have := Kept.length_readBlanks_le s
    simp only [List.length_append]
    omega
  · have hblanks := not_mem_takeWhile (q := isSpaceOrTab) (c := '<') (by decide) s
    have hatoms := not_mem_takeWhile (q := isAtomChar) (c := '<') (by decide) (readBlanks s).2
    rw [← hw] at hatoms
    simp [hblanks, hatoms, hangle]

/-- The quotation marks around a word are left out. -/
theorem exists_of_readQuotedWord (h : readQuotedWord s = some (p, r)) :
    ∃ v, s = v ++ r ∧ p.length < v.length ∧ '"' ∈ (readBlanks s).2.head? := by
  obtain ⟨word, hquoted, rfl⟩ := readQuotedWord_eq_some.mp h
  obtain ⟨v, hv, hquote, hkept⟩ := kept_of_readQuoted hquoted
  refine ⟨s.takeWhile isSpaceOrTab ++ v, ?_, ?_, ?_⟩
  · rw [List.append_assoc, ← hv, blanks_append]
  · have := hkept.length_lt hquote
    have := Kept.length_readBlanks_le s
    simp only [List.length_append]
    omega
  · obtain ⟨rest, hrest, -⟩ := exists_of_readQuoted hquoted
    rw [hrest]
    rfl

/-- A text is at least as long as the address read from it; longer, if the user is quoted. -/
theorem length_of_readAddress (h : readAddress s = some ((user, domain), r)) :
    user.length + domain.length + r.length + 1 ≤ s.length ∧
      (user.length + domain.length + r.length + 1 = s.length → ∃ rest,
        readDotted s = some (user, '@' :: rest) ∧ readDotted rest = some (domain, r)) := by
  obtain ⟨rest, huser, hdomain⟩ := readAddress_eq_some.mp h
  obtain ⟨v', rfl, hlength', -⟩ := exists_of_readDotted hdomain
  rcases huser with huser | ⟨-, huser⟩
  · obtain ⟨v, rfl, hlength, -⟩ := exists_of_readDotted huser
    refine ⟨?_, fun _ => ⟨_, huser, hdomain⟩⟩
    simp only [List.length_append, List.length_cons]
    omega
  · obtain ⟨v, rfl, hlength, -⟩ := exists_of_readQuotedWord huser
    constructor
    · simp only [List.length_append, List.length_cons]
      omega
    · intro heq
      simp only [List.length_append, List.length_cons] at heq
      omega

/-! ### Before an angle bracket -/

/-- An address does not reach over an angle bracket that stands before all quotation marks. -/
theorem mem_of_readAddress (hx : '"' ∉ x)
    (h : readAddress (x ++ '<' :: t) = some ((user, domain), r)) : '<' ∈ r := by
  obtain ⟨rest, huser, hdomain⟩ := readAddress_eq_some.mp h
  have hhead : '"' ∉ (readBlanks (x ++ '<' :: t)).2.head? := by
    intro hquote
    rw [readBlanks, List.dropWhile_append] at hquote
    split at hquote
    · cases hquote
    · rename_i hne
      have hne' : x.dropWhile isSpaceOrTab ≠ [] := by simpa using hne
      rw [List.head?_append_of_ne_nil _ hne'] at hquote
      exact hx (Text.mem_of_mem_dropWhile (List.mem_of_mem_head? hquote))
  have hdotted : readDotted (x ++ '<' :: t) = some (user, '@' :: rest) := by
    refine huser.resolve_right fun hword => hhead ?_
    obtain ⟨-, -, -, hquote⟩ := exists_of_readQuotedWord hword.2
    exact hquote
  obtain ⟨v, hv, -, hangle⟩ := exists_of_readDotted hdotted
  obtain ⟨v', rfl, -, hangle'⟩ := exists_of_readDotted hdomain
  have hmem : '<' ∈ v ++ '@' :: (v' ++ r) := by
    rw [← hv]
    simp
  simpa [hangle, hangle'] using hmem

/-- Nor does an address in angle brackets, if it does not begin there. -/
theorem mem_of_readAngled (hx : '"' ∉ x) (hblank : x.all Text.isBlank = false)
    (h : readAngled (x ++ '<' :: t) = some ((user, domain), r)) : '<' ∈ r := by
  obtain ⟨rest, rest', hrest, haddress, rfl⟩ := readAngled_eq_some.mp h
  have hne := Text.dropWhile_ne_nil hblank
  obtain ⟨c, y, hy⟩ := List.exists_cons_of_ne_nil hne
  rw [List.dropWhile_append, if_neg (by simpa using hne), hy, List.cons_append] at hrest
  obtain ⟨rfl, rfl⟩ := List.cons.inj hrest
  have hquote : '"' ∉ y := by
    intro hmem
    have hdropped : '"' ∈ x.dropWhile Text.isBlank := by
      rw [hy]
      exact List.mem_cons_of_mem _ hmem
    exact hx (Text.mem_of_mem_dropWhile hdropped)
  have hmem := mem_of_readAddress hquote haddress
  exact Text.mem_dropWhile_of_not (by simpa using hmem) (by decide)

/-! ### Between angle brackets -/

theorem takeWhile_append_stop {q : Char → Bool} (hq : q c = false) (s t : List Char) :
    (s ++ c :: t).takeWhile q = s.takeWhile q := by
  induction s with
  | nil => rw [List.nil_append, List.takeWhile_cons_of_neg (by simp [hq]), List.takeWhile_nil]
  | cons d s ih => simp only [List.cons_append, List.takeWhile_cons, ih]

theorem dropWhile_append_stop {q : Char → Bool} (hq : q c = false) (s t : List Char) :
    (s ++ c :: t).dropWhile q = s.dropWhile q ++ c :: t := by
  rw [List.dropWhile_append]
  split
  · rename_i hempty
    rw [List.isEmpty_iff.mp hempty, List.dropWhile_cons_of_neg (by simp [hq]), List.nil_append]
  · rfl

/-- Words between dots end at a closing bracket; the induction is on how many may be read. -/
theorem readMoreAtoms_closed {k : ℕ} (hcount : s.length ≤ count)
    (hk : s.length ≤ k) (t : List Char) :
    readMoreAtoms k (s ++ '>' :: t)
      = ((readMoreAtoms count s).1, (readMoreAtoms count s).2 ++ '>' :: t) := by
  induction count generalizing s k with
  | zero =>
    rw [List.length_eq_zero_iff.mp (Nat.le_zero.mp hcount)]
    exact readMoreAtoms_of_head (by simp) k
  | succ count ih =>
    by_cases hdot : s.head? = some '.'
    · obtain ⟨s, rfl⟩ := List.head?_eq_some_iff.mp hdot
      have hshort : (s.dropWhile isAtomChar).length ≤ s.length :=
        (List.dropWhile_sublist _).length_le
      simp only [List.length_cons] at hcount hk
      obtain ⟨k, rfl⟩ := Nat.exists_eq_add_of_le' (Nat.one_le_of_lt hk)
      rw [List.cons_append, readMoreAtoms_dot, readMoreAtoms_dot,
        takeWhile_append_stop (by decide), dropWhile_append_stop (by decide),
        ih (k := k) (by omega) (by omega)]
      split
      · rfl
      · rfl
    · have hhead : (s ++ '>' :: t).head? ≠ some '.' := by
        cases s with
        | nil => simp
        | cons c s => simpa using hdot
      rw [readMoreAtoms_of_head hdot, readMoreAtoms_of_head hhead]

theorem readDotted_closed (h : readDotted s = some (p, r)) (t : List Char) :
    readDotted (s ++ '>' :: t) = some (p, r ++ '>' :: t) := by
  have hblanks : readBlanks (s ++ '>' :: t) = ((readBlanks s).1, (readBlanks s).2 ++ '>' :: t) := by
    rw [readBlanks, readBlanks, takeWhile_append_stop (by decide),
      dropWhile_append_stop (by decide)]
  obtain ⟨w, rest, hw, hrest, hne, rfl, rfl⟩ := readDotted_eq_some.mp h
  have hshort : rest.length ≤ (readBlanks s).2.length := by
    rw [hrest]
    exact (List.dropWhile_sublist _).length_le
  refine readDotted_eq_some.mpr ⟨w, rest ++ '>' :: t, ?_, ?_, hne, ?_⟩
  · rw [hblanks, takeWhile_append_stop (by decide), hw]
  · rw [hblanks, dropWhile_append_stop (by decide), hrest]
  · rw [hblanks, readMoreAtoms_closed hshort (by simp; omega)]
    exact ⟨rfl, rfl⟩

/-- An address that a text consists of has been read as it stands: nothing has been left out. -/
theorem readDotted_of_ofText {address : String} {a : Address}
    (h : Mailbox.ofText address = .ok ⟨none, a⟩) (htext : a.text = address) :
    Address.of a.user.toList a.domain.toList = .ok a ∧
      ∃ rest, readDotted address.toList = some (a.user.toList, '@' :: rest) ∧
        readDotted rest = some (a.domain.toList, []) := by
  obtain ⟨name, user, domain, r, a', hread, -, haddress, hm⟩ := ofText_eq_ok.mp h
  obtain ⟨hname, rfl⟩ := Mailbox.mk.inj hm
  obtain rfl : name = none := Option.map_eq_none_iff.mp hname.symm
  obtain rfl := eq_of_addressOf haddress
  simp only [String.toList_ofList]
  refine ⟨haddress, ?_⟩
  have hlength : user.length + domain.length + 1 = address.toList.length := by
    rw [← htext, Address.text]
    simp only [String.toList_append, String.toList_ofList, List.length_append]
    change _ = user.length + 1 + domain.length
    omega
  have hsuffix := List.dropWhile_suffix (l := address.toList) Text.isBlank
  have hshort := hsuffix.length_le
  rcases readMailbox_cases hread with ⟨p, rest, hp, -⟩ | ⟨-, hangled⟩ | ⟨-, hplain⟩
  · cases hp
  · -- the brackets would make the text too long
    obtain ⟨rest, rest', hrest, hinner, -⟩ := readAngled_eq_some.mp hangled
    obtain ⟨hlong, -⟩ := length_of_readAddress hinner
    have hdropped := congrArg List.length hrest
    have := (List.dropWhile_suffix (l := address.toList.dropWhile Text.isBlank)
      Text.isBlank).length_le
    simp only [List.length_cons] at hlong hdropped
    omega
  · obtain ⟨hlong, hdotted⟩ := length_of_readAddress hplain
    obtain ⟨rest, huser, hdomain⟩ := hdotted (by omega)
    rw [hsuffix.eq_of_length (by omega)] at huser
    rw [List.length_eq_zero_iff.mp (by omega : r.length = 0)] at hdomain
    exact ⟨rest, huser, hdomain⟩

/-- **An address that is accepted as it stands is read between angle brackets.** -/
theorem readAngled_of_ofText {address : String} {a : Address}
    (h : Mailbox.ofText address = .ok ⟨none, a⟩) (htext : a.text = address) (j : ℕ) :
    readAngled (spaces j ++ '<' :: (address.toList ++ ['>']))
      = some ((a.user.toList, a.domain.toList), []) := by
  obtain ⟨-, rest, huser, hdomain⟩ := readDotted_of_ofText h htext
  refine readAngled_eq_some.mpr ⟨address.toList ++ ['>'], [], ?_, ?_, rfl⟩
  · rw [dropWhile_append_stop (by decide), Text.dropWhile_eq_nil_of_all, List.nil_append]
    intro c hc
    rw [List.eq_of_mem_replicate hc]
    decide
  · exact readAddress_eq_some.mpr
      ⟨rest ++ ['>'], .inl (readDotted_closed huser []), readDotted_closed hdomain []⟩

end JobNotice.Mail
