import JobNotice.Mail.Delivery
import JobNotice.Proofs.Mail.Addresses

/-!
# Senders

The sender of a mail is read from a text that is put together from a name and an address: the name
stands there as it was given, without quotation marks, and the address in angle brackets. So the
name has to be a phrase. One that is no phrase is given up inside the name, and what is read from
there on does not reach over the angle bracket before the address; nothing can then be posted.

## Main results

* `Mail.readMailbox_phrase` — a phrase before an address is the name of a mailbox
* `Mail.mem_of_readMailbox` — with any other name, the angle bracket is not reached
* `Mail.isPhrase_of_readMailbox` — a name that is read as itself is a phrase
* `Mail.senders_named` — which names senders can have
-/

namespace JobNotice.Mail

variable {s t r n : List Char} {c : Char} {j : ℕ} {a : List Char × List Char}

/-! ### Names before angle brackets -/

theorem plain_of_isPhraseRest (h : isPhraseRest s = true) : ∀ d ∈ s, d ≠ '\t' ∧ d ≠ '"' := by
  induction s with
  | nil => simp
  | cons c s ih =>
    rw [isPhraseRest, Bool.and_eq_true] at h
    have hc : c ≠ '\t' ∧ c ≠ '"' := by
      constructor
      · rintro rfl
        rw [if_neg (by decide)] at h
        exact absurd h.1 (by decide)
      · rintro rfl
        rw [if_neg (by decide)] at h
        exact absurd h.1 (by decide)
    intro d hd
    rcases List.mem_cons.mp hd with rfl | hd
    · exact hc
    · exact ih h.2 d hd

/-- **A phrase before an address in angle brackets is the name of a mailbox.** -/
theorem readMailbox_phrase (hphrase : isPhrase n = true)
    (ha : readAngled (spaces j ++ '<' :: t) = some (a, r)) :
    readMailbox (n ++ (spaces j ++ '<' :: t)) = some ((some (singleBlanks n), a), r) := by
  obtain ⟨hstart, hrest⟩ := (Bool.and_eq_true _ _).mp hphrase
  obtain ⟨v, r', rfl, hread, hiff⟩ := readPhrase_plain (plain_of_isPhraseRest hrest) hstart j t
  obtain rfl := hiff.mpr hphrase
  rw [List.append_nil, List.nil_append] at hread
  rw [List.append_nil, readMailbox, readNamed, hread]
  simp only [ha, Option.map_some]

/-- A name begins with a plain word if there is a name at all. -/
theorem any_isAtomChar_of_readPhrase (hplain : ∀ d ∈ n, d ≠ '\t' ∧ d ≠ '"') (hn : Text.IsTrimmed n)
    {q : List Char × List Char} (h : readPhrase (n ++ t) = some q) :
    n.head?.any isAtomChar = true := by
  obtain ⟨c, n, rfl⟩ := List.exists_cons_of_ne_nil hn.ne_nil
  by_contra hatom
  have hspace : c ≠ ' ' := by
    rintro rfl
    exact absurd (hn.head ' ' rfl) (by decide)
  have hstops : Stops c :=
    stops_of_plain (hplain c List.mem_cons_self) hspace (eq_false_of_ne_true hatom)
  rw [List.cons_append, readPhrase_stops hstops] at h
  cases h

/-- **With a name that is no phrase, the angle bracket before the address is not reached.** -/
theorem mem_of_readMailbox (hplain : ∀ d ∈ n, d ≠ '\t' ∧ d ≠ '"') (hn : Text.IsTrimmed n)
    (hphrase : isPhrase n = false) {name : Option (List Char)}
    (h : readMailbox (n ++ (spaces j ++ '<' :: t)) = some ((name, a), r)) : '<' ∈ r := by
  -- what is left of the name holds no quotation mark, and something that is not blank
  have hquote {v left : List Char} (hleft : n = v ++ left) : '"' ∉ left ++ spaces j := by
    intro hmem
    rcases List.mem_append.mp hmem with hmem | hmem
    · exact (hplain '"' (by rw [hleft]; exact List.mem_append_right v hmem)).2 rfl
    · exact absurd (List.eq_of_mem_replicate hmem) (by decide)
  have hblank {v left : List Char} (hleft : n = v ++ left) (hne : left ≠ []) :
      (left ++ spaces j).all Text.isBlank = false := by
    have hlast : left.getLast hne ∈ n.getLast? := by
      rw [hleft, List.getLast?_append_of_ne_nil _ hne, List.getLast?_eq_some_getLast hne]
      rfl
    rw [List.all_eq_false]
    exact ⟨_, List.mem_append_left _ (List.getLast_mem hne), by simp [hn.last _ hlast]⟩
  rcases readMailbox_cases h with ⟨p, rest, -, hread, hangled⟩ | ⟨-, hangled⟩ | ⟨-, haddress⟩
  · have hstart := any_isAtomChar_of_readPhrase hplain hn hread
    obtain ⟨v, left, hleft, hphraseRead, hiff⟩ := readPhrase_plain hplain hstart j t
    rw [hphraseRead] at hread
    obtain ⟨rfl, rfl⟩ := Prod.mk.inj (Option.some.inj hread)
    have hne : left ≠ [] := by
      intro hnil
      rw [hiff.mp hnil] at hphrase
      cases hphrase
    rw [← List.append_assoc] at hangled
    exact mem_of_readAngled (hquote hleft) (hblank hleft hne) hangled
  · rw [← List.append_assoc] at hangled
    exact mem_of_readAngled (hquote (v := []) rfl) (hblank (v := []) rfl hn.ne_nil) hangled
  · rw [← List.append_assoc] at haddress
    exact mem_of_readAddress (hquote (v := []) rfl) haddress

/-- What stands before the next angle bracket is spaces. -/
theorem eq_space_of_append {u rest : List Char} (h : spaces j ++ '<' :: t = u ++ rest)
    (hangle : '<' ∉ u) : ∀ c ∈ u, c = ' ' := by
  intro c hc
  rcases List.append_eq_append_iff.mp h with ⟨e, rfl, he⟩ | ⟨e, he, -⟩
  · cases e with
    | nil => exact List.eq_of_mem_replicate (by simpa using hc)
    | cons d e =>
      obtain ⟨rfl, -⟩ := List.cons.inj he
      exact absurd (by simp) hangle
  · exact List.eq_of_mem_replicate (he ▸ List.mem_append_left e hc)

/-- A name that stands at the beginning of the text it was read from has been read from nothing
more: up to the angle bracket there are only spaces, and what a name is read from ends in none. -/
theorem eq_of_kept {v rest : List Char} (hkept : Kept v n)
    (htext : n ++ (spaces j ++ '<' :: t) = v ++ rest) : v = n := by
  have hlength := hkept.length_le
  rcases List.append_eq_append_iff.mp htext with ⟨e, rfl, he⟩ | ⟨e, rfl, -⟩
  · have hangle : '<' ∉ e := by
      have hcount := hkept.angles
      rw [List.count_append] at hcount
      exact List.count_eq_zero.mp (by omega)
    have hspace := eq_space_of_append he hangle
    cases hlast : e.getLast? with
    | none => rw [List.getLast?_eq_none_iff.mp hlast, List.append_nil]
    | some c =>
      have hc := hkept.last c (by rw [List.getLast?_append, hlast]; rfl)
      rw [hspace c (List.mem_of_getLast? hlast)] at hc
      exact absurd hc (by decide)
  · rw [List.length_append] at hlength
    rw [List.length_eq_zero_iff.mp (by omega : e.length = 0), List.append_nil]

/-- **A name that is read as itself is a phrase with single spaces.** -/
theorem isPhrase_of_readMailbox (htab : '\t' ∉ n) (hn : Text.IsTrimmed n)
    (h : readMailbox (n ++ (spaces j ++ '<' :: t)) = some ((some n, a), r)) :
    isPhrase n = true ∧ singleBlanks n = n := by
  rcases readMailbox_cases h with ⟨p, rest, hp, hread, -⟩ | ⟨hname, -⟩ | ⟨hname, -⟩
  · obtain rfl := Option.some.inj hp
    obtain ⟨v, hv, hkept⟩ := kept_of_readPhrase hread
    obtain rfl := eq_of_kept hkept hv
    have hplain : ∀ d ∈ v, d ≠ '\t' ∧ d ≠ '"' := by
      refine fun d hd => ⟨?_, ?_⟩
      · rintro rfl
        exact htab hd
      · rintro rfl
        exact Nat.lt_irrefl _ (hkept.length_lt hd)
    obtain ⟨u, left, hleft, hphraseRead, hiff⟩ :=
      readPhrase_plain hplain (any_isAtomChar_of_readPhrase hplain hn hread) j t
    rw [hphraseRead] at hread
    obtain ⟨hblanks, -⟩ := Prod.mk.inj (Option.some.inj hread)
    have hlength := congrArg List.length hleft
    have := singleBlanks_length_le u
    rw [hblanks] at this
    rw [List.length_append] at hlength
    obtain rfl : left = [] := List.length_eq_zero_iff.mp (by omega)
    rw [List.append_nil] at hleft
    rw [← hleft] at hblanks
    exact ⟨hiff.mp rfl, hblanks⟩
  · cases hname
  · cases hname

/-! ### The sender -/

/-- Of the printable characters of ASCII only the space is blank. -/
theorem eq_space_of_isBlank (h : ' ' ≤ c ∧ c ≤ '~') (hblank : Text.isBlank c = true) : c = ' ' := by
  have hlow : 32 ≤ c.toNat := UInt32.le_iff_toNat_le.mp h.1
  have hhigh : c.toNat ≤ 126 := UInt32.le_iff_toNat_le.mp h.2
  simp only [Text.isBlank, Bool.or_eq_true, Bool.and_eq_true, decide_eq_true_eq,
    beq_iff_eq] at hblank
  have hspace : c.toNat = ' '.toNat := by
    change c.toNat = 32
    omega
  exact Char.toNat_inj.mp hspace

/-- Whether all characters are printable can be computed; there are too many characters to ask for
each whether it is in the text. -/
theorem printable_of_all {s : List Char} (h : (s.all fun c => ' ' ≤ c ∧ c ≤ '~') = true) :
    ∀ c ∈ s, ' ' ≤ c ∧ c ≤ '~' :=
  fun c hc => of_decide_eq_true (List.all_eq_true.mp h c hc)

/-- The text that the sender is read from: after the name come the spaces at its end and another
one. -/
theorem exists_sender_text {name : List Char} (hprint : ∀ c ∈ name, ' ' ≤ c ∧ c ≤ '~')
    (hblank : name.all Text.isBlank = false) (t : List Char) :
    ∃ j, (name ++ ' ' :: '<' :: t).dropWhile Text.isBlank
      = Text.trimChars name ++ (spaces j ++ '<' :: t) := by
  obtain ⟨dropped, hdropped, hall⟩ :=
    Text.exists_dropEndWhile_append Text.isBlank (name.dropWhile Text.isBlank)
  have hspaces : dropped = spaces dropped.length := by
    refine List.eq_replicate_of_mem fun c hc => eq_space_of_isBlank (hprint c ?_) (hall c hc)
    refine Text.mem_of_mem_dropWhile (p := Text.isBlank) ?_
    rw [hdropped]
    exact List.mem_append_right _ hc
  have hne := Text.dropWhile_ne_nil hblank
  refine ⟨dropped.length + 1, ?_⟩
  rw [List.dropWhile_append, if_neg (by simpa using hne), hdropped, ← Text.trimChars,
    List.append_assoc, spaces, List.replicate_succ', List.append_assoc, ← spaces, ← hspaces]
  rfl

variable {e : Settings.Email} {address : String} {sender : Address}

theorem senderOf_eq_ok (hfrom : e.fromAddress = some address) {m : Mailbox} :
    senderOf e = .ok m ↔ Mailbox.ofText (e.fromName ++ " <" ++ address ++ ">") = .ok m := by
  rw [senderOf, hfrom]
  simp only
  cases Mailbox.ofText (e.fromName ++ " <" ++ address ++ ">") with
  | ok m' => simp
  | error why => simp

/-- **Which names senders can have.** The address is one that is accepted as it stands, and the name
is printable ASCII. It is the name of the sender as it stands if it is a phrase with single spaces,
and with its runs of spaces cut to one if it is any phrase. No other name without quotation marks
can be given: nothing is posted, to whomever. -/
theorem senders_named (hfrom : e.fromAddress = some address)
    (haccepted : Mailbox.ofText address = .ok ⟨none, sender⟩) (htext : sender.text = address)
    (hprint : ∀ c ∈ e.fromName.toList, ' ' ≤ c ∧ c ≤ '~')
    (hblank : Text.isBlankString e.fromName = false) :
    let name := Text.trimChars e.fromName.toList
    (senderOf e = .ok ⟨some (Text.trim e.fromName), sender⟩ ↔
      isPhrase name = true ∧ singleBlanks name = name) ∧
    (isPhrase name = true →
      senderOf e = .ok ⟨some (String.ofList (singleBlanks name)), sender⟩) ∧
    ('"' ∉ name → ∀ boundary now recipient document target,
      Mailbox.ofText recipient = .ok target →
      (Post.prepare e boundary now recipient document = .error (.badSender .badText) ↔
        isPhrase name = false)) := by
  intro name
  have hmem {c : Char} (hc : c ∈ name) : ' ' ≤ c ∧ c ≤ '~' :=
    hprint c (Text.mem_of_mem_trimChars hc)
  have htab : '\t' ∉ name := fun hc => absurd (hmem hc).1 (by decide)
  have hn : Text.IsTrimmed name := Text.isTrimmed_trimChars hblank
  obtain ⟨j, hread⟩ := exists_sender_text hprint hblank (address.toList ++ ['>'])
  have hsource : (e.fromName ++ " <" ++ address ++ ">").toList.dropWhile Text.isBlank
      = name ++ (spaces j ++ '<' :: (address.toList ++ ['>'])) := by
    rw [← hread]
    simp
  obtain ⟨haddress, -⟩ := readDotted_of_ofText haccepted htext
  have hphrase (h : isPhrase name = true) :
      senderOf e = .ok ⟨some (String.ofList (singleBlanks name)), sender⟩ := by
    rw [senderOf_eq_ok hfrom, ofText_eq_ok, hsource]
    exact ⟨_, _, _, _, _, readMailbox_phrase h (readAngled_of_ofText haccepted htext j), rfl,
      haddress, rfl⟩
  refine ⟨⟨fun h => ?_, fun ⟨h, hsingle⟩ => ?_⟩, hphrase, fun hquote => ?_⟩
  · rw [senderOf_eq_ok hfrom, ofText_eq_ok, hsource] at h
    obtain ⟨found, user, domain, r, a, hread, -, -, hm⟩ := h
    obtain ⟨p, rfl, hp⟩ := Option.map_eq_some_iff.mp (Mailbox.mk.inj hm).1.symm
    obtain rfl : p = name := String.ofList_injective hp
    exact isPhrase_of_readMailbox htab hn hread
  · rw [hphrase h, hsingle]
    rfl
  · intro boundary now recipient document target htarget
    rw [Post.prepare, htarget]
    constructor
    · intro h
      by_contra hname
      rw [hphrase (Bool.not_eq_false _ ▸ hname)] at h
      cases hhost : e.host with
      | none => simp [hhost, bind, Except.bind] at h
      | some host => simp [hhost, bind, Except.bind] at h
    · intro hname
      have hplain : ∀ d ∈ name, d ≠ '\t' ∧ d ≠ '"' :=
        fun d hd => ⟨fun h => htab (h ▸ hd), fun h => hquote (h ▸ hd)⟩
      have hbad : Mailbox.ofText (e.fromName ++ " <" ++ address ++ ">") = .error .badText := by
        refine ofText_eq_badText fun m r hread => ?_
        rw [hsource] at hread
        rw [List.all_eq_false]
        exact ⟨'<', mem_of_readMailbox hplain hn hname hread, by decide⟩
      rw [senderOf, hfrom]
      simp only [hbad]
      rfl

/-- Two spaces in a name are one in the name of the sender. -/
theorem senders_named_of_two_spaces :
    let e : Settings.Email :=
      { host := some "127.0.0.1", fromAddress := some "noreply@sivacor.org"
        fromName := "Ada  M. Lovelace " }
    let sender : Address := ⟨"noreply", "sivacor.org"⟩
    Mailbox.ofText "noreply@sivacor.org" = .ok ⟨none, sender⟩ ∧
      sender.text = "noreply@sivacor.org" ∧ (∀ c ∈ e.fromName.toList, ' ' ≤ c ∧ c ≤ '~') ∧
      Text.isBlankString e.fromName = false ∧
      senderOf e = .ok ⟨some "Ada M. Lovelace", sender⟩ ∧
      senderOf e ≠ .ok ⟨some (Text.trim e.fromName), sender⟩ := by
  intro e sender
  have haccepted : Mailbox.ofText "noreply@sivacor.org" = .ok ⟨none, sender⟩ := by decide +kernel
  have htext : sender.text = "noreply@sivacor.org" := by decide
  have hprint : ∀ c ∈ e.fromName.toList, ' ' ≤ c ∧ c ≤ '~' := printable_of_all (by decide)
  have hblank : Text.isBlankString e.fromName = false := by decide
  have hname : String.ofList (singleBlanks (Text.trimChars e.fromName.toList))
      = "Ada M. Lovelace" := by decide
  obtain ⟨hitself, hphrase, -⟩ := senders_named (e := e) rfl haccepted htext hprint hblank
  rw [hname] at hphrase
  refine ⟨haccepted, htext, hprint, hblank, hphrase (by decide), fun h => ?_⟩
  exact absurd (hitself.mp h).2 (by decide)

/-- With a comma in the name nothing is posted, although the address and the recipient are fine. -/
theorem prepare_of_comma :
    let e : Settings.Email :=
      { host := some "127.0.0.1", fromAddress := some "noreply@sivacor.org"
        fromName := "Lovelace, Ada" }
    e.isConfigured = true ∧
      Mailbox.ofText "noreply@sivacor.org" = .ok ⟨none, ⟨"noreply", "sivacor.org"⟩⟩ ∧
      (∀ c ∈ e.fromName.toList, ' ' ≤ c ∧ c ≤ '~') ∧ Text.isBlankString e.fromName = false ∧
      Mailbox.ofText "ada@example.com" = .ok ⟨none, ⟨"ada", "example.com"⟩⟩ ∧
      (PostProblem.badSender .badText).message = "invalid from address: Invalid input" ∧
      ∀ boundary now document,
        Post.prepare e boundary now "ada@example.com" document = .error (.badSender .badText) := by
  have hrecipient : Mailbox.ofText "ada@example.com" = .ok ⟨none, ⟨"ada", "example.com"⟩⟩ := by
    decide +kernel
  have hsender : Mailbox.ofText ("Lovelace, Ada" ++ " <" ++ "noreply@sivacor.org" ++ ">")
      = .error .badText := by decide +kernel
  refine ⟨rfl, by decide +kernel, printable_of_all (by decide), by decide, hrecipient, by decide,
    ?_⟩
  intro boundary now document
  rw [Post.prepare, hrecipient]
  simp only [senderOf, hsender]
  rfl

end JobNotice.Mail
