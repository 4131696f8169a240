import JobNotice.Proofs.Mail.Base64
import JobNotice.Proofs.Mail.Lines
import JobNotice.Proofs.Text.Utf8

/-!
# Bodies read back from what is sent

However a body is sent, it can be read back. Quoted-printable is read token by token: a byte that
stands for itself is no equals sign, and a quoted one is an equals sign with the two digits of the
byte.

What is sent holds no more plain lines than the body. A line without an equals sign is made of bytes
that stand for themselves, whether or not the lines next to it were broken, and base64 holds no
hyphen. So a line with a hyphen and without an equals sign has been a part of the body.

## Main definitions

* `Mail.withReturns` — a text with a carriage return before each line feed

## Main results

* `Mail.withLineEnds_eq` — the line ends of what is sent
* `Mail.Transfer.decode?_encode` — a body as it is sent is read as the body
* `Mail.Transfer.infix_of_mem_linesOf_encode` — a plain line of what is sent stands in the body
-/

namespace JobNotice.Mail

/-! ### Line ends -/

/-- A character after another one: a line feed gets a carriage return if none stands before it. -/
def withReturn (before c : Char) : List Char :=
  if c = '\n' ∧ before ≠ '\r' then ['\r', '\n'] else [c]

/-- A text with a carriage return before each line feed that had none before it. -/
def withReturns (s : List Char) : List Char := (List.zipWith withReturn ('\n' :: s) s).flatten

theorem withLineEndsFrom_eq (before : Char) (s : List Char) :
    withLineEndsFrom (before = '\r') s = (List.zipWith withReturn (before :: s) s).flatten := by
  induction s generalizing before with
  | nil => rfl
  | cons c r ih =>
    rw [withLineEndsFrom, List.zipWith_cons_cons, List.flatten_cons, ← ih, withReturn]
    by_cases hfeed : c = '\n'
    · subst hfeed
      by_cases hreturn : before = '\r' <;> simp [hreturn]
    · simp [hfeed]

/-- **What is sent has the line ends of the text and no others.** -/
theorem withLineEnds_eq (s : List Char) : withLineEnds s = withReturns s :=
  withLineEndsFrom_eq '\n' s

variable {s t : List Char}

theorem prefix_of_withLineEndsFrom {afterReturn : Bool} (hreturn : '\r' ∉ t)
    (h : t <+: withLineEndsFrom afterReturn s) : t <+: s := by
  induction t generalizing s afterReturn with
  | nil => exact List.nil_prefix
  | cons d t ih =>
    rw [List.mem_cons, not_or] at hreturn
    cases s with
    | nil => simp [withLineEndsFrom] at h
    | cons c r =>
      rw [withLineEndsFrom] at h
      split at h
      · exact absurd (List.cons_prefix_cons.mp h).1.symm hreturn.1
      · rw [List.cons_prefix_cons] at h ⊢
        exact ⟨h.1, ih hreturn.2 h.2⟩

/-- Text without line ends stands in a text when it stands there with its line ends. -/
theorem infix_of_withLineEnds (hreturn : '\r' ∉ t) (hfeed : '\n' ∉ t) (h : t <:+: withLineEnds s) :
    t <:+: s := by
  cases t with
  | nil => exact List.nil_infix
  | cons d t =>
    have hd : d ≠ '\r' := fun hd => hreturn (by simp [hd])
    have hd' : d ≠ '\n' := fun hd => hfeed (by simp [hd])
    unfold withLineEnds at h
    generalize false = afterReturn at h
    induction s generalizing afterReturn with
    | nil => exact h
    | cons c r ih =>
      have hbegins : d :: t <+: withLineEndsFrom afterReturn (c :: r) → d :: t <+: c :: r :=
        prefix_of_withLineEndsFrom hreturn
      rw [withLineEndsFrom] at h hbegins
      rw [List.infix_cons_iff]
      split at h
      · rw [List.infix_cons_iff, List.infix_cons_iff, List.cons_prefix_cons,
          List.cons_prefix_cons] at h
        rcases h with h | h | h
        · exact absurd h.1 hd
        · exact absurd h.1 hd'
        · exact .inr (ih _ h)
      · rename_i hkept
        rw [if_neg hkept] at hbegins
        rw [List.infix_cons_iff] at h
        rcases h with h | h
        · exact .inl (hbegins h)
        · exact .inr (ih _ h)

/-! ### Quoted-printable -/

theorem upperHexValue?_upperHexDigit {n : Nat} (h : n < 16) :
    upperHexValue? (upperHexDigit n) = some n := by
  have hall : ∀ i : Fin 16, upperHexValue? (upperHexDigit i) = some i.val := by decide
  exact hall ⟨n, h⟩

theorem upperHexDigit_ne_return {n : Nat} (h : n < 16) : upperHexDigit n ≠ '\r' := by
  have hall : ∀ i : Fin 16, upperHexDigit i ≠ '\r' := by decide
  exact hall ⟨n, h⟩

theorem ofQuotedPrintable?_cons {c : Char} (hc : c ≠ '=') (r : List Char) :
    ofQuotedPrintable? (c :: r) = (ofQuotedPrintable? r).map (c.toNat :: ·) := by
  rw [ofQuotedPrintable?, if_neg hc]
  · cases ofQuotedPrintable? r <;> rfl
  · exact fun _ h => absurd h hc
  · exact fun _ _ _ h => absurd h hc

theorem ofQuotedPrintable?_quotedByte {b : Nat} (hb : b < 256) (r : List Char) :
    ofQuotedPrintable? (quotedByte b ++ r) = (ofQuotedPrintable? r).map (b :: ·) := by
  have hhigh : b / 16 < 16 := by omega
  have hlow : b % 16 < 16 := by omega
  have hbyte : b / 16 * 16 + b % 16 = b := by omega
  rw [quotedByte, List.cons_append, List.cons_append, List.cons_append, List.nil_append,
    ofQuotedPrintable?]
  · simp only [upperHexValue?_upperHexDigit hhigh, upperHexValue?_upperHexDigit hlow, hbyte,
      Option.bind_eq_bind, Option.bind_some]
    cases ofQuotedPrintable? r <;> rfl
  · exact fun hreturn _ => upperHexDigit_ne_return hhigh hreturn

/-- What a byte becomes: a character that stands for itself, or the quoted byte. -/
theorem printableByte_cases (isLast : Bool) (b : Nat) :
    (b < 128 ∧ b ≠ 61 ∧ b ≠ 13 ∧ printableByte isLast b = [Char.ofNat b]) ∨
      printableByte isLast b = quotedByte b := by
  unfold printableByte
  split_ifs
  · exact .inr rfl
  · exact .inl ⟨by omega, by omega, by omega, rfl⟩
  · exact .inl ⟨by omega, by omega, by omega, rfl⟩
  · exact .inr rfl

theorem toNat_ofNat_ascii {b : Nat} (hb : b < 128) : (Char.ofNat b).toNat = b := by
  have hall : ∀ i : Fin 128, (Char.ofNat i).toNat = i.val := by decide
  exact hall ⟨b, hb⟩

/-- The character of a byte that stands for itself. -/
theorem ofNat_ne {b : Nat} (hb : b < 128) {c : Char} (h : b ≠ c.toNat) : Char.ofNat b ≠ c := by
  rintro rfl
  exact h (toNat_ofNat_ascii hb).symm

theorem ofQuotedPrintable?_printableByte {b : Nat} (hb : b < 256) (isLast : Bool) (r : List Char) :
    ofQuotedPrintable? (printableByte isLast b ++ r) = (ofQuotedPrintable? r).map (b :: ·) := by
  rcases printableByte_cases isLast b with ⟨hascii, hequals, -, hbyte⟩ | hbyte
  · rw [hbyte, List.singleton_append, ofQuotedPrintable?_cons (ofNat_ne hascii hequals),
      toNat_ofNat_ascii hascii]
  · rw [hbyte, ofQuotedPrintable?_quotedByte hb]

/-- **Bytes in quoted-printable are read as the bytes.** -/
theorem ofQuotedPrintable?_quotedPrintable {column : Nat} {bytes : List Nat}
    (h : ∀ b ∈ bytes, b < 256) :
    ofQuotedPrintable? (quotedPrintable column bytes) = some bytes := by
  fun_induction quotedPrintable column bytes with
  | case1 => rfl
  | case2 column r ih =>
    rw [ofQuotedPrintable?_cons (by decide), ofQuotedPrintable?_cons (by decide),
      ih fun x hx => h x (by simp [hx])]
    rfl
  | case3 column b r hnot isLast token next hfits ih =>
    rw [ofQuotedPrintable?_printableByte (h b (by simp)), ih fun x hx => h x (by simp [hx])]
    rfl
  | case4 column b r hnot isLast token next hfits ih =>
    rw [ofQuotedPrintable?, ofQuotedPrintable?_printableByte (h b (by simp)),
      ih fun x hx => h x (by simp [hx])]
    rfl

/-! ### Lines in quoted-printable -/

/-- A byte puts no line end, and either an equals sign or a character that stands for itself. -/
theorem printableByte_line (isLast : Bool) {b : Nat} (hb : b < 256) :
    '\r' ∉ printableByte isLast b ∧
      ('=' ∉ printableByte isLast b → (printableByte isLast b).map Char.toNat = [b]) := by
  rcases printableByte_cases isLast b with ⟨hascii, -, hreturn, hbyte⟩ | hbyte
  · rw [hbyte]
    refine ⟨?_, fun _ => by rw [List.map_singleton, toNat_ofNat_ascii hascii]⟩
    rw [List.mem_singleton]
    exact (ofNat_ne hascii (c := '\r') hreturn).symm
  · rw [hbyte, quotedByte]
    refine ⟨?_, fun hequals => absurd (List.mem_cons_self ..) hequals⟩
    simp only [List.mem_cons, List.not_mem_nil, or_false, not_or]
    exact ⟨by decide, (upperHexDigit_ne_return (by omega)).symm,
      (upperHexDigit_ne_return (by omega)).symm⟩

/-- A line in quoted-printable without an equals sign is made of bytes that stand for themselves;
the first line begins with the first byte. -/
theorem plain_linesOf_quotedPrintable {column : Nat} {bytes : List Nat}
    (hbytes : ∀ b ∈ bytes, b < 256) {first : List Char} {rest : List (List Char)}
    (h : linesOf (quotedPrintable column bytes) = first :: rest) :
    ('=' ∉ first → first.map Char.toNat <+: bytes) ∧
      ∀ line ∈ rest, '=' ∉ line → line.map Char.toNat <:+: bytes := by
  -- the line that a byte begins, and the line after it
  have htoken {isLast : Bool} {b : Nat} {r : List Nat} {next : List Char} (hb : b < 256)
      (hnext : '=' ∉ next → next.map Char.toNat <+: r)
      (hequals : '=' ∉ printableByte isLast b ++ next) :
      (printableByte isLast b ++ next).map Char.toNat <+: b :: r := by
    rw [List.mem_append, not_or] at hequals
    rw [List.map_append, (printableByte_line isLast hb).2 hequals.1]
    exact List.cons_prefix_cons.mpr ⟨rfl, hnext hequals.2⟩
  fun_induction quotedPrintable column bytes generalizing first rest with
  | case1 =>
    obtain ⟨rfl, rfl⟩ : [] = first ∧ [] = rest := by simpa [linesOf] using h
    simp
  | case2 column r ih =>
    obtain ⟨next, more, hr⟩ := exists_linesOf (quotedPrintable 0 r)
    obtain ⟨hnext, hmore⟩ := ih (fun x hx => hbytes x (by simp [hx])) hr
    rw [linesOf, hr] at h
    obtain ⟨rfl, rfl⟩ := List.cons.inj h
    refine ⟨fun _ => List.nil_prefix, fun line hline hequals => ?_⟩
    refine List.infix_cons (List.infix_cons ?_)
    rcases List.mem_cons.mp hline with rfl | hline
    · exact (hnext hequals).isInfix
    · exact hmore line hline hequals
  | case3 column b r hnot isLast token width =>
    rename_i ih
    have hb := hbytes b (List.mem_cons_self ..)
    obtain ⟨next, more, hr⟩ := exists_linesOf (quotedPrintable width r)
    obtain ⟨hnext, hmore⟩ := ih (fun x hx => hbytes x (by simp [hx])) hr
    rw [linesOf_append (printableByte_line isLast hb).1 hr] at h
    obtain ⟨rfl, rfl⟩ := List.cons.inj h
    exact ⟨htoken hb hnext, fun line hline hequals =>
      List.infix_cons (hmore line hline hequals)⟩
  | case4 column b r hnot isLast token width =>
    rename_i ih
    have hb := hbytes b (List.mem_cons_self ..)
    obtain ⟨next, more, hr⟩ := exists_linesOf (quotedPrintable token.length r)
    obtain ⟨hnext, hmore⟩ := ih (fun x hx => hbytes x (by simp [hx])) hr
    have hbroken : linesOf ('=' :: '\r' :: '\n' :: (token ++ quotedPrintable token.length r))
        = ['='] :: (token ++ next) :: more := by
      refine linesOf_cons (fun _ hequals _ => absurd hequals (by decide)) ?_
      rw [linesOf, linesOf_append (printableByte_line isLast hb).1 hr]
    rw [hbroken] at h
    obtain ⟨rfl, rfl⟩ := List.cons.inj h
    refine ⟨fun hequals => absurd (List.mem_cons_self ..) hequals, fun line hline hequals => ?_⟩
    rcases List.mem_cons.mp hline with rfl | hline
    · exact (htoken hb hnext hequals).isInfix
    · exact List.infix_cons (hmore line hline hequals)

/-! ### Base64 in lines -/

theorem mem_breakLines {left : Nat} {s : List Char} {c : Char} (h : c ∈ breakLines left s) :
    c = '\r' ∨ c = '\n' ∨ c ∈ s := by
  fun_induction breakLines left s with
  | case1 => simp at h
  | case2 d r ih =>
    simp only [List.mem_cons] at h ⊢
    tauto
  | case3 d r left ih =>
    simp only [List.mem_cons] at h ⊢
    tauto

theorem filter_breakLines {left : Nat} {s : List Char} (h : ∀ c ∈ s, c ≠ '\r' ∧ c ≠ '\n') :
    (breakLines left s).filter (fun c => c != '\r' && c != '\n') = s := by
  fun_induction breakLines left s with
  | case1 => rfl
  | case2 d r ih =>
    have hd := h d (List.mem_cons_self ..)
    have hr := ih fun c hc => h c (List.mem_cons_of_mem d hc)
    simp [hd, hr]
  | case3 d r left ih =>
    have hd := h d (List.mem_cons_self ..)
    have hr := ih fun c hc => h c (List.mem_cons_of_mem d hc)
    simp [hd, hr]

/-! ### Bodies -/

namespace Transfer

/-- **A body as it is sent is read as the body.** -/
theorem decode?_encode (transfer : Transfer) (body : List Char) :
    transfer.decode? (transfer.encode body) = some body := by
  have hbytes := Text.utf8Bytes_lt body
  cases transfer with
  | sevenBit => rfl
  | quotedPrintable =>
    simp only [decode?, encode, ofQuotedPrintable?_quotedPrintable hbytes, Option.bind_eq_bind,
      Option.bind_some, Text.ofUtf8?_utf8Bytes]
  | base64 =>
    have hdigits : ∀ c ∈ Base64.encode (Text.utf8Bytes body), c ≠ '\r' ∧ c ≠ '\n' := by
      intro c hc
      have hc := Base64.isDigit_of_mem_encode hc
      exact ⟨Text.ne_of_test hc (by decide), Text.ne_of_test hc (by decide)⟩
    simp only [decode?, encode, filter_breakLines hdigits, Base64.decode?_encode hbytes,
      Option.bind_eq_bind, Option.bind_some, Text.ofUtf8?_utf8Bytes]

/-- **A line of what is sent that is ASCII, with a hyphen and without an equals sign, stands in the
body.** -/
theorem infix_of_mem_linesOf_encode {transfer : Transfer} {body line : List Char}
    (hline : line ∈ linesOf (transfer.encode body)) (hascii : ∀ c ∈ line, c.toNat < 128)
    (hhyphen : '-' ∈ line) (hequals : '=' ∉ line) : line <:+: body := by
  cases transfer with
  | sevenBit => exact infix_of_mem_linesOf hline
  | quotedPrintable =>
    obtain ⟨first, rest, hlines⟩ := exists_linesOf (Mail.quotedPrintable 0 (Text.utf8Bytes body))
    obtain ⟨hfirst, hrest⟩ := plain_linesOf_quotedPrintable (Text.utf8Bytes_lt body) hlines
    rw [encode, hlines] at hline
    refine Text.infix_of_utf8Bytes hascii ?_
    rcases List.mem_cons.mp hline with rfl | hline
    · exact (hfirst hequals).isInfix
    · exact hrest line hline hequals
  | base64 =>
    have hmem := (infix_of_mem_linesOf hline).subset hhyphen
    rcases mem_breakLines hmem with hreturn | hfeed | hdigit
    · exact absurd hreturn (by decide)
    · exact absurd hfeed (by decide)
    · exact absurd rfl (Text.ne_of_test (Base64.isDigit_of_mem_encode hdigit) (by decide))

end Transfer

end JobNotice.Mail
