import JobNotice.Proofs.Mail.Transfer
import JobNotice.Proofs.Text.Splitting

/-!
# Documents read back from messages

A boundary that stands in neither text of a document separates the parts of its message: no line of
a part is a boundary line, because a boundary line is plain, and a plain line of what is sent stands
in the text. The parts that a reader finds are the ones that were written, and each declares how its
body is sent, so its text can be read back.

## Main definitions

* `Mail.boundaryLine` — the line before each part
* `Mail.typeLine`, `Mail.transferLine` — the header of a part

## Main results

* `Mail.splitParts_bodyOf` — parts without boundary lines are found again
* `Mail.contentOf?_partOf` — a part is read as its text, with all line ends
* `Mail.parts_compose` — the message of a document carries its two texts
-/

namespace JobNotice.Mail

/-- The line before each part. -/
def boundaryLine (boundary : String) : List Char := ("--" ++ boundary).toList

/-- The line after the last part. -/
def lastLine (boundary : String) : List Char := boundaryLine boundary ++ "--".toList

/-- The line that says what a part is. -/
def typeLine (kind : String) : List Char := ("Content-Type: " ++ kind ++ "; charset=utf-8").toList

/-- The line that says how a part is sent. -/
def transferLine (transfer : Transfer) : List Char :=
  ("Content-Transfer-Encoding: " ++ transfer.name).toList

variable {boundary kind : String} {content : List Char}

/-! ### Boundary lines -/

/-- A text in which no line is a boundary line. -/
def Unbounded (boundary : String) (s : List Char) : Prop :=
  ∀ line ∈ linesOf s, line ≠ boundaryLine boundary ∧ line ≠ lastLine boundary

theorem boundaryLine_ne_lastLine (boundary : String) :
    boundaryLine boundary ≠ lastLine boundary := by
  intro h
  have hlength := congrArg List.length h
  rw [lastLine, List.length_append] at hlength
  have hdashes : "--".toList.length = 2 := by decide
  omega

/-- Lines that are no boundary lines belong to the part that has begun. -/
theorem partLines_append {lines : List (List Char)} (before rest : List (List Char))
    (h : ∀ line ∈ lines, line ≠ boundaryLine boundary ∧ line ≠ lastLine boundary) :
    partLines (boundaryLine boundary) (some before) (lines ++ rest)
      = partLines (boundaryLine boundary) (some (before ++ lines)) rest := by
  induction lines generalizing before with
  | nil => simp
  | cons line lines ih =>
    obtain ⟨hmark, hlast⟩ := h line (List.mem_cons_self ..)
    rw [List.cons_append, partLines, ← lastLine, if_neg hlast, if_neg hmark, Option.map_some,
      ih _ fun l hl => h l (List.mem_cons_of_mem line hl), List.append_assoc,
      List.singleton_append]

/-- The lines of a body. -/
theorem linesOf_bodyOf (hboundary : '\r' ∉ boundaryLine boundary) (parts : List (List Char)) :
    linesOf (bodyOf boundary parts)
      = parts.flatMap (fun part => boundaryLine boundary :: linesOf part) ++
          [lastLine boundary, []] := by
  have hmark := linesOf_eq_singleton hboundary
  have hlast : linesOf (lastLine boundary) = [lastLine boundary] := by
    refine linesOf_eq_singleton fun h => ?_
    rcases List.mem_append.mp h with h | h
    · exact hboundary h
    · exact absurd h (by decide)
  induction parts with
  | nil =>
    have hend := linesOf_append_lineEnd (lastLine boundary) []
    rw [List.append_nil, hlast] at hend
    exact hend
  | cons part parts ih =>
    have hsplit : bodyOf boundary (part :: parts) = boundaryLine boundary ++
        (lineEnd ++ (part ++ (lineEnd ++ bodyOf boundary parts))) := by
      simp only [bodyOf, boundaryLine, List.flatMap_cons, List.append_assoc]
    rw [hsplit, linesOf_append_lineEnd, linesOf_append_lineEnd, hmark, ih, List.flatMap_cons]
    simp

/-- The parts that are found are those before the part that has begun and the ones after it. -/
theorem partLines_parts {parts : List (List Char)} (h : ∀ part ∈ parts, Unbounded boundary part)
    (open? : Option (List (List Char))) :
    partLines (boundaryLine boundary) open?
        (parts.flatMap (fun part => boundaryLine boundary :: linesOf part) ++
          [lastLine boundary, []])
      = some (open?.toList ++ parts.map linesOf) := by
  induction parts generalizing open? with
  | nil => simp [partLines, lastLine]
  | cons part parts ih =>
    have hpart := h part (List.mem_cons_self ..)
    rw [List.flatMap_cons, List.cons_append, List.cons_append, List.append_assoc, partLines,
      ← lastLine, if_neg (boundaryLine_ne_lastLine boundary), if_pos rfl,
      partLines_append [] _ hpart, ih fun p hp => h p (List.mem_cons_of_mem part hp)]
    rfl

/-- **Parts without boundary lines are found again.** -/
theorem splitParts_bodyOf (hboundary : '\r' ∉ boundaryLine boundary) {parts : List (List Char)}
    (h : ∀ part ∈ parts, Unbounded boundary part) :
    splitParts boundary (bodyOf boundary parts) = some parts := by
  have hparts := partLines_parts h none
  rw [← linesOf_bodyOf hboundary] at hparts
  unfold splitParts
  rw [← boundaryLine, hparts]
  simp [Function.comp_def]

/-! ### The header of a part -/

theorem not_mem_typeLine (hkind : '\r' ∉ kind.toList) : '\r' ∉ typeLine kind := by
  rw [typeLine, String.toList_append, String.toList_append, List.mem_append, List.mem_append]
  rintro ((h | h) | h)
  · exact absurd h (by decide)
  · exact hkind h
  · exact absurd h (by decide)

theorem not_mem_transferLine (transfer : Transfer) : '\r' ∉ transferLine transfer := by
  rw [transferLine, String.toList_append, List.mem_append]
  rintro (h | h)
  · exact absurd h (by decide)
  · exact absurd h (by cases transfer <;> decide)

/-- The lines of a part. -/
theorem linesOf_partOf (hkind : '\r' ∉ kind.toList) (content : List Char) :
    linesOf (partOf kind content) = typeLine kind :: transferLine (.choose content) :: [] ::
      linesOf ((Transfer.choose content).encode (withLineEnds content)) := by
  have hsplit : partOf kind content = typeLine kind ++ (lineEnd ++
      (transferLine (.choose content) ++ (lineEnd ++ ([] ++ (lineEnd ++
        (Transfer.choose content).encode (withLineEnds content)))))) := by
    simp only [partOf, typeLine, transferLine, List.append_assoc, List.nil_append]
  rw [hsplit, linesOf_append_lineEnd, linesOf_append_lineEnd, linesOf_append_lineEnd,
    linesOf_eq_singleton (not_mem_typeLine hkind),
    linesOf_eq_singleton (not_mem_transferLine _)]
  rfl

theorem exists_append {c : Char} {l : List Char} (s : String) :
    ∃ r, (String.ofList (c :: l) ++ s).toList = c :: r :=
  ⟨l ++ s.toList, by rw [String.toList_append, String.toList_ofList, List.cons_append]⟩

theorem exists_boundaryLine (boundary : String) : ∃ r, boundaryLine boundary = '-' :: r :=
  exists_append boundary

theorem exists_typeLine (kind : String) : ∃ r, typeLine kind = 'C' :: r := by
  rw [typeLine, String.append_assoc]
  exact exists_append _

theorem exists_transferLine (transfer : Transfer) : ∃ r, transferLine transfer = 'C' :: r :=
  exists_append _

/-- The header of a part and its body. -/
theorem splitPart_partOf (hkind : '\r' ∉ kind.toList) (content : List Char) :
    splitPart (partOf kind content) = ([typeLine kind, transferLine (.choose content)],
      (Transfer.choose content).encode (withLineEnds content)) := by
  obtain ⟨_, htype⟩ := exists_typeLine kind
  obtain ⟨_, htransfer⟩ := exists_transferLine (.choose content)
  have hlines := linesOf_partOf hkind content
  rw [htype, htransfer] at hlines ⊢
  simp [splitPart, hlines]

theorem transferLine_inj {t t' : Transfer} : transferLine t = transferLine t' ↔ t = t' := by
  refine ⟨fun h => ?_, fun h => by rw [h]⟩
  simp only [transferLine, String.toList_append, List.append_cancel_left_eq, String.toList_inj] at h
  cases t <;> cases t' <;> first | rfl | exact absurd h (by decide)

theorem append_ne {l m : List Char} (h : Text.differ l m = true) (s t : String) :
    (String.ofList l ++ s).toList ≠ (String.ofList m ++ t).toList := by
  rw [String.toList_append, String.toList_append, String.toList_ofList, String.toList_ofList]
  exact Text.append_ne_append_of_differ h _ _

theorem transferLine_ne_typeLine (transfer : Transfer) (kind : String) :
    transferLine transfer ≠ typeLine kind := by
  rw [typeLine, transferLine, String.append_assoc]
  exact append_ne (by decide) _ _

/-- A part declares the way in which it is sent. -/
theorem declaredTransfer?_eq (kind : String) (transfer : Transfer) :
    declaredTransfer? [typeLine kind, transferLine transfer] = some transfer := by
  have hcontains (t : Transfer) :
      [typeLine kind, transferLine transfer].contains (transferLine t) = decide (t = transfer) := by
    simp [transferLine_ne_typeLine, transferLine_inj]
  have hfind : declaredTransfer? [typeLine kind, transferLine transfer]
      = [Transfer.sevenBit, .quotedPrintable, .base64].find? fun t => decide (t = transfer) := by
    simp only [← hcontains]
    rfl
  rw [hfind]
  cases transfer <;> rfl

/-- **A part is read as its text, with all line ends.** -/
theorem contentOf?_partOf (hkind : '\r' ∉ kind.toList) (content : List Char) :
    contentOf? (partOf kind content) = some (withReturns content) := by
  simp only [contentOf?, splitPart_partOf hkind, declaredTransfer?_eq, Option.bind_eq_bind,
    Option.bind_some, Transfer.decode?_encode, withLineEnds_eq]

/-! ### Parts without boundary lines -/

/-- The characters of boundary lines. -/
theorem mem_boundaryLine {line : List Char} {c : Char}
    (hline : line = boundaryLine boundary ∨ line = lastLine boundary) (hc : c ∈ line) :
    c = '-' ∨ c ∈ boundary.toList := by
  have hdashes : ∀ d ∈ "--".toList, d = '-' := by
    intro d hd
    have hmarks : "--".toList = ['-', '-'] := by decide
    simpa [hmarks] using hd
  have hmark (hc : c ∈ boundaryLine boundary) : c = '-' ∨ c ∈ boundary.toList := by
    rw [boundaryLine, String.toList_append, List.mem_append] at hc
    exact hc.imp_left (hdashes c)
  rcases hline with rfl | rfl
  · exact hmark hc
  · rcases List.mem_append.mp hc with hc | hc
    · exact hmark hc
    · exact .inl (hdashes c hc)

theorem infix_boundaryLine {line : List Char}
    (hline : line = boundaryLine boundary ∨ line = lastLine boundary) :
    boundary.toList <:+: line := by
  rcases hline with rfl | rfl
  · rw [boundaryLine, String.toList_append]
    exact (List.suffix_append _ _).isInfix
  · rw [lastLine, boundaryLine, String.toList_append]
    exact List.infix_append _ _ _

theorem exists_of_boundaryLine {line : List Char}
    (hline : line = boundaryLine boundary ∨ line = lastLine boundary) : ∃ r, line = '-' :: r := by
  obtain ⟨r, hr⟩ := exists_boundaryLine boundary
  rcases hline with rfl | rfl
  · exact ⟨r, hr⟩
  · exact ⟨r ++ "--".toList, by rw [lastLine, hr, List.cons_append]⟩

/-- **A part is without boundary lines when its text is without the boundary.** -/
theorem unbounded_partOf (hkind : '\r' ∉ kind.toList)
    (hchars : ∀ c ∈ boundary.toList, c.isAlphanum = true)
    (hcontent : ¬ boundary.toList <:+: content) : Unbounded boundary (partOf kind content) := by
  intro line hmem
  rw [← not_or]
  intro hline
  obtain ⟨r, hr⟩ := exists_of_boundaryLine hline
  obtain ⟨_, htype⟩ := exists_typeLine kind
  obtain ⟨_, htransfer⟩ := exists_transferLine (.choose content)
  rw [linesOf_partOf hkind, htype, htransfer, hr] at hmem
  simp only [List.mem_cons, List.cons.injEq, reduceCtorEq, false_or, Char.reduceEq, false_and]
    at hmem
  rw [← hr] at hmem
  -- a boundary line among the lines of the body is plain
  have hascii : ∀ c ∈ line, c.toNat < 128 := by
    intro c hc
    rcases mem_boundaryLine hline hc with rfl | hc
    · decide
    · exact Text.toNat_lt_of_isAlphanum (hchars c hc)
  have hequals : '=' ∉ line := by
    intro hc
    rcases mem_boundaryLine hline hc with hc | hc
    · exact absurd hc (by decide)
    · exact Text.ne_of_test (hchars _ hc) (by decide) rfl
  have hbody := Transfer.infix_of_mem_linesOf_encode hmem hascii (by simp [hr]) hequals
  refine hcontent (infix_of_withLineEnds ?_ ?_ ((infix_boundaryLine hline).trans hbody))
  · exact fun hc => Text.ne_of_test (hchars _ hc) (by decide) rfl
  · exact fun hc => Text.ne_of_test (hchars _ hc) (by decide) rfl

/-! ### Messages -/

/-- **The message of a document carries its two texts.** A reader of its parts finds one in plain
text and one in HTML, each with the text of the document, and a carriage return before each line
feed of it. -/
theorem parts_compose {boundary : String} {document : Notice.Document} (now : Calendar.Instant)
    (sender recipient : Mailbox) (hchars : ∀ c ∈ boundary.toList, c.isAlphanum = true)
    (htext : ¬ boundary.toList <:+: document.text.toList)
    (hhtml : ¬ boundary.toList <:+: document.html.toList) :
    ∃ plain html,
      splitParts boundary (compose boundary now sender recipient document).body.toList
        = some [plain, html] ∧
      (splitPart plain).1
        = [typeLine "text/plain", transferLine (.choose document.text.toList)] ∧
      contentOf? plain = some (withReturns document.text.toList) ∧
      (splitPart html).1
        = [typeLine "text/html", transferLine (.choose document.html.toList)] ∧
      contentOf? html = some (withReturns document.html.toList) := by
  have hplain : '\r' ∉ "text/plain".toList := by decide
  have hmarkup : '\r' ∉ "text/html".toList := by decide
  refine ⟨partOf "text/plain" document.text.toList, partOf "text/html" document.html.toList, ?_,
    by rw [splitPart_partOf hplain], contentOf?_partOf hplain _,
    by rw [splitPart_partOf hmarkup], contentOf?_partOf hmarkup _⟩
  rw [compose, String.toList_ofList]
  refine splitParts_bodyOf ?_ fun part hpart => ?_
  · intro hc
    rcases mem_boundaryLine (.inl rfl) hc with hc | hc
    · exact absurd hc (by decide)
    · exact Text.ne_of_test (hchars _ hc) (by decide) rfl
  · simp only [List.mem_cons, List.not_mem_nil, or_false] at hpart
    rcases hpart with rfl | rfl
    · exact unbounded_partOf hplain hchars htext
    · exact unbounded_partOf hmarkup hchars hhtml

/-- A letter with a lone line feed in its text and a character outside ASCII in its HTML. -/
theorem parts_compose_letter :
    let boundary := String.ofList (List.replicate 40 'x')
    let letter : Notice.Document :=
      { branch := .failure, subject := "Job 1 failed", statusText := "failed"
        html := "<p>Señora,</p>\r\n", text := "Dear Ada,\nyour job is done." }
    let ada : Mailbox := ⟨some "Ada", ⟨"ada", "example.com"⟩⟩
    (∀ c ∈ boundary.toList, c.isAlphanum = true) ∧ ¬ boundary.toList <:+: letter.text.toList ∧
      ¬ boundary.toList <:+: letter.html.toList ∧
      ∃ plain html,
        splitParts boundary (compose boundary default ada ada letter).body.toList
          = some [plain, html] ∧
        contentOf? plain = some "Dear Ada,\r\nyour job is done.".toList ∧
        contentOf? html = some "<p>Señora,</p>\r\n".toList := by
  intro boundary letter ada
  have hmem : 'x' ∈ boundary.toList := by decide
  have hchars : ∀ c ∈ boundary.toList, c.isAlphanum = true := List.all_eq_true.mp (by decide)
  have htext : ¬ boundary.toList <:+: letter.text.toList :=
    fun h => absurd (h.subset hmem) (by decide)
  have hhtml : ¬ boundary.toList <:+: letter.html.toList :=
    fun h => absurd (h.subset hmem) (by decide)
  obtain ⟨plain, html, hparts, -, hplain, -, hmarkup⟩ :=
    parts_compose default ada ada hchars htext hhtml
  have hends : withReturns letter.text.toList = "Dear Ada,\r\nyour job is done.".toList := by decide
  have hkept : withReturns letter.html.toList = "<p>Señora,</p>\r\n".toList := by decide
  rw [hends] at hplain
  rw [hkept] at hmarkup
  exact ⟨hchars, htext, hhtml, plain, html, hparts, hplain, hmarkup⟩

end JobNotice.Mail
