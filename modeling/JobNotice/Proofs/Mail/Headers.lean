import JobNotice.Proofs.Decimal.Numeral
import JobNotice.Proofs.Mail.Decoding
import JobNotice.Proofs.Mail.Mailboxes
import JobNotice.Proofs.Notice.Rendering

/-!
# The header of a message

The header of a message has the fields that were composed and no others. Each field is a line that
begins with a name, and all other lines begin with a space, because the text of each field is
folded. That holds whatever the mailboxes, the job and the product are called. The subject is read
as the one of the document, a line of text, unless two of its words are encoded with nothing but two
or more spaces between them.

## Main definitions

* `Mail.isContinuation` — lines that go on a field
* `Mail.fieldName`, `Mail.fieldText?` — the fields of header lines

## Main results

* `Mail.splitPart_text` — the header and the body of a message
* `Mail.fieldText?_header` — a field is found with its unfolded text
* `Mail.header_compose` — the header of the message of a document
-/

namespace JobNotice.Mail

open Text (splitChars isControl)

/-! ### Reading header lines -/

/-- A line that goes on the field before it. -/
def isContinuation (line : List Char) : Bool := line.head?.any isSpaceOrTab

/-- What stands before the colon of a line. -/
def fieldName (line : List Char) : List Char := line.takeWhile (· != ':')

/-- The line of a field up to its text. -/
def label (name : String) : List Char := (name ++ ": ").toList

/-- The text of the first field with a name, without line ends. -/
def fieldText? (name : String) (lines : List (List Char)) : Option (List Char) :=
  match lines.dropWhile fun line => !(label name).isPrefixOf line with
  | [] => none
  | line :: rest =>
    some (line.drop (label name).length ++ (rest.takeWhile isContinuation).flatten)

/-! ### Lines of fields -/

/-- The characters of names: visible ASCII without the colon. -/
def isNameChar (c : Char) : Bool := 33 ≤ c.toNat && c.toNat ≤ 126 && c != ':'

/-- A name and a folded text. -/
structure IsField (f : String × String) : Prop where
  name_ne_nil : f.1.toList ≠ []
  name : ∀ c ∈ f.1.toList, isNameChar c = true
  folded : ∃ u, Folded f.2.toList u

/-- The lines of a field. -/
def fieldLines (f : String × String) : List (List Char) := linesOf (label f.1 ++ f.2.toList)

variable {f : String × String} {fields : List (String × String)} {name : String}

theorem label_eq (name : String) : label name = name.toList ++ [':', ' '] := by
  rw [label, String.toList_append]
  rfl

/-- **The lines of a message**: those of its fields, an empty one, and those of its body. -/
theorem linesOf_text (m : Message) :
    linesOf m.text.toList = m.fields.flatMap fieldLines ++ [] :: linesOf m.body.toList := by
  have hend : "\r\n".toList = lineEnd := by decide
  have hfields (fields : List (String × String)) (t : List Char) :
      linesOf (fields.flatMap (fun f => label f.1 ++ f.2.toList ++ lineEnd) ++ t)
        = fields.flatMap fieldLines ++ linesOf t := by
    induction fields with
    | nil => rfl
    | cons f fields ih =>
      rw [List.flatMap_cons, List.flatMap_cons, List.append_assoc, List.append_assoc,
        linesOf_append_lineEnd, ih, List.append_assoc]
      rfl
  have htext : m.text.toList = m.fields.flatMap (fun f => label f.1 ++ f.2.toList ++ lineEnd) ++
      (lineEnd ++ m.body.toList) := by
    rw [Message.text, Message.headerText, String.toList_append, String.toList_append,
      String.toList_join, List.flatMap_map, hend, List.append_assoc]
    simp only [String.toList_append, hend, label]
  rw [htext, hfields]
  rfl

/-- A field is a line with its name and lines that begin with a space. -/
theorem IsField.lines (hf : IsField f) : ∃ first rest,
    fieldLines f = (label f.1 ++ first) :: rest ∧ (first :: rest).flatten = unfold f.2.toList ∧
      ∀ line ∈ rest, line.head? = some ' ' := by
  obtain ⟨u, hu⟩ := hf.folded
  obtain ⟨first, rest, hlines, -, hflat, hrest⟩ := hu.linesOf
  refine ⟨first, rest, linesOf_append ?_ hlines, hflat.trans hu.unfold.symm,
    fun line hline => (hrest line hline).2⟩
  rw [label_eq, List.mem_append]
  rintro (h | h)
  · exact absurd (hf.name _ h) (by decide)
  · exact absurd h (by decide)

theorem isSpaceOrTab_of_isNameChar {c : Char} (hc : isNameChar c = true) :
    isSpaceOrTab c = false := by
  rw [Bool.eq_false_iff]
  intro h
  simp only [isSpaceOrTab, Bool.or_eq_true, decide_eq_true_eq] at h
  rcases h with rfl | rfl
  · exact absurd hc (by decide)
  · exact absurd hc (by decide)

/-- The first line of a field begins with its name. -/
theorem isContinuation_label (hf : IsField f) (s : List Char) :
    isContinuation (label f.1 ++ s) = false := by
  obtain ⟨c, r, hname⟩ := List.exists_cons_of_ne_nil hf.name_ne_nil
  have hc := hf.name c (by simp [hname])
  rw [label_eq, hname, isContinuation, List.cons_append, List.cons_append, List.head?_cons]
  exact isSpaceOrTab_of_isNameChar hc

theorem isContinuation_of_head {line : List Char} (h : line.head? = some ' ') :
    isContinuation line = true := by
  rw [isContinuation, h]
  rfl

theorem fieldName_label (hname : ∀ c ∈ name.toList, isNameChar c = true) (s : List Char) :
    fieldName (label name ++ s) = name.toList := by
  have hcolon : ∀ c ∈ name.toList, (c != ':') = true := by
    intro c hc
    have hchar := hname c hc
    simp only [isNameChar, Bool.and_eq_true] at hchar
    exact hchar.2
  rw [fieldName, label_eq, List.append_assoc, List.takeWhile_append_of_pos hcolon]
  simp

/-- **The header and the body of a message.** -/
theorem splitPart_text {m : Message} (h : ∀ f ∈ m.fields, IsField f) :
    splitPart m.text.toList = (m.fields.flatMap fieldLines, m.body.toList) := by
  have hne : ∀ line ∈ m.fields.flatMap fieldLines, (!line.isEmpty) = true := by
    intro line hline
    obtain ⟨f, hf, hline⟩ := List.mem_flatMap.mp hline
    obtain ⟨first, rest, hlines, -, hrest⟩ := (h f hf).lines
    rw [hlines, List.mem_cons] at hline
    rcases hline with rfl | hline
    · simp [label_eq]
    · have hhead := hrest line hline
      cases line with
      | nil => cases hhead
      | cons c line => rfl
  unfold splitPart
  simp only [linesOf_text, List.takeWhile_append_of_pos hne, List.dropWhile_append_of_pos hne]
  simp

/-- **The fields of a header are the ones that were written.** -/
theorem fieldNames_header (h : ∀ f ∈ fields, IsField f) :
    ((fields.flatMap fieldLines).filter (!isContinuation ·)).map fieldName
      = fields.map (·.1.toList) := by
  induction fields with
  | nil => rfl
  | cons f fields ih =>
    have hf := h f (List.mem_cons_self ..)
    obtain ⟨first, rest, hlines, -, hrest⟩ := hf.lines
    have hnone : rest.filter (!isContinuation ·) = [] := by
      rw [List.filter_eq_nil_iff]
      intro line hline
      simp [isContinuation_of_head (hrest line hline)]
    have hfirst : (!isContinuation (label f.1 ++ first)) = true := by
      rw [isContinuation_label hf]
      rfl
    have hfields := ih fun g hg => h g (List.mem_cons_of_mem f hg)
    rw [List.flatMap_cons, List.filter_append, List.map_append, hlines,
      List.filter_cons_of_pos (p := (!isContinuation ·)) hfirst, hnone, hfields,
      List.map_singleton, fieldName_label hf.name]
    rfl

/-- No line of a field begins with another name. -/
theorem not_isPrefixOf_fieldLines (hf : IsField f) (hname : ∀ c ∈ name.toList, isNameChar c = true)
    (hne : f.1 ≠ name) : ∀ line ∈ fieldLines f, (!(label name).isPrefixOf line) = true := by
  obtain ⟨first, rest, hlines, -, hrest⟩ := hf.lines
  intro line hline
  rw [Bool.not_eq_true', Bool.eq_false_iff, Ne, List.isPrefixOf_iff_prefix]
  rintro ⟨t, ht⟩
  rw [hlines, List.mem_cons] at hline
  rcases hline with rfl | hline
  · have hnames := congrArg fieldName ht
    rw [fieldName_label hname, fieldName_label hf.name, String.toList_inj] at hnames
    exact hne hnames.symm
  · have hhead := hrest line hline
    rw [← ht, label_eq] at hhead
    cases hchars : name.toList with
    | nil =>
      rw [hchars] at hhead
      cases hhead
    | cons c r =>
      have hc := isSpaceOrTab_of_isNameChar (hname c (by simp [hchars]))
      rw [hchars] at hhead
      obtain rfl : c = ' ' := Option.some.inj hhead
      cases hc

/-- **A field is found with its unfolded text.** -/
theorem fieldText?_header (h : ∀ f ∈ fields, IsField f)
    (hname : ∀ c ∈ name.toList, isNameChar c = true) :
    fieldText? name (fields.flatMap fieldLines)
      = (fields.find? (·.1 == name)).map (unfold ·.2.toList) := by
  have hnext (fields : List (String × String)) (h : ∀ f ∈ fields, IsField f) :
      (fields.flatMap fieldLines).takeWhile isContinuation = [] := by
    cases fields with
    | nil => rfl
    | cons f fields =>
      have hf := h f (List.mem_cons_self ..)
      obtain ⟨first, rest, hlines, -, -⟩ := hf.lines
      rw [List.flatMap_cons, hlines, List.cons_append, List.takeWhile_cons,
        isContinuation_label hf]
      rfl
  induction fields with
  | nil => rfl
  | cons f fields ih =>
    have hf := h f (List.mem_cons_self ..)
    have hfields := fun g hg => h g (List.mem_cons_of_mem f hg)
    rw [List.flatMap_cons, List.find?_cons]
    by_cases hfound : f.1 = name
    · subst hfound
      obtain ⟨first, rest, hlines, hflat, hrest⟩ := hf.lines
      have hcontinue : ∀ line ∈ rest, isContinuation line = true :=
        fun line hline => isContinuation_of_head (hrest line hline)
      have hbegins : (!(label f.1).isPrefixOf (label f.1 ++ first)) = false := by
        rw [Bool.not_eq_false', List.isPrefixOf_iff_prefix]
        exact List.prefix_append _ _
      rw [beq_self_eq_true, hlines, fieldText?, List.cons_append, List.dropWhile_cons, hbegins]
      simp only [Bool.false_eq_true, if_false, List.drop_left]
      rw [List.takeWhile_append_of_pos hcontinue, hnext fields hfields, List.append_nil,
        ← List.flatten_cons, hflat]
      rfl
    · have hbeq : (f.1 == name) = false := by simpa using hfound
      rw [hbeq, ← ih hfields, fieldText?, fieldText?,
        List.dropWhile_append_of_pos (not_isPrefixOf_fieldLines hf hname hfound)]

/-! ### The fields of a message -/

theorem clean_padded (width n : Nat) : Clean (Calendar.padded width n) := by
  have hzeros : Clean (List.replicate (width - (Decimal.natChars n).length) '0') :=
    Clean.of_mem (p := (· == '0')) (fun c hc => by simp [List.eq_of_mem_replicate hc]) rfl rfl
  exact hzeros.append (Clean.of_mem (p := Char.isDigit)
    (fun _ hc => Decimal.isDigit_of_mem_natText hc) (by decide) (by decide))

theorem clean_intText (i : Int) : Clean (Decimal.intText i).toList :=
  Clean.of_mem (p := fun c => c == '-' || c.isDigit)
    (fun c hc => by simpa using Decimal.mem_intText hc) (by decide) (by decide)

theorem clean_getD (names : List String) (h : ∀ name ∈ names, Clean name.toList) (i : Nat) :
    Clean (names[i]?.getD "").toList := by
  cases hname : names[i]? with
  | none => exact Clean.nil
  | some name => exact h name (List.mem_of_getElem? hname)

theorem clean_dateText (t : Calendar.Instant) : Clean (dateText t).toList := by
  have hweekday := clean_getD weekdays (by decide) ((t.day + 3) % 7).toNat
  have hmonth := clean_getD months (by decide) ((Calendar.Date.ofDay t.day).month - 1)
  have htwo (n : Nat) : Clean (String.ofList (Calendar.padded 2 n)).toList := by
    rw [String.toList_ofList]
    exact clean_padded 2 n
  simp only [dateText, String.toList_append]
  exact ((((((((((((hweekday.append (by decide)).append (htwo _)).append (by decide)).append
    hmonth).append (by decide)).append (clean_intText _)).append (by decide)).append
    (htwo _)).append (by decide)).append (htwo _)).append (by decide)).append (htwo _)).append
    (by decide)

theorem isField_of {name text : String} (hne : name.toList ≠ [])
    (hname : name.toList.all isNameChar = true) (h : ∃ u, Folded text.toList u) :
    IsField (name, text) :=
  ⟨hne, List.all_eq_true.mp hname, h⟩

/-- **The fields of a message are names with folded texts.** -/
theorem isField_compose {source target : String} {sender recipient : Mailbox}
    (hsource : Mailbox.ofText source = .ok sender) (htarget : Mailbox.ofText target = .ok recipient)
    (boundary : String) (now : Calendar.Instant) (d : Notice.Document) :
    ∀ f ∈ (compose boundary now sender recipient d).fields, IsField f := by
  have hheader (name s : String) : ∃ u, Folded (headerOf name s).toList u := by
    obtain ⟨x, -, hx⟩ := exists_mixed_headerOf name s
    exact ⟨x, hx⟩
  intro f hf
  simp only [compose, List.mem_cons, List.not_mem_nil, or_false] at hf
  rcases hf with rfl | rfl | rfl | rfl | rfl | rfl
  · exact isField_of (by decide) (by decide) (exists_folded_header hsource _)
  · exact isField_of (by decide) (by decide) (exists_folded_header htarget _)
  · exact isField_of (by decide) (by decide) (hheader _ _)
  · exact isField_of (by decide) (by decide) ⟨_, .last (by decide)⟩
  · exact isField_of (by decide) (by decide) ⟨_, .last (clean_dateText now)⟩
  · exact isField_of (by decide) (by decide) (hheader _ _)

/-! ### Subjects -/

theorem subject_of_render {t : Layout.Template} {c : Notice.Context} {d : Notice.Document}
    (h : Notice.render t c = .ok d) : d.subject = Notice.subjectLine c t.product := by
  unfold Notice.render at h
  cases hhtml : t.fill .html (Notice.htmlSlot c t.product t.support) with
  | error e => rw [hhtml] at h; cases h
  | ok html =>
    cases htext : t.fill .text (Notice.textSlot c t.product t.support) with
    | error e => rw [hhtml, htext] at h; cases h
    | ok text =>
      rw [hhtml, htext] at h
      rw [← Except.ok.inj h]

theorem summary_eq (c : Notice.Context) :
    c.branch.summary = if c.isSuccess then "completed successfully" else "failed" := by
  unfold Notice.Context.branch Notice.Context.isSuccess
  cases c.outcome <;> rfl

/-- A subject is the line of its job, with a space for each control character. -/
theorem toList_subject {t : Layout.Template} {c : Notice.Context} {d : Notice.Document}
    (h : Notice.render t c = .ok d) :
    d.subject.toList = ("[" ++ t.product ++ "] Job " ++ c.jobId ++ " " ++
      (if c.isSuccess then "completed successfully" else "failed")).toList.map
        fun x => if isControl x then ' ' else x := by
  rw [subject_of_render h, Notice.subjectLine, String.toList_ofList, Notice.oneLine, summary_eq]

theorem not_isControl_of_mem_subject {t : Layout.Template} {c : Notice.Context}
    {d : Notice.Document} (h : Notice.render t c = .ok d) :
    ∀ x ∈ d.subject.toList, isControl x = false := by
  intro x hx
  rw [toList_subject h] at hx
  obtain ⟨y, -, rfl⟩ := List.mem_map.mp hx
  split
  · decide
  · rename_i hy
    simpa using hy

/-- **The header of the message of a document.** It has six fields and nothing else, whatever the
mailboxes, the job and the product are called. The subject is the one of the document, a line of
text, and is read as such unless it has a wide gap. -/
theorem header_compose {t : Layout.Template} {c : Notice.Context} {d : Notice.Document}
    {source target : String} {sender recipient : Mailbox} (boundary : String)
    (now : Calendar.Instant) (hd : Notice.render t c = .ok d)
    (hsource : Mailbox.ofText source = .ok sender)
    (htarget : Mailbox.ofText target = .ok recipient) :
    let header := (splitPart (compose boundary now sender recipient d).text.toList).1
    (header.filter (!isContinuation ·)).map fieldName
        = ["From", "To", "Subject", "MIME-Version", "Date", "Content-Type"].map String.toList ∧
      d.subject.toList = ("[" ++ t.product ++ "] Job " ++ c.jobId ++ " " ++
        (if c.isSuccess then "completed successfully" else "failed")).toList.map
          (fun x => if isControl x then ' ' else x) ∧
      ∃ subject, fieldText? "Subject" header = some subject ∧
        (¬ ['=', '?'] <:+: d.subject.toList →
          (decodeWords subject = d.subject.toList ↔ ¬ HasWideGap d.subject)) := by
  have hfields := isField_compose hsource htarget boundary now d
  have hname : ∀ c ∈ "Subject".toList, isNameChar c = true := List.all_eq_true.mp (by decide)
  rw [splitPart_text hfields]
  refine ⟨?_, toList_subject hd, unfold (headerOf "Subject" d.subject).toList, ?_, fun hmark => ?_⟩
  · rw [fieldNames_header hfields]
    rfl
  · rw [fieldText?_header hfields hname]
    rfl
  · rw [decodeWords_headerOf "Subject" hmark, wideGapIn_iff (not_isControl_of_mem_subject hd)]

/-- A failed job. -/
def contextOfJob (id : String) : Notice.Context where
  recipientName := "Ada"
  jobId := id
  outcome := .failure none
  statusText := "Failed"
  submissionTime := none
  completionTime := none
  executionTime := none
  stages := none
  links := ⟨"http://[::1]/", "http://[::1]/", "http://[::1]/"⟩
  logoUrl := none
  currentYear := 2026

theorem ofText_sender : Mailbox.ofText "SIVACOR <noreply@sivacor.org>"
    = .ok ⟨some "SIVACOR", ⟨"noreply", "sivacor.org"⟩⟩ := by decide +kernel

theorem ofText_recipient :
    Mailbox.ofText "ada@example.com" = .ok ⟨none, ⟨"ada", "example.com"⟩⟩ := by decide +kernel

/-- A job whose name tries to add a field. -/
theorem header_compose_of_lineEnd :
    ∃ d, Notice.render (.ofPieces Layout.builtInHtml Layout.builtInText "SIVACOR" "s@sivacor.org")
        (contextOfJob "é\r\nBcc: eve@example.com") = .ok d ∧
      Mailbox.ofText "SIVACOR <noreply@sivacor.org>"
        = .ok ⟨some "SIVACOR", ⟨"noreply", "sivacor.org"⟩⟩ ∧
      Mailbox.ofText "ada@example.com" = .ok ⟨none, ⟨"ada", "example.com"⟩⟩ ∧
      d.subject = "[SIVACOR] Job é  Bcc: eve@example.com failed" ∧
      ¬ ['=', '?'] <:+: d.subject.toList ∧
      let header := (splitPart (compose "BOUNDARY" default
        ⟨some "SIVACOR", ⟨"noreply", "sivacor.org"⟩⟩ ⟨none, ⟨"ada", "example.com"⟩⟩ d).text.toList).1
      (header.filter (!isContinuation ·)).map fieldName
          = ["From", "To", "Subject", "MIME-Version", "Date", "Content-Type"].map String.toList ∧
        ∃ subject, fieldText? "Subject" header = some subject ∧
          (decodeWords subject = d.subject.toList ↔ ¬ HasWideGap d.subject) := by
  have hd := Notice.render_ofPieces "SIVACOR" "s@sivacor.org"
    (contextOfJob "é\r\nBcc: eve@example.com")
  obtain ⟨hnames, -, subject, hsubject, hread⟩ :=
    header_compose "BOUNDARY" default hd ofText_sender ofText_recipient
  refine ⟨_, hd, ofText_sender, ofText_recipient, by decide, ?mark, hnames, subject, hsubject,
    hread ?mark⟩
  decide

/-- Two spaces between words outside ASCII are lost. -/
theorem not_decodeWords_subject :
    Notice.Context.ofAttributes (contextOfJob "é  é").toAttributes = .ok (contextOfJob "é  é") ∧
      ∃ d, Notice.renderBuiltIn "SIVACOR" "s@sivacor.org" (contextOfJob "é  é") = .ok d ∧
        Mailbox.ofText "SIVACOR <noreply@sivacor.org>"
          = .ok ⟨some "SIVACOR", ⟨"noreply", "sivacor.org"⟩⟩ ∧
        Mailbox.ofText "ada@example.com" = .ok ⟨none, ⟨"ada", "example.com"⟩⟩ ∧
        d.subject = "[SIVACOR] Job é  é failed" ∧ ¬ ['=', '?'] <:+: d.subject.toList ∧
        ∃ subject, fieldText? "Subject" (splitPart (compose "BOUNDARY" default
            ⟨some "SIVACOR", ⟨"noreply", "sivacor.org"⟩⟩ ⟨none, ⟨"ada", "example.com"⟩⟩
            d).text.toList).1 = some subject ∧
          decodeWords subject = "[SIVACOR] Job éé failed".toList ∧
          decodeWords subject ≠ d.subject.toList := by
  have hsubject : (Notice.builtInDocument "SIVACOR" "s@sivacor.org" (contextOfJob "é  é")).subject
      = "[SIVACOR] Job é  é failed" := by decide
  have hfields := isField_compose ofText_sender ofText_recipient "BOUNDARY" default
    (Notice.builtInDocument "SIVACOR" "s@sivacor.org" (contextOfJob "é  é"))
  have hname : ∀ c ∈ "Subject".toList, isNameChar c = true := List.all_eq_true.mp (by decide)
  refine ⟨by decide +kernel, _, Notice.renderBuiltIn_eq _ _ _, ofText_sender, ofText_recipient,
    hsubject, by decide, unfold (headerOf "Subject" "[SIVACOR] Job é  é failed").toList, ?_, ?_, ?_⟩
  · rw [splitPart_text hfields, fieldText?_header hfields hname, ← hsubject]
    rfl
  · decide +kernel
  · decide +kernel

end JobNotice.Mail
