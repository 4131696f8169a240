import JobNotice.Proofs.Command.Agreement
import JobNotice.Proofs.Files.Places
import JobNotice.Proofs.Notice.Preparation

/-!
# Rendering writes all of one document or nothing

Until the document is made a command only reads. So a failure on the way to the document leaves
every file and folder as it was, and nothing has been printed by then. Once there is a document, it
is either printed as a whole or written into a folder, and what is written is told only after the
last file has been written.

The document does not depend on what is written: an output folder may hold the input or the layouts,
which have been read before. Files are written into the folder one after the other, and none of them
is in the way of another one, so all of them are written when each could be written alone.

## Main definitions

* `Command.Selection.formats`, `Command.printedLines`, `Command.filesIn` — what is wanted
* `Command.Wrote` — a tree into a folder of which files have been written

## Main results

* `Command.writeAll_join_eq_ok` — files are written when each of them can be
* `Command.render_writes_all_or_nothing` — what rendering prints and writes
-/

namespace JobNotice.Command

open Files (Tree Place IsName join)
open Layout (Engine Format Template)
open Notice (Document)

/-! ### What is wanted -/

/-- The lines that are printed without a folder. -/
def printedLines (selection : Selection) (d : Document) : List String :=
  ["Subject: " ++ d.subject, ""] ++
    match selection with
    | .html => [d.html]
    | .text => [d.text]
    | .both => [d.text, String.ofList (List.replicate 72 '-'), d.html]

/-- The names of the wanted files and what they hold, in the order in which they are written. -/
def wanted (selection : Selection) (d : Document) : List (String × String) :=
  match selection with
  | .html => [("notification.html", d.html)]
  | .text => [("notification.txt", d.text)]
  | .both => [("notification.html", d.html), ("notification.txt", d.text)]

/-- Files in a folder by their paths. -/
def filesIn (folder : String) (files : List (String × String)) : List (String × String) :=
  files.map fun f => (join folder f.1, f.2)

theorem printed_eq (selection : Selection) (d : Document) :
    printed selection d = String.join ((printedLines selection d).map line) := by
  cases selection <;> simp [printed, printedLines, String.append_assoc]

theorem filesOf_eq (selection : Selection) (folder : String) (d : Document) :
    filesOf selection folder d = filesIn folder (wanted selection d) := by
  cases selection <;> rfl

theorem isName_fileName (f : Format) : IsName f.fileName := by
  have hsilent : Files.Path.isSilent f.fileName = false := by cases f <;> decide
  have habove : f.fileName ≠ ".." := by cases f <;> decide
  have hshort : ¬ Tree.maxName < Text.utf8Length f.fileName.toList := by cases f <;> decide
  refine ⟨fun place => ?_, by cases f <;> decide, by cases f <;> decide⟩
  rw [Files.enter?, hsilent, if_neg Bool.false_ne_true, if_neg habove, if_neg hshort]

/-- The wanted files have names of their own. -/
theorem wanted_names (selection : Selection) (d : Document) :
    (∀ f ∈ wanted selection d, IsName f.1) ∧ ((wanted selection d).map Prod.fst).Nodup ∧
      wanted selection d ≠ [] := by
  have hhtml : IsName "notification.html" := isName_fileName .html
  have htext : IsName "notification.txt" := isName_fileName .text
  cases selection <;> simp [wanted, hhtml, htext]

/-! ### Writing files -/

variable {t t' : Tree} {folder : String} {dir : Place} {files : List (String × String)}

/-- Files have been put into a folder, and nothing else has changed. -/
structure Fills (t t' : Tree) (dir : Place) (files : List (String × String)) : Prop where
  keeps : t.KeepsFolders t'
  written : ∀ f ∈ files, t'.get? (dir ++ [f.1]) = some (.file (.text f.2))
  others : ∀ place, (∀ f ∈ files, place ≠ dir ++ [f.1]) → t'.get? place = t.get? place

theorem writeAll_cons_ok {path text : String} (h : t.write path text = .ok t')
    (rest : List (String × String)) :
    writeAll Tree.disk ((path, text) :: rest) t = writeAll Tree.disk rest t' := by
  have hwrite : Tree.disk.write path text t = (.ok (), t') := by
    simp only [Tree.disk, h]
  rw [writeAll, bind_apply, hwrite]

theorem writeAll_cons_error {path text : String} {e : Files.FileError}
    (h : t.write path text = .error e) (rest : List (String × String)) :
    (writeAll Tree.disk ((path, text) :: rest) t).1 = .error (.notWritten path) := by
  have hwrite : Tree.disk.write path text t = (.error e, t) := by
    simp only [Tree.disk, h]
  rw [writeAll, bind_apply, hwrite]
  rfl

/-- Files with names of their own are written when no folder has the name of one. -/
theorem exists_fills (hnames : ∀ f ∈ files, IsName f.1) (hnodup : (files.map Prod.fst).Nodup)
    (hopens : t.Opens folder dir) (hfree : ∀ f ∈ files, t.get? (dir ++ [f.1]) ≠ some .folder) :
    ∃ t', writeAll Tree.disk (filesIn folder files) t = (.ok (), t') ∧ Fills t t' dir files := by
  induction files generalizing t with
  | nil => exact ⟨t, rfl, ⟨rfl, fun _ h => h⟩, by simp, fun _ _ => rfl⟩
  | cons f rest ih =>
    simp only [List.forall_mem_cons] at hnames hfree
    rw [List.map_cons, List.nodup_cons] at hnodup
    have hne : ∀ g ∈ rest, dir ++ [g.1] ≠ dir ++ [f.1] := by
      intro g hg heq
      have hname : g.1 = f.1 := by simpa using heq
      exact hnodup.1 (hname ▸ List.mem_map_of_mem hg)
    have hkeeps := Tree.keepsFolders_put hfree.1 (.file (.text f.2))
    have hwrite : t.write (join folder f.1) f.2
        = .ok (t.put (dir ++ [f.1]) (.file (.text f.2))) :=
      (Tree.write_join_eq_ok hnames.1).mpr ⟨dir, hopens, hfree.1, rfl⟩
    obtain ⟨t', hrest, hfills⟩ := ih hnames.2 hnodup.2 (hopens.mono hkeeps) fun g hg => by
      rw [Tree.get?_put_of_ne (hne g hg)]
      exact hfree.2 g hg
    refine ⟨t', ?_, ?_⟩
    · rw [filesIn, List.map_cons, writeAll_cons_ok hwrite]
      exact hrest
    · have hfirst : t'.get? (dir ++ [f.1]) = some (.file (.text f.2)) := by
        rw [hfills.others _ fun g hg => (hne g hg).symm, Tree.get?_put_self]
      refine ⟨⟨hfills.keeps.workFolder.trans hkeeps.workFolder, fun place h =>
        hfills.keeps.folders place (hkeeps.folders place h)⟩, ?_, fun place hplace => ?_⟩
      · exact List.forall_mem_cons.mpr ⟨hfirst, hfills.written⟩
      · rw [List.forall_mem_cons] at hplace
        rw [hfills.others place hplace.2, Tree.get?_put_of_ne hplace.1]

/-- What could be written before a file of another name can be written after it. -/
theorem write_of_put {f g : String × String} (hf : IsName f.1) (hg : IsName g.1) (hne : g.1 ≠ f.1)
    {t₁ t₂ : Tree} (hfirst : t.write (join folder f.1) f.2 = .ok t₁)
    (hsecond : t₁.write (join folder g.1) g.2 = .ok t₂) :
    ∃ t', t.write (join folder g.1) g.2 = .ok t' := by
  obtain ⟨dir, hopens, hfree, rfl⟩ := (Tree.write_join_eq_ok hf).mp hfirst
  obtain ⟨dir', hopens', hfree', -⟩ := (Tree.write_join_eq_ok hg).mp hsecond
  obtain rfl := hopens'.unique (hopens.mono (Tree.keepsFolders_put hfree _))
  rw [Tree.get?_put_of_ne (by simpa using hne)] at hfree'
  exact ⟨_, (Tree.write_join_eq_ok hg).mpr ⟨_, hopens, hfree', rfl⟩⟩

theorem forall_write_of_writeAll (hnames : ∀ f ∈ files, IsName f.1)
    (hnodup : (files.map Prod.fst).Nodup)
    (h : (writeAll Tree.disk (filesIn folder files) t).1 = .ok ()) :
    ∀ f ∈ files, ∃ t', t.write (join folder f.1) f.2 = .ok t' := by
  induction files generalizing t with
  | nil => simp
  | cons f rest ih =>
    simp only [List.forall_mem_cons] at hnames ⊢
    rw [List.map_cons, List.nodup_cons] at hnodup
    rw [filesIn, List.map_cons] at h
    cases hwrite : t.write (join folder f.1) f.2 with
    | error e =>
      rw [writeAll_cons_error hwrite] at h
      cases h
    | ok t₁ =>
      rw [writeAll_cons_ok hwrite] at h
      refine ⟨⟨t₁, rfl⟩, fun g hg => ?_⟩
      obtain ⟨t₂, hsecond⟩ := ih hnames.2 hnodup.2 h g hg
      have hne : g.1 ≠ f.1 := fun hname => hnodup.1 (hname ▸ List.mem_map_of_mem hg)
      exact write_of_put hnames.1 (hnames.2 g hg) hne hwrite hsecond

/-- Files that can be written alone lie in one folder. -/
theorem exists_opens_of_forall_write (hnames : ∀ f ∈ files, IsName f.1) (hne : files ≠ [])
    (h : ∀ f ∈ files, ∃ t', t.write (join folder f.1) f.2 = .ok t') :
    ∃ dir, t.Opens folder dir ∧ ∀ f ∈ files, t.get? (dir ++ [f.1]) ≠ some .folder := by
  obtain ⟨f, hf⟩ := List.exists_mem_of_ne_nil files hne
  obtain ⟨t', hwrite⟩ := h f hf
  obtain ⟨dir, hopens, -, -⟩ := (Tree.write_join_eq_ok (hnames f hf)).mp hwrite
  refine ⟨dir, hopens, fun g hg => ?_⟩
  obtain ⟨t'', hwrite'⟩ := h g hg
  obtain ⟨dir', hopens', hfree, -⟩ := (Tree.write_join_eq_ok (hnames g hg)).mp hwrite'
  rwa [hopens.unique hopens']

/-- **Files are written one after the other when each of them can be written alone.** -/
theorem writeAll_join_eq_ok (hnames : ∀ f ∈ files, IsName f.1)
    (hnodup : (files.map Prod.fst).Nodup) (hne : files ≠ []) :
    (writeAll Tree.disk (filesIn folder files) t).1 = .ok () ↔
      ∀ f ∈ files, ∃ t', t.write (join folder f.1) f.2 = .ok t' := by
  refine ⟨forall_write_of_writeAll hnames hnodup, fun h => ?_⟩
  obtain ⟨dir, hopens, hfree⟩ := exists_opens_of_forall_write hnames hne h
  obtain ⟨t', hall, -⟩ := exists_fills hnames hnodup hopens hfree
  rw [hall]

/-! ### Writing a document -/

/-- A tree into a folder of which files have been written: the folder and those above it may be new,
the files hold what was written, and everything else is as it was. -/
structure Wrote (t t' : Tree) (folder : String) (dir : Place) (files : List (String × String)) :
    Prop where
  workFolder : t'.workFolder = t.workFolder
  opens : t'.Opens folder dir
  written : ∀ f ∈ files, t'.get? (dir ++ [f.1]) = some (.file (.text f.2))
  others : ∀ place, (∀ f ∈ files, place ≠ dir ++ [f.1]) → t'.get? place = t.get? place ∨
    (t.get? place = none ∧ t'.get? place = some .folder ∧ ∃ parts,
      parts <+: (Files.Path.ofText folder).parts ∧
      t'.walk (t'.start (.ofText folder)) parts = .ok place)

/-- What was there and is not one of the files is there still. -/
theorem Wrote.get?_of_some {place : Place} {e : Files.Entry} (h : Wrote t t' folder dir files)
    (hplace : ∀ f ∈ files, place ≠ dir ++ [f.1]) (he : t.get? place = some e) :
    t'.get? place = some e := by
  obtain heq | ⟨hnone, -⟩ := h.others place hplace
  · rw [heq, he]
  · rw [hnone] at he
    cases he

theorem wrote_of_fills {t₁ : Tree} (hmakes : t.MakesFolders t₁ (.ofText folder))
    (hopens : t₁.Opens folder dir) (hfills : Fills t₁ t' dir files) :
    Wrote t t' folder dir files := by
  refine ⟨hfills.keeps.workFolder.trans hmakes.workFolder, hopens.mono hfills.keeps,
    hfills.written, fun place hplace => ?_⟩
  rw [hfills.others place hplace]
  refine (hmakes.entries place).imp_right ?_
  rintro ⟨hnone, hfolder, parts, hparts, hwalk⟩
  refine ⟨hnone, hfolder, parts, hparts, ?_⟩
  rw [hfills.keeps.start]
  exact hfills.keeps.walk hwalk

theorem writeDocument_apply (selection : Selection) (folder : String) (d : Document) (t : Tree) :
    writeDocument Tree.disk selection folder d t =
      match t.createFolders folder with
      | (.error _, t₁) => (.failed (.noFolder folder), t₁)
      | (.ok (), t₁) =>
        match writeAll Tree.disk (filesIn folder (wanted selection d)) t₁ with
        | (.error e, t₂) => (.failed e, t₂)
        | (.ok (), t₂) => (.ok (String.join ((wanted selection d).map fun f =>
            line ("Wrote " ++ join folder f.1))), t₂) := by
  have hcreate : Tree.disk.createFolders folder t = t.createFolders folder := rfl
  rw [writeDocument, bind_apply, hcreate, filesOf_eq]
  obtain ⟨made, t₁⟩ := t.createFolders folder
  cases made with
  | error e => rfl
  | ok u =>
    dsimp only
    rw [bind_apply]
    obtain ⟨r, t₂⟩ := writeAll Tree.disk (filesIn folder (wanted selection d)) t₁
    cases r with
    | error e => rfl
    | ok u =>
      dsimp only
      rw [filesIn, List.map_map]
      rfl

/-- A document is written when the folder and each of its files can be, and only then this is
said. -/
theorem writeDocument_outcome {selection : Selection} {d : Document} {outcome : Outcome}
    (h : writeDocument Tree.disk selection folder d t = (outcome, t')) :
    let made := t.createFolders folder
    (outcome.result = .ok () ↔ made.1 = .ok () ∧
      ∀ f ∈ wanted selection d, ∃ t₁, made.2.write (join folder f.1) f.2 = .ok t₁) ∧
    (outcome.result = .ok () →
      outcome.printed
        = String.join ((wanted selection d).map fun f => line ("Wrote " ++ join folder f.1)) ∧
      ∃ dir, Wrote t t' folder dir (wanted selection d)) ∧
    (outcome.result ≠ .ok () → outcome.printed = "") := by
  obtain ⟨hnames, hnodup, hne⟩ := wanted_names selection d
  have hmakes := Tree.makesFolders_createFolders t folder
  rw [writeDocument_apply] at h
  generalize t.createFolders folder = made at h hmakes ⊢
  obtain ⟨r, t₁⟩ := made
  cases r with
  | error e =>
    cases h
    simp [Outcome.failed]
  | ok u =>
    cases u
    dsimp only at h ⊢
    have hall : (writeAll Tree.disk (filesIn folder (wanted selection d)) t₁).1 = .ok () ↔ _ :=
      writeAll_join_eq_ok hnames hnodup hne
    by_cases hwrite : ∀ f ∈ wanted selection d, ∃ t', t₁.write (join folder f.1) f.2 = .ok t'
    · obtain ⟨dir, hopens, hfree⟩ := exists_opens_of_forall_write hnames hne hwrite
      obtain ⟨t₂, hok, hfills⟩ := exists_fills hnames hnodup hopens hfree
      rw [hok] at h
      cases h
      have hwrote : Wrote t t' folder dir (wanted selection d) :=
        wrote_of_fills hmakes hopens hfills
      exact ⟨iff_of_true rfl ⟨rfl, hwrite⟩, fun _ => ⟨rfl, dir, hwrote⟩, fun h => absurd rfl h⟩
    · obtain ⟨e, herror⟩ : ∃ e, (writeAll Tree.disk (filesIn folder (wanted selection d)) t₁).1
          = .error e := by
        cases h : (writeAll Tree.disk (filesIn folder (wanted selection d)) t₁).1 with
        | ok u => exact absurd (hall.mp h) hwrite
        | error e => exact ⟨e, rfl⟩
      generalize writeAll Tree.disk (filesIn folder (wanted selection d)) t₁ = written at h herror
      obtain ⟨r, t₂⟩ := written
      obtain rfl : r = .error e := herror
      cases h
      have hfailed : (Outcome.failed e).result ≠ .ok () := fun h => nomatch h
      exact ⟨iff_of_false hfailed fun h => hwrite h.2, fun h => absurd h hfailed, fun _ => rfl⟩

/-! ### Rendering -/

/-- The document of an input file: the layouts and the input can be read, the offset is one, and
what the input holds can be shown. -/
def Makes (engine : Engine) (now : Calendar.Instant) (s : Settings) (input : Input) (t : Tree)
    (d : Document) : Prop :=
  ∃ template defaults loaded, (s.loadTemplate engine Tree.disk t).1 = .ok template ∧
    s.defaults = .ok defaults ∧ inputOf input t = .ok loaded ∧
    loaded.document ⟨template, defaults⟩ now = .ok d

theorem documentOf_eq_ok {engine : Engine} {now : Calendar.Instant} {s : Settings} {input : Input}
    {d : Document} : documentOf engine now s input t = .ok d ↔ Makes engine now s input t d := by
  rw [documentOf, serviceOf_eq, Makes]
  cases (s.loadTemplate engine Tree.disk t).1 with
  | error e => simp [bind, Except.bind]
  | ok template =>
    cases s.defaults with
    | error e => simp [bind, Except.bind]
    | ok defaults =>
      cases inputOf input t with
      | error e => simp [bind, Except.bind]
      | ok loaded =>
        cases hdocument : loaded.document ⟨template, defaults⟩ now <;>
          simp [bind, Except.bind, hdocument]

/-- **Rendering prints or writes all of one document, or does nothing.** If there is no document
then nothing is printed and nothing changes, with or without a folder. Otherwise the document is
printed when there is no folder. Into a folder it is written when the folder and each of the files
can be, and what is printed tells the files. -/
theorem render_writes_all_or_nothing (engine : Engine) (now : Calendar.Instant) (boundary : String)
    (relay : Mail.Post → StateM Tree (Except String Unit)) (s : Settings) (input : Input)
    (selection : Selection) (t : Tree) :
    let run (folder : Option String) : Outcome × Tree :=
      render (.onTree engine now boundary relay) s input selection folder t
    ((¬ ∃ d, Makes engine now s input t d) → ∃ e, ∀ folder, run folder = (⟨"", .error e⟩, t)) ∧
    ∀ d, Makes engine now s input t d →
      run none = (⟨String.join ((printedLines selection d).map line), .ok ()⟩, t) ∧
      ∀ folder outcome t', run (some folder) = (outcome, t') →
        let made := t.createFolders folder
        (outcome.result = .ok () ↔ made.1 = .ok () ∧
          ∀ f ∈ wanted selection d, ∃ t₁, made.2.write (join folder f.1) f.2 = .ok t₁) ∧
        (outcome.result = .ok () →
          outcome.printed
            = String.join ((wanted selection d).map fun f => line ("Wrote " ++ join folder f.1)) ∧
          ∃ dir, Wrote t t' folder dir (wanted selection d)) ∧
        (outcome.result ≠ .ok () → outcome.printed = "") := by
  intro run
  refine ⟨fun hnone => ?_, fun d hd => ?_⟩
  · cases hdocument : documentOf engine now s input t with
    | ok d => exact absurd ⟨d, documentOf_eq_ok.mp hdocument⟩ hnone
    | error e =>
      refine ⟨e, fun folder => ?_⟩
      simp only [run, render_apply, hdocument]
      rfl
  · have hdocument := documentOf_eq_ok.mpr hd
    refine ⟨?_, fun folder outcome t' h => ?_⟩
    · simp only [run, render_apply, hdocument, ← printed_eq]
      rfl
    · simp only [run, render_apply, hdocument] at h
      exact writeDocument_outcome h

/-! ### A run -/

/-- With the built-in layouts there is a document of attributes that are in order. -/
theorem exists_makes_of_attributes {s : Settings} {input : Input} {defaults : Job.Defaults}
    {members : Json.Members} {c : Notice.Context} (hs : s.templates.folder = none)
    (hdefaults : s.defaults = .ok defaults) (hinput : inputOf input t = .ok (.attributes members))
    (hc : Notice.Context.ofAttributes members = .ok c) (now : Calendar.Instant) :
    ∃ d, Makes (.standard []) now s input t d := by
  have hload := (loadTemplate_of_folder (t := t) hs).trans (Layout.builtIn_eq _ _)
  exact ⟨_, _, defaults, _, hload, hdefaults, hinput,
    Notice.renderAttributes_of_ok hc (Notice.render_ofPieces _ _ c)⟩

def deskAttributes : String :=
  "\x7b\"recipient_name\":\"A\",\"job_id\":\"7\",\"is_success\":true,\"status_text\":\"Done\"," ++
    "\"links\":\x7b\"submission_url\":\"http://[::1]\",\"docs_url\":\"http://[::1]\"," ++
    "\"base_url\":\"http://[::1]\"\x7d,\"current_year\":2025\x7d"

/-- A working folder with the attributes of a job and the text of an earlier notification. -/
def desk : Tree where
  workFolder := ["desk"]
  entries := [(["desk", "job.json"], .file (.text deskAttributes)),
    (["desk", "notification.txt"], .file (.text "old"))]

/-- The attributes on the desk are in order. -/
theorem deskAttributes_ok : ∃ members c, Json.Members.ofText deskAttributes = .ok members ∧
    Notice.Context.ofAttributes members = .ok c := by
  have hsome : ((Json.Members.ofText deskAttributes).toOption.bind fun members =>
      (Notice.Context.ofAttributes members).toOption).isSome = true := by decide +kernel
  cases hmembers : Json.Members.ofText deskAttributes with
  | error e => rw [hmembers] at hsome; cases hsome
  | ok members =>
    rw [hmembers] at hsome
    cases hc : Notice.Context.ofAttributes members with
    | error report => simp [hc, Except.toOption] at hsome
    | ok c => exact ⟨members, c, rfl, hc⟩

/-- Attributes on the desk are rendered into HTML. -/
def renderOnDesk (path : String) (folder : Option String) : Outcome × Tree :=
  render (.onTree (.standard []) default "" fun _ => pure (.ok ())) {} ⟨path, true⟩ .html folder desk

/-- With the desk itself as output folder: the older text stays, and so does the input. A missing
input leaves everything as it is. -/
theorem render_html_onto_desk :
    (∃ e, ∀ folder, renderOnDesk "missing.json" folder = (⟨"", .error e⟩, desk)) ∧
      ∃ d, Makes (.standard []) default {} ⟨"job.json", true⟩ desk d ∧
        renderOnDesk "job.json" none
          = (⟨line ("Subject: " ++ d.subject) ++ line "" ++ line d.html, .ok ()⟩, desk) ∧
        ∃ t', renderOnDesk "job.json" (some ".") = (⟨"Wrote ./notification.html\n", .ok ()⟩, t') ∧
          t'.get? ["desk", "notification.html"] = some (.file (.text d.html)) ∧
          t'.get? ["desk", "notification.txt"] = some (.file (.text "old")) ∧
          t'.get? ["desk", "job.json"] = some (.file (.text deskAttributes)) := by
  obtain ⟨members, c, hmembers, hc⟩ := deskAttributes_ok
  have hinput : inputOf ⟨"job.json", true⟩ desk = .ok (.attributes members) := by
    have hread : (Tree.disk.read "job.json" desk).1 = .ok deskAttributes := rfl
    rw [inputOf_eq, hread]
    simp only [hmembers, if_true]
  have hmissing : ¬ ∃ d, Makes (.standard []) default {} ⟨"missing.json", true⟩ desk d := by
    rintro ⟨d, template, defaults, loaded, -, -, h, -⟩
    have hmissing : inputOf ⟨"missing.json", true⟩ desk
      = .error (.unreadableInput "missing.json") := rfl
    rw [hmissing] at h
    cases h
  obtain ⟨defaults, hdefaults⟩ : ∃ d, Settings.defaults {} = .ok d := ⟨_, rfl⟩
  obtain ⟨d, hd⟩ := exists_makes_of_attributes (s := {}) rfl hdefaults hinput hc default
  have hmade : desk.createFolders "." = (.ok (), desk) := rfl
  have hopens : desk.Opens "." ["desk"] := ⟨by decide, rfl, rfl⟩
  have hfree : desk.get? (["desk"] ++ ["notification.html"]) ≠ some .folder := by decide +kernel
  have hwrites : ∀ f ∈ wanted .html d, ∃ t₁, desk.write (join "." f.1) f.2 = .ok t₁ := by
    rw [wanted, List.forall_mem_singleton]
    exact ⟨_, (Tree.write_join_eq_ok (isName_fileName .html)).mpr ⟨_, hopens, hfree, rfl⟩⟩
  obtain ⟨hnothing, -⟩ := render_writes_all_or_nothing (.standard []) default ""
    (fun _ => pure (.ok ())) {} ⟨"missing.json", true⟩ .html desk
  obtain ⟨-, hsome⟩ := render_writes_all_or_nothing (.standard []) default ""
    (fun _ => pure (.ok ())) {} ⟨"job.json", true⟩ .html desk
  obtain ⟨hprinted, hfolder⟩ := hsome d hd
  rw [← printed_eq] at hprinted
  refine ⟨hnothing hmissing, d, hd, hprinted, ?_⟩
  cases hrun : renderOnDesk "job.json" (some ".") with
  | mk outcome t' =>
    obtain ⟨hok, hwritten, -⟩ := hfolder "." outcome t' hrun
    rw [hmade] at hok
    have hresult := hok.mpr ⟨rfl, hwrites⟩
    obtain ⟨htold, dir, hwrote⟩ := hwritten hresult
    obtain rfl : dir = ["desk"] := hwrote.opens.eq_workFolder.trans hwrote.workFolder
    have hother {name : String} {e : Files.Entry} (hname : name ≠ "notification.html")
        (he : desk.get? ["desk", name] = some e) : t'.get? ["desk", name] = some e :=
      hwrote.get?_of_some (fun f hf => by
        rw [List.mem_singleton.mp hf]
        simpa using hname) he
    have hpath : join "." "notification.html" = "./notification.html" := rfl
    have hlines : String.join ((wanted .html d).map fun f => line ("Wrote " ++ join "." f.1))
        = "Wrote ./notification.html\n" := by
      simp [wanted, line, hpath]
    obtain ⟨told, result⟩ := outcome
    obtain rfl : result = .ok () := hresult
    obtain rfl : told = "Wrote ./notification.html\n" := htold.trans hlines
    exact ⟨t', rfl, hwrote.written _ (List.mem_singleton_self _), hother (by decide) rfl,
      hother (by decide) rfl⟩

end JobNotice.Command
