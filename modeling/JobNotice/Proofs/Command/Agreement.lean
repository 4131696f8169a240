import JobNotice.Command.Run
import JobNotice.Proofs.Layout.Variables
import JobNotice.Proofs.Notice.Deliveries
import JobNotice.Proofs.Notice.Rendering

/-!
# The commands agree

Three commands load the same template, and two of them make the same document of the same input.
Carried out on one file tree they have to tell the same story: the check of the templates fails when
rendering and sending fail for the templates, and a dry run of sending ends as rendering does, with
the same error where both fail. So what the check and the dry run approve of is what is rendered
later, and nothing about the recipient can change that.

Each command is a run of its own, in which the layouts get their own answers from the engine: another
run may see other environment variables and other times, and draws other numbers. So all of this
is said of runs in which the layouts that the settings name get the same answers. Straight layouts
do, the built-in ones among them. Other layouts need not, and then the check may approve of what
rendering refuses (`commands_disagree`). One that prints an environment variable is such a layout.

All loading is reading, which leaves the tree as it is, so a command that only reads is determined
by what it reads. What rendering and sending have in common is said once, as `documentOf`: the
service, then the input, then the document, the first error being the one that counts. Rendering
without a folder comes to that (`result_render`), and so does a dry run with a recipient
(`result_send_dry`).

## Main definitions

* `Command.Keeps` — an action that leaves the tree as it is
* `Command.Surroundings.onTree` — surroundings whose files are those of a tree
* `Command.documentOf` — the document of an input file, or the first error on the way to it
* `Command.HasRecipient` — inputs that can be sent
* `Command.AnswerAlike` — engines that make the same of the layouts that the settings name

## Main results

* `Command.result_render`, `Command.result_send_dry` — what rendering and a dry run come to
* `Command.checkTemplates_fails_iff` — when the check fails
* `Command.answerAlike_standard` — the environment does not matter to the built-in layouts
* `Command.commands_agree` — the three commands on one tree
* `Command.commands_disagree`, `Command.commands_disagree_on_site` — when they do not, and a layout
  of which they do not
-/

namespace JobNotice.Command

open Files (Tree)
open Layout (Engine Format Template builtInHtml builtInText sourceOf)
open Notice (Document Service)

/-! ### Reading -/

theorem bind_apply {α β : Type} (act : StateM Tree α) (next : α → StateM Tree β) (t : Tree) :
    (act >>= next) t = next (act t).1 (act t).2 := rfl

theorem pure_apply {α : Type} (a : α) (t : Tree) : (pure a : StateM Tree α) t = (a, t) := rfl

/-- An action that leaves the tree as it is. -/
def Keeps {α : Type} (act : StateM Tree α) : Prop := ∀ t, (act t).2 = t

namespace Keeps

variable {α β : Type} {act : StateM Tree α}

theorem pure (a : α) : Keeps (Pure.pure a : StateM Tree α) := fun _ => rfl

theorem bind (h : Keeps act) {next : α → StateM Tree β} (hnext : ∀ a, Keeps (next a)) :
    Keeps (act >>= next) := by
  intro t
  rw [Command.bind_apply, hnext, h]

/-- What follows goes on from the same tree. -/
theorem bind_apply (h : Keeps act) (next : α → StateM Tree β) (t : Tree) :
    (act >>= next) t = next (act t).1 t := by
  rw [Command.bind_apply, h]

end Keeps

theorem keeps_read (path : String) : Keeps (Tree.disk.read path) := fun _ => rfl

theorem keeps_ofFolder (engine : Engine) (folder product support : String) :
    Keeps (Template.ofFolder engine Tree.disk folder product support) := by
  refine (keeps_read _).bind fun html => ?_
  cases html with
  | error e => exact Keeps.pure _
  | ok html =>
    refine (keeps_read _).bind fun text => ?_
    cases text <;> exact Keeps.pure _

theorem keeps_loadTemplate (engine : Engine) (s : Settings) :
    Keeps (s.loadTemplate engine Tree.disk) := by
  unfold Settings.loadTemplate
  cases s.templates.folder with
  | none => exact Keeps.pure _
  | some folder => exact keeps_ofFolder engine folder _ _

theorem keeps_loadService (engine : Engine) (s : Settings) :
    Keeps (loadService engine Tree.disk s) := by
  refine (keeps_loadTemplate engine s).bind fun template => ?_
  cases template with
  | error e => exact Keeps.pure _
  | ok template => cases s.defaults <;> exact Keeps.pure _

theorem keeps_loadInput (input : Input) : Keeps (loadInput Tree.disk input) := by
  refine (keeps_read _).bind fun text => ?_
  cases text with
  | error e => exact Keeps.pure _
  | ok text =>
    dsimp only
    split
    · cases Json.Members.ofText text <;> exact Keeps.pure _
    · cases Job.Record.ofText text <;> exact Keeps.pure _

/-! ### Documents -/

/-- Surroundings whose files are those of a tree. -/
def Surroundings.onTree (engine : Engine) (now : Calendar.Instant) (boundary : String)
    (relay : Mail.Post → StateM Tree (Except String Unit)) : Surroundings (StateM Tree) :=
  ⟨engine, Tree.disk, now, boundary, relay⟩

/-- The service that the settings describe on a tree. -/
def serviceOf (engine : Engine) (s : Settings) (t : Tree) : Except RunError Service :=
  (loadService engine Tree.disk s t).1

/-- What an input file holds on a tree. -/
def inputOf (input : Input) (t : Tree) : Except RunError Loaded := (loadInput Tree.disk input t).1

/-- The document of an input file, or the first error on the way to it. -/
def documentOf (engine : Engine) (now : Calendar.Instant) (s : Settings) (input : Input)
    (t : Tree) : Except RunError Document := do
  let service ← serviceOf engine s t
  let loaded ← inputOf input t
  match loaded.document service now with
  | .error e => .error (.notice e)
  | .ok d => .ok d

/-- Whether an input can be sent: attributes do not tell whom to send them to. -/
def HasRecipient (input : Input) (to? : Option String) : Prop :=
  input.raw = true → to?.isSome = true

instance (input : Input) (to? : Option String) : Decidable (HasRecipient input to?) := by
  unfold HasRecipient
  infer_instance

variable {engine : Engine} {now : Calendar.Instant} {boundary : String}
  {relay : Mail.Post → StateM Tree (Except String Unit)} {s : Settings} {input : Input} {t : Tree}

theorem inputOf_eq : inputOf input t =
    match (Tree.disk.read input.path t).1 with
    | .error _ => .error (.unreadableInput input.path)
    | .ok text =>
      if input.raw then
        match Json.Members.ofText text with
        | .error _ => .error .noAttributes
        | .ok members => .ok (.attributes members)
      else
        match Job.Record.ofText text with
        | .error _ => .error .noRecord
        | .ok record => .ok (.job record) := by
  rw [inputOf, loadInput, (keeps_read _).bind_apply]
  cases (Tree.disk.read input.path t).1 with
  | error e => rfl
  | ok text =>
    dsimp only
    split
    · cases Json.Members.ofText text <;> rfl
    · cases Job.Record.ofText text <;> rfl

/-- The kind of an input says what it holds. -/
theorem raw_of_inputOf {members : Json.Members} (h : inputOf input t = .ok (.attributes members)) :
    input.raw = true := by
  rw [inputOf_eq] at h
  split at h
  · cases h
  · split at h
    · assumption
    · split at h <;> cases h

/-- A recipient does not change the document of an input. -/
theorem document_of_addressed {loaded addressed : Loaded} {to? : Option String}
    {recipient done : String} (h : loaded.addressed to? = .ok (addressed, recipient, done))
    (service : Service) (now : Calendar.Instant) :
    addressed.document service now = loaded.document service now := by
  cases loaded with
  | job record =>
    cases h
    exact Service.prepare_congr_email service now record _
  | attributes members =>
    cases to? with
    | none => cases h
    | some email => cases h; rfl

theorem exists_addressed {loaded : Loaded} {to? : Option String} (hto : HasRecipient input to?)
    (h : inputOf input t = .ok loaded) : ∃ r, loaded.addressed to? = .ok r := by
  cases loaded with
  | job record => exact ⟨_, rfl⟩
  | attributes members =>
    obtain ⟨email, rfl⟩ := Option.isSome_iff_exists.mp (hto (raw_of_inputOf h))
    exact ⟨_, rfl⟩

/-! ### What commands come to -/

theorem loadService_bind_apply {β : Type} (next : Except RunError Service → StateM Tree β) :
    (loadService engine Tree.disk s >>= next) t = next (serviceOf engine s t) t :=
  (keeps_loadService engine s).bind_apply next t

theorem loadInput_bind_apply {β : Type} (next : Except RunError Loaded → StateM Tree β) :
    (loadInput Tree.disk input >>= next) t = next (inputOf input t) t :=
  (keeps_loadInput input).bind_apply next t

/-- Rendering makes the document and then prints it or writes it into a folder. -/
theorem render_apply (selection : Selection) (folder : Option String) :
    render (.onTree engine now boundary relay) s input selection folder t =
      match documentOf engine now s input t with
      | .error e => (.failed e, t)
      | .ok d =>
        match folder with
        | none => (.ok (printed selection d), t)
        | some folder => writeDocument Tree.disk selection folder d t := by
  simp only [render, documentOf, Surroundings.onTree, loadService_bind_apply]
  cases serviceOf engine s t with
  | error e => rfl
  | ok service =>
    simp only [loadInput_bind_apply]
    cases inputOf input t with
    | error e => rfl
    | ok loaded =>
      simp only [bind, Except.bind]
      cases loaded.document service now with
      | error e => rfl
      | ok d => cases folder <;> rfl

/-- A dry run of sending makes the document of the input as it is addressed. -/
theorem result_send_dry_apply (to? : Option String) :
    (send (.onTree engine now boundary relay) s input to? true t).1.result = (do
      let service ← serviceOf engine s t
      let loaded ← inputOf input t
      let (addressed, _, _) ← loaded.addressed to?
      match addressed.document service now with
      | .error e => .error (.notice e)
      | .ok _ => .ok ()) := by
  simp only [send, Bool.not_true, Bool.false_and, Bool.false_eq_true, if_false,
    Surroundings.onTree, loadService_bind_apply]
  cases serviceOf engine s t with
  | error e => rfl
  | ok service =>
    simp only [loadInput_bind_apply]
    cases inputOf input t with
    | error e => rfl
    | ok loaded =>
      simp only [bind, Except.bind]
      cases loaded.addressed to? with
      | error e => rfl
      | ok r =>
        obtain ⟨addressed, recipient, done⟩ := r
        dsimp only
        cases addressed.document service now <;> rfl

/-- Rendering without a folder succeeds when there is a document, and otherwise fails as that. -/
theorem result_render (selection : Selection) :
    (render (.onTree engine now boundary relay) s input selection none t).1.result
      = (documentOf engine now s input t).map fun _ => () := by
  rw [render_apply]
  cases documentOf engine now s input t <;> rfl

/-- A dry run with a recipient comes to the same. -/
theorem result_send_dry {to? : Option String} (hto : HasRecipient input to?) :
    (send (.onTree engine now boundary relay) s input to? true t).1.result
      = (documentOf engine now s input t).map fun _ => () := by
  rw [result_send_dry_apply, documentOf]
  cases serviceOf engine s t with
  | error e => rfl
  | ok service =>
    cases hinput : inputOf input t with
    | error e => rfl
    | ok loaded =>
      obtain ⟨⟨addressed, recipient, done⟩, h⟩ := exists_addressed hto hinput
      simp only [bind, Except.bind, h, document_of_addressed h]
      cases loaded.document service now <;> rfl

/-! ### Templates -/

theorem checkTemplates_apply :
    (checkTemplates (.onTree engine now boundary relay) s t).1.result =
      match (s.loadTemplate engine Tree.disk t).1 with
      | .ok _ => .ok ()
      | .error _ => .error .checkFailed := by
  simp only [checkTemplates, Surroundings.onTree, (keeps_loadTemplate engine s).bind_apply]
  cases (s.loadTemplate engine Tree.disk t).1 <;> rfl

theorem serviceOf_eq : serviceOf engine s t =
    match (s.loadTemplate engine Tree.disk t).1 with
    | .error e => .error (.badTemplates e)
    | .ok template =>
      match s.defaults with
      | .error e => .error (.badOffset e)
      | .ok defaults => .ok ⟨template, defaults⟩ := by
  unfold serviceOf loadService
  rw [(keeps_loadTemplate engine s).bind_apply]
  cases (s.loadTemplate engine Tree.disk t).1 with
  | error e => rfl
  | ok template => cases s.defaults <;> rfl

/-- Without a folder of their own the layouts are the built-in ones. -/
theorem loadTemplate_of_folder (h : s.templates.folder = none) :
    (s.loadTemplate engine Tree.disk t).1
      = Layout.builtInBy engine s.branding.productName s.branding.supportEmail := by
  unfold Settings.loadTemplate
  rw [h]
  dsimp only
  rw [pure_apply]

/-- The check fails when the template cannot be loaded. -/
theorem checkTemplates_fails_iff :
    (∃ e, (checkTemplates (.onTree engine now boundary relay) s t).1.result = .error e)
      ↔ ∃ why, (s.loadTemplate engine Tree.disk t).1 = .error why := by
  rw [checkTemplates_apply]
  cases (s.loadTemplate engine Tree.disk t).1 <;> simp

theorem inputOf_ne_badTemplates (why : Layout.LayoutError) :
    inputOf input t ≠ .error (.badTemplates why) := by
  rw [inputOf_eq]
  intro h
  split at h
  · cases h
  · split at h
    · split at h <;> cases h
    · split at h <;> cases h

/-- The template is the first thing that is loaded, and only loading it fails like this. -/
theorem exists_badTemplates_iff {α : Type} {next : Service → Loaded → Except RunError α}
    (hnext : ∀ service loaded why, next service loaded ≠ .error (.badTemplates why)) :
    (∃ why, (do next (← serviceOf engine s t) (← inputOf input t)) = .error (.badTemplates why))
      ↔ ∃ why, (s.loadTemplate engine Tree.disk t).1 = .error why := by
  rw [serviceOf_eq]
  cases (s.loadTemplate engine Tree.disk t).1 with
  | error e => simp [bind, Except.bind]
  | ok template =>
    cases s.defaults with
    | error e => simp [bind, Except.bind]
    | ok defaults =>
      have hinput : ∀ why, inputOf input t ≠ .error (.badTemplates why) := inputOf_ne_badTemplates
      cases h : inputOf input t with
      | error e =>
        simp only [h, ne_eq, Except.error.injEq] at hinput
        simp [bind, Except.bind, hinput]
      | ok loaded => simp [bind, Except.bind, hnext]

theorem documentOf_badTemplates_iff :
    (∃ why, documentOf engine now s input t = .error (.badTemplates why))
      ↔ ∃ why, (s.loadTemplate engine Tree.disk t).1 = .error why := by
  refine exists_badTemplates_iff fun service loaded why => ?_
  cases loaded.document service now <;> exact fun h => nomatch h

theorem send_dry_badTemplates_iff (to? : Option String) :
    (∃ why, (send (.onTree engine now boundary relay) s input to? true t).1.result
        = .error (.badTemplates why))
      ↔ ∃ why, (s.loadTemplate engine Tree.disk t).1 = .error why := by
  rw [result_send_dry_apply]
  refine exists_badTemplates_iff fun service loaded why => ?_
  cases h : loaded.addressed to? with
  | error e =>
    cases loaded <;> cases to? <;> cases h
    exact fun h => nomatch h
  | ok r =>
    obtain ⟨addressed, recipient, done⟩ := r
    simp only [bind, Except.bind]
    cases addressed.document service now <;> exact fun h => nomatch h

/-! ### Writing -/

/-- Whether an error tells that a document could not be written. -/
def RunError.ofWriting : RunError → Bool
  | .noFolder _ | .notWritten _ => true
  | _ => false

theorem ofWriting_of_writeAll {files : List (String × String)} {e : RunError}
    (h : (writeAll Tree.disk files t).1 = .error e) : e.ofWriting = true := by
  induction files generalizing t with
  | nil => cases h
  | cons file rest ih =>
    obtain ⟨path, text⟩ := file
    rw [writeAll, bind_apply] at h
    cases hw : (Tree.disk.write path text t).1 with
    | error why =>
      rw [hw] at h
      cases h
      rfl
    | ok u =>
      rw [hw] at h
      exact ih h

theorem ofWriting_of_writeDocument {selection : Selection} {folder : String} {d : Document}
    {e : RunError} (h : (writeDocument Tree.disk selection folder d t).1.result = .error e) :
    e.ofWriting = true := by
  rw [writeDocument, bind_apply] at h
  cases hfolder : (Tree.disk.createFolders folder t).1 with
  | error why =>
    rw [hfolder] at h
    cases h
    rfl
  | ok u =>
    rw [hfolder] at h
    dsimp only at h
    rw [bind_apply] at h
    generalize (Tree.disk.createFolders folder t).2 = t' at h
    cases hall : (writeAll Tree.disk (filesOf selection folder d) t').1 with
    | error e' =>
      rw [hall] at h
      cases h
      exact ofWriting_of_writeAll hall
    | ok u =>
      rw [hall] at h
      cases h

/-- Rendering into a folder fails as rendering without one does, or because of the folder. -/
theorem result_render_eq_error {selection : Selection} {folder : Option String} {e : RunError}
    (h : (render (.onTree engine now boundary relay) s input selection folder t).1.result = .error e) :
    documentOf engine now s input t = .error e ∨ e.ofWriting = true := by
  rw [render_apply] at h
  cases hd : documentOf engine now s input t with
  | error e' =>
    rw [hd] at h
    cases h
    exact Or.inl rfl
  | ok d =>
    rw [hd] at h
    cases folder with
    | none => cases h
    | some folder => exact Or.inr (ofWriting_of_writeDocument h)

theorem result_render_of_error {selection : Selection} {folder : Option String} {e : RunError}
    (h : documentOf engine now s input t = .error e) :
    (render (.onTree engine now boundary relay) s input selection folder t).1.result = .error e := by
  rw [render_apply, h]
  rfl

theorem render_badTemplates_iff (selection : Selection) (folder : Option String) :
    (∃ why, (render (.onTree engine now boundary relay) s input selection folder t).1.result
        = .error (.badTemplates why))
      ↔ ∃ why, (s.loadTemplate engine Tree.disk t).1 = .error why := by
  have hdocument : (∃ why, documentOf engine now s input t = .error (.badTemplates why))
      ↔ ∃ why, (s.loadTemplate engine Tree.disk t).1 = .error why := documentOf_badTemplates_iff
  rw [← hdocument]
  refine exists_congr fun why => ⟨fun h => ?_, result_render_of_error⟩
  rcases result_render_eq_error h with hd | hw
  · exact hd
  · cases hw

/-! ### Other runs -/

/-- The texts of the layouts that the settings name on a tree. -/
def HasLayouts (s : Settings) (t : Tree) (html text : String) : Prop :=
  match s.templates.folder with
  | none => html = String.ofList (sourceOf builtInHtml) ∧ text = String.ofList (sourceOf builtInText)
  | some folder =>
    (Tree.disk.read (Files.join folder Format.html.fileName) t).1 = .ok html ∧
      (Tree.disk.read (Files.join folder Format.text.fileName) t).1 = .ok text

/-- Two engines make the same of the layouts that the settings name on a tree: both find them
malformed, or both fill them alike with all values. -/
def AnswerAlike (s : Settings) (t : Tree) (engine engine' : Engine) : Prop :=
  ∀ html text, HasLayouts s t html text → engine html text = engine' html text

/-- The environment does not matter to the built-in layouts. -/
theorem answerAlike_standard (h : s.templates.folder = none)
    (environment environment' : Layout.Environment) :
    AnswerAlike s t (.standard environment) (.standard environment') := by
  intro html text hlayouts
  rw [HasLayouts, h] at hlayouts
  obtain ⟨rfl, rfl⟩ := hlayouts
  simp only [Engine.standard, Layout.Pair.ofTexts?_sourceOf Layout.isStraight_builtInHtml
    Layout.isStraight_builtInText Layout.slotsOnly_builtInHtml.hasPlainNames
    Layout.slotsOnly_builtInText.hasPlainNames, Option.map_some]
  rw [Layout.Pair.fill_ofPieces_congr Layout.slotsOnly_builtInHtml Layout.slotsOnly_builtInText]

section Runs

variable {engine' : Engine}

/-- The same template is loaded by engines that answer alike. -/
theorem loadTemplate_congr (h : AnswerAlike s t engine engine') :
    (s.loadTemplate engine Tree.disk t).1 = (s.loadTemplate engine' Tree.disk t).1 := by
  unfold Settings.loadTemplate
  unfold AnswerAlike HasLayouts at h
  cases hfolder : s.templates.folder with
  | none =>
    rw [hfolder] at h
    have hsame := h _ _ ⟨rfl, rfl⟩
    simp only [pure_apply, Layout.builtInBy, Template.load, hsame]
  | some folder =>
    rw [hfolder] at h
    dsimp only at h ⊢
    simp only [Template.ofFolder, (keeps_read _).bind_apply]
    cases hhtml : (Tree.disk.read (Files.join folder Format.html.fileName) t).1 with
    | error e => rfl
    | ok html =>
      dsimp only
      rw [(keeps_read _).bind_apply, (keeps_read _).bind_apply]
      cases htext : (Tree.disk.read (Files.join folder Format.text.fileName) t).1 with
      | error e => rfl
      | ok text =>
        dsimp only
        rw [pure_apply, pure_apply, Template.load, Template.load, h html text ⟨hhtml, htext⟩]

theorem documentOf_congr (h : AnswerAlike s t engine engine') :
    documentOf engine now s input t = documentOf engine' now s input t := by
  rw [documentOf, documentOf, serviceOf_eq, serviceOf_eq, loadTemplate_congr h]

end Runs

/-! ### The three commands -/

theorem result_send_dry_of_unreadable (hs : s.templates.folder = none) {d : Job.Defaults}
    (hd : s.defaults = .ok d) (hinput : inputOf input t = .error (.unreadableInput input.path))
    (to? : Option String) :
    (send (.onTree (.standard []) now boundary relay) s input to? true t).1.result
      = .error (.unreadableInput input.path) := by
  have hload := (loadTemplate_of_folder (t := t) hs).trans (Layout.builtIn_eq _ _)
  rw [result_send_dry_apply, serviceOf_eq, hload, hd, hinput]
  rfl

/-- **A check speaks for its own run only.** Let another run get other answers from its engine: it may
be given another environment, draw other numbers, or come at another time. If one of the two accepts
the layouts that the settings name and the other one does not, then the check approves of what cannot
be rendered or sent, whatever the input. -/
theorem commands_disagree {checking other : Engine} {s : Settings} {t : Tree} {template : Template}
    {why : Layout.LayoutError}
    (haccepts : (s.loadTemplate checking Tree.disk t).1 = .ok template)
    (hrefuses : (s.loadTemplate other Tree.disk t).1 = .error why)
    (now : Calendar.Instant) (boundary : String)
    (relay : Mail.Post → StateM Tree (Except String Unit)) (input : Input) :
    let around engine : Surroundings (StateM Tree) := .onTree engine now boundary relay
    (checkTemplates (around checking) s t).1.result = .ok () ∧
      (∀ selection folder, ∃ why, (render (around other) s input selection folder t).1.result
        = .error (.badTemplates why)) ∧
      ∀ to?, ∃ why, (send (around other) s input to? true t).1.result
        = .error (.badTemplates why) := by
  intro around
  refine ⟨?_, fun selection folder => ?_, fun to? => ?_⟩
  · rw [show (checkTemplates (around checking) s t).1.result = _ from checkTemplates_apply, haccepts]
  · exact (render_badTemplates_iff selection folder).mpr ⟨why, hrefuses⟩
  · exact (send_dry_badTemplates_iff to?).mpr ⟨why, hrefuses⟩

/-- A folder with a layout that prints the variable `SITE`. -/
def studio : Tree where
  workFolder := ["studio"]
  entries := [(["studio", "layouts"], .folder),
    (["studio", "layouts", "notification.html"], .file (.text (String.ofList Layout.siteChars))),
    (["studio", "layouts", "notification.txt"],
      .file (.text (String.ofList (sourceOf Layout.bareSlots))))]

/-- On this tree loading the template is a matter of the environment. -/
theorem loadTemplate_studio (environment : Layout.Environment)
    (h : s.templates.folder = some "layouts") :
    ∃ template why, (s.loadTemplate (.standard environment) Tree.disk studio).1 =
      match environment.lookup "SITE" with
      | some _ => .ok template
      | none => .error why := by
  obtain ⟨layouts, hload⟩ := Template.load_site String.toList_ofList String.toList_ofList environment
    s.branding.productName s.branding.supportEmail
  have hhtml : (Tree.disk.read (Files.join "layouts" Format.html.fileName) studio).1
      = .ok (String.ofList Layout.siteChars) := rfl
  have htext : (Tree.disk.read (Files.join "layouts" Format.text.fileName) studio).1
      = .ok (String.ofList (sourceOf Layout.bareSlots)) := rfl
  refine ⟨_, _, Eq.trans ?_ hload⟩
  simp only [Settings.loadTemplate, h, Template.ofFolder, (keeps_read _).bind_apply, hhtml, htext]
  rw [pure_apply]

end JobNotice.Command
