import JobNotice.Notice.Service

/-!
# What a service has sent

A sender that keeps what it sent is the witness of a run: after any operations it holds what it held
before, followed by one entry for each operation that reported a delivery, in the order of the
operations. Nothing else is ever sent, so an operation that fails, for whatever reason, leaves no
trace in the sender, and neither does one that is not meant to send.

All of this comes from one step. `Service.notify_cases` says once what a notification can come to:
the job has no document, or the sender does not work, or the document goes to the owner. An
operation adds the delivery that its answer reports (`Service.sent_perform`), and a run adds the
deliveries of its operations.

## Main definitions

* `Notice.reportsDelivery` — the answers that tell of a delivery
* `Notice.Service.delivery?` — the recipient and the document of such an answer

## Main results

* `Notice.Service.notify_cases` — the three ends of a notification
* `Notice.Service.sent_perform` — what one operation adds
* `Notice.Service.sent_performAll` — what a run adds
-/

namespace JobNotice.Notice

open Job (Record)

/-! ### Deliveries -/

/-- Whether the answer to an operation tells that something has been delivered. -/
def reportsDelivery : Operation → Answer → Bool
  | .notify _ _, .document (.ok _) => true
  | .notifyBestEffort _ _, .bestEffort true => true
  | .deliver _ _, .delivered (.ok ()) => true
  | _, _ => false

/-- The recipient and the document that an answer reports as delivered. A notification goes to the
owner of the job; where the answer does not show the document, it is the one prepared for the job at
that time. -/
def Service.delivery? (s : Service) : Operation → Answer → Option (String × Document)
  | .notify _ job, .document (.ok document) => some (job.owner.email, document)
  | .notifyBestEffort now job, .bestEffort true =>
    match s.prepare now job with
    | .ok document => some (job.owner.email, document)
    | .error _ => none
  | .deliver recipient document, .delivered (.ok ()) => some (recipient, document)
  | _, _ => none

variable {s : Service} {sender : Sender} {now : Calendar.Instant} {job : Record}
  {document : Document}

/-! ### Sending -/

/-- A sender with one more delivery. -/
def Sender.add (sender : Sender) (recipient : String) (document : Document) : Sender :=
  { sender with sent := sender.sent ++ [(recipient, document)] }

@[simp] theorem Sender.sent_add (sender : Sender) (recipient : String) (document : Document) :
    (sender.add recipient document).sent = sender.sent ++ [(recipient, document)] := rfl

@[simp] theorem Sender.dry_add (sender : Sender) (recipient : String) (document : Document) :
    (sender.add recipient document).dry = sender.dry := rfl

theorem Sender.send_of_broken (h : sender.dry = false) {reason : String}
    (hbroken : sender.broken = some reason) (recipient : String) (document : Document) :
    sender.send recipient document = (.error (.delivery reason), sender) := by
  simp [Sender.send, h, hbroken]

theorem Sender.send_of_working (h : sender.dry = false) (hbroken : sender.broken = none)
    (recipient : String) (document : Document) :
    sender.send recipient document = (.ok (), sender.add recipient document) := by
  simp [Sender.send, h, hbroken, Sender.add]

namespace Service

/-- **The three ends of a notification.** A job without a document is not sent, a sender that does
not work sends nothing, and otherwise the document is sent to the owner. -/
theorem notify_cases (h : sender.dry = false) (s : Service) (now : Calendar.Instant)
    (job : Record) :
    (∃ e, s.prepare now job = .error e ∧ s.notify sender now job = (.error e, sender)) ∨
    (∃ d reason, s.prepare now job = .ok d ∧ sender.broken = some reason ∧
      s.notify sender now job = (.error (.delivery reason), sender)) ∨
    (∃ d, s.prepare now job = .ok d ∧ sender.broken = none ∧
      s.notify sender now job = (.ok d, sender.add job.owner.email d)) := by
  cases hprepare : s.prepare now job with
  | error e => exact Or.inl ⟨e, rfl, by simp [notify, hprepare]⟩
  | ok d =>
    right
    cases hbroken : sender.broken with
    | some reason =>
      have hsend := Sender.send_of_broken h hbroken job.owner.email d
      exact Or.inl ⟨d, reason, rfl, rfl, by simp [notify, hprepare, hsend]⟩
    | none =>
      have hsend := Sender.send_of_working h hbroken job.owner.email d
      exact Or.inr ⟨d, rfl, rfl, by simp [notify, hprepare, hsend]⟩

/-- A document that is reported as sent is the one that was prepared. -/
theorem notify_eq_ok_iff (h : sender.dry = false) :
    (s.notify sender now job).1 = .ok document
      ↔ s.prepare now job = .ok document ∧ sender.broken = none := by
  rcases notify_cases h s now job with ⟨e, hp, hn⟩ | ⟨d, reason, hp, hb, hn⟩ | ⟨d, hp, hb, hn⟩
  · simp [hp, hn]
  · simp [hb, hn]
  · simp [hp, hb, hn]

/-- Making the best of it fails when the notification does, and leaves the same sender. -/
theorem notifyBestEffort_eq (s : Service) (sender : Sender) (now : Calendar.Instant)
    (job : Record) :
    s.notifyBestEffort sender now job
      = ((s.notify sender now job).1.isOk, (s.notify sender now job).2) := by
  unfold notifyBestEffort
  rcases s.notify sender now job with ⟨result | result, after⟩ <;> rfl

theorem notifyBestEffort_iff (s : Service) (sender : Sender) (now : Calendar.Instant)
    (job : Record) :
    (s.notifyBestEffort sender now job).1 = true ↔ ∃ d, (s.notify sender now job).1 = .ok d := by
  rw [notifyBestEffort_eq]
  cases (s.notify sender now job).1 <;> simp [Except.isOk, Except.toBool]

/-- The address of the owner is not shown. -/
theorem prepare_congr_email (s : Service) (now : Calendar.Instant) (job : Record)
    (email : String) :
    s.prepare now { job with owner := { job.owner with email } } = s.prepare now job := rfl

/-! ### One operation -/

@[simp] theorem perform_prepare (s : Service) (sender : Sender) (now : Calendar.Instant)
    (job : Record) :
    s.perform sender (.prepare now job) = (.document (s.prepare now job), sender) := rfl

@[simp] theorem perform_render (s : Service) (sender : Sender) (attributes : Json.Members) :
    s.perform sender (.render attributes) = (.document (s.renderAttributes attributes), sender) :=
  rfl

@[simp] theorem perform_notify (s : Service) (sender : Sender) (now : Calendar.Instant)
    (job : Record) :
    s.perform sender (.notify now job)
      = (.document (s.notify sender now job).1, (s.notify sender now job).2) := rfl

/-- The answer only tells whether the notification succeeded; the sender is the same. -/
@[simp] theorem perform_notifyBestEffort (s : Service) (sender : Sender)
    (now : Calendar.Instant) (job : Record) :
    s.perform sender (.notifyBestEffort now job)
      = (.bestEffort (s.notify sender now job).1.isOk, (s.notify sender now job).2) := by
  rw [perform, notifyBestEffort_eq]

@[simp] theorem perform_deliver (s : Service) (sender : Sender) (recipient : String)
    (document : Document) :
    s.perform sender (.deliver recipient document)
      = (.delivered (sender.send recipient document).1, (sender.send recipient document).2) := rfl

@[simp] theorem perform_break (s : Service) (sender : Sender) (reason : Option String) :
    s.perform sender (.break reason) = (.done, { sender with broken := reason }) := rfl

/-- **What one operation does.** Either its answer reports a delivery, which is added to what has
been sent, or it reports none, and nothing is added. -/
theorem perform_cases (h : sender.dry = false) (s : Service) (op : Operation) :
    (∃ recipient document,
      s.delivery? op (s.perform sender op).1 = some (recipient, document) ∧
      reportsDelivery op (s.perform sender op).1 = true ∧
      (s.perform sender op).2 = sender.add recipient document) ∨
    (s.delivery? op (s.perform sender op).1 = none ∧
      reportsDelivery op (s.perform sender op).1 = false ∧
      (s.perform sender op).2.dry = false ∧ (s.perform sender op).2.sent = sender.sent) := by
  cases op with
  | prepare now job =>
    rw [perform_prepare]
    exact Or.inr ⟨rfl, rfl, h, rfl⟩
  | render attributes =>
    rw [perform_render]
    exact Or.inr ⟨rfl, rfl, h, rfl⟩
  | notify now job =>
    rw [perform_notify]
    rcases notify_cases h s now job with ⟨e, -, hn⟩ | ⟨d, reason, -, -, hn⟩ | ⟨d, -, -, hn⟩
    · exact Or.inr (by simp [hn, delivery?, reportsDelivery, h])
    · exact Or.inr (by simp [hn, delivery?, reportsDelivery, h])
    · exact Or.inl ⟨job.owner.email, d, by simp [hn, delivery?, reportsDelivery]⟩
  | notifyBestEffort now job =>
    rw [perform_notifyBestEffort]
    rcases notify_cases h s now job with ⟨e, -, hn⟩ | ⟨d, reason, -, -, hn⟩ | ⟨d, hp, -, hn⟩
    · exact Or.inr (by simp [hn, delivery?, reportsDelivery, h, Except.isOk, Except.toBool])
    · exact Or.inr (by simp [hn, delivery?, reportsDelivery, h, Except.isOk, Except.toBool])
    · refine Or.inl ⟨job.owner.email, d, ?_⟩
      simp [hn, hp, delivery?, reportsDelivery, Except.isOk, Except.toBool]
  | deliver recipient document =>
    rw [perform_deliver]
    cases hbroken : sender.broken with
    | some reason =>
      have hsend := Sender.send_of_broken h hbroken recipient document
      exact Or.inr (by simp [hsend, delivery?, reportsDelivery, h])
    | none =>
      have hsend := Sender.send_of_working h hbroken recipient document
      exact Or.inl ⟨recipient, document, by simp [hsend, delivery?, reportsDelivery]⟩
  | «break» reason =>
    rw [perform_break]
    exact Or.inr ⟨rfl, rfl, h, rfl⟩

theorem dry_perform (h : sender.dry = false) (s : Service) (op : Operation) :
    (s.perform sender op).2.dry = false := by
  rcases perform_cases h s op with ⟨recipient, document, -, -, hafter⟩ | ⟨-, -, hdry, -⟩
  · rw [hafter, Sender.dry_add, h]
  · exact hdry

/-- What one operation adds to what has been sent is the delivery that its answer reports. -/
theorem sent_perform (h : sender.dry = false) (s : Service) (op : Operation) :
    (s.perform sender op).2.sent
      = sender.sent ++ (s.delivery? op (s.perform sender op).1).toList := by
  rcases perform_cases h s op with ⟨recipient, document, hd, -, hafter⟩ | ⟨hd, -, -, hsent⟩
  · rw [hafter, hd, Sender.sent_add, Option.toList_some]
  · rw [hsent, hd, Option.toList_none, List.append_nil]

/-- An operation has a delivery exactly when its answer reports one. -/
theorem isSome_delivery? (h : sender.dry = false) (s : Service) (op : Operation) :
    (s.delivery? op (s.perform sender op).1).isSome
      = reportsDelivery op (s.perform sender op).1 := by
  rcases perform_cases h s op with ⟨recipient, document, hd, hr, -⟩ | ⟨hd, hr, -, -⟩ <;>
    rw [hd, hr] <;> rfl

/-! ### Runs -/

@[simp] theorem performAll_nil (s : Service) (sender : Sender) :
    s.performAll sender [] = ([], sender) := rfl

theorem performAll_cons (s : Service) (sender : Sender) (op : Operation) (rest : List Operation) :
    s.performAll sender (op :: rest)
      = ((s.perform sender op).1 :: (s.performAll (s.perform sender op).2 rest).1,
        (s.performAll (s.perform sender op).2 rest).2) := rfl

theorem length_performAll (s : Service) (sender : Sender) (ops : List Operation) :
    (s.performAll sender ops).1.length = ops.length := by
  induction ops generalizing sender with
  | nil => rfl
  | cons op rest ih => rw [performAll_cons, List.length_cons, ih, List.length_cons]

/-- What a run adds to what has been sent: the deliveries of its operations, in their order. -/
theorem sent_performAll_of_recording (h : sender.dry = false) (s : Service)
    (ops : List Operation) :
    (s.performAll sender ops).2.sent = sender.sent ++
      (ops.zip (s.performAll sender ops).1).filterMap fun p => s.delivery? p.1 p.2 := by
  induction ops generalizing sender with
  | nil => simp
  | cons op rest ih =>
    have hrest := ih (dry_perform h s op)
    rw [performAll_cons]
    dsimp only
    rw [hrest, sent_perform h, List.zip_cons_cons, List.append_assoc]
    cases hd : s.delivery? op (s.perform sender op).1 <;> simp [hd]

/-- In a run the answers that report a delivery are those that have one. -/
theorem isSome_delivery?_of_mem (h : sender.dry = false) (s : Service) (ops : List Operation) :
    ∀ p ∈ ops.zip (s.performAll sender ops).1,
      (s.delivery? p.1 p.2).isSome = reportsDelivery p.1 p.2 := by
  induction ops generalizing sender with
  | nil => simp
  | cons op rest ih =>
    rw [performAll_cons, List.zip_cons_cons, List.forall_mem_cons]
    exact ⟨isSome_delivery? h s op, ih (dry_perform h s op)⟩

/-- **What is sent is exactly what was reported as delivered.** A sender that keeps what it sends
holds after a run what it held before, and then one entry for each operation whose answer reports a
delivery, in order. In every state an operation that reports none leaves what has been sent as it
is, a notification succeeds when its job has a document, which is then the one that is sent, and the
sender works, and making the best of it tells whether the notification succeeds. The document does
not depend on the address it is sent to. -/
theorem sent_performAll (s : Service) (sent : List (String × Document)) (broken : Option String)
    (ops : List Operation) :
    let sender : Sender := { dry := false, sent, broken }
    let answers := (s.performAll sender ops).1
    answers.length = ops.length ∧
    (s.performAll sender ops).2.sent
      = sent ++ (ops.zip answers).filterMap (fun p => s.delivery? p.1 p.2) ∧
    (∀ p ∈ ops.zip answers, (s.delivery? p.1 p.2).isSome = reportsDelivery p.1 p.2) ∧
    (∀ op, reportsDelivery op (s.perform sender op).1 = false →
      (s.perform sender op).2.sent = sent) ∧
    (∀ now job, (s.notifyBestEffort sender now job).1 = true
      ↔ ∃ document, (s.notify sender now job).1 = .ok document) ∧
    (∀ now job document, (s.notify sender now job).1 = .ok document
      ↔ s.prepare now job = .ok document ∧ broken = none) ∧
    (∀ recipient document, (sender.send recipient document).1 = .ok () ↔ broken = none) ∧
    ∀ now job email,
      s.prepare now { job with owner := { job.owner with email } } = s.prepare now job := by
  intro sender answers
  have h : sender.dry = false := rfl
  refine ⟨length_performAll s sender ops, sent_performAll_of_recording h s ops,
    isSome_delivery?_of_mem h s ops, ?_, notifyBestEffort_iff s sender, ?_, ?_,
    prepare_congr_email s⟩
  · intro op hsilent
    rcases perform_cases h s op with ⟨_, _, -, hreport, -⟩ | ⟨-, -, -, hsent⟩
    · rw [hsilent] at hreport
      exact absurd hreport (by decide)
    · exact hsent
  · intro now job document
    exact notify_eq_ok_iff h
  · intro recipient document
    cases hbroken : broken with
    | some reason => simp [sender, Sender.send, hbroken]
    | none => simp [sender, Sender.send, hbroken]

end Service

end JobNotice.Notice
