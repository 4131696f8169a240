import JobNotice.Job.Attributes
import JobNotice.Proofs.Calendar.Duration
import JobNotice.Proofs.Calendar.Timeline

/-!
# The execution time of a job

The time a job took is told in words when both of its timestamps are there and the update does not
lie before the creation. The words say how many whole seconds fit between the two, so that a part of
a second never counts. Nothing else of the record has a say in it, and neither have the defaults of
the service or the clock.

## Main results

* `Job.Record.get?_executionTime` — the attribute is the execution time of the record
* `Job.Record.executionTime_eq_some`, `Job.Record.executionTime_eq_none` — when there is one
* `Job.Record.executionTime_is_exact` — what the attribute says
-/

namespace JobNotice.Job.Record

open Calendar (Instant)

/-- The attribute of a finished job, whatever the service and the clock. -/
theorem get?_executionTime {r : Record} (h : r.status.isFinished = true) (defaults : Defaults)
    (now : Instant) : ∃ attributes, r.attributes defaults now = .ok attributes ∧
      attributes.get? "execution_time" = some (.ofString? r.executionTime) := by
  refine ⟨_, if_pos h, ?_⟩
  simp [Json.Members.get?]

section Times

variable {r : Record} {start finish : Instant}

theorem executionTime_eq_some (hstart : r.created = some start) (hfinish : r.updated = some finish)
    (hs : start.inLeapSecond = false) (hf : finish.inLeapSecond = false)
    (h : start.nanoseconds ≤ finish.nanoseconds) :
    r.executionTime = some (Calendar.phrase (start.elapsed finish)) := by
  have hbefore : ¬ finish.before start = true := by
    rw [Instant.before_iff hf hs]
    omega
  simp [executionTime, hstart, hfinish, hbefore]

/-- Without one of the timestamps, or with an update before the creation, there is no time. -/
theorem executionTime_eq_none (hs : ∀ t, r.created = some t → t.inLeapSecond = false)
    (hf : ∀ t, r.updated = some t → t.inLeapSecond = false)
    (h : ¬ ∃ start finish, r.created = some start ∧ r.updated = some finish ∧
      start.nanoseconds ≤ finish.nanoseconds) : r.executionTime = none := by
  rw [executionTime]
  split
  · rename_i start finish hstart hfinish
    have hbefore : finish.before start = true := by
      rw [Instant.before_iff (hf finish hfinish) (hs start hstart)]
      by_contra hnot
      exact h ⟨start, finish, hstart, hfinish, by omega⟩
    rw [if_pos hbefore]
  · rfl

end Times

/-- **The execution time is exact.** For timestamps outside leap seconds the attribute is the same
for all finished jobs that share them, in every service and at every time. It is there exactly when
both timestamps are and the update does not lie before the creation, and is read back as the number
of whole seconds between them. -/
theorem executionTime_is_exact (created updated : Option Instant)
    (hcreated : ∀ t, created = some t → t.inLeapSecond = false)
    (hupdated : ∀ t, updated = some t → t.inLeapSecond = false) :
    ∃ value : Json.Value,
      (∀ (r : Record) (defaults : Defaults) (now : Instant), r.status.isFinished = true →
        r.created = created → r.updated = updated →
        ∃ attributes, r.attributes defaults now = .ok attributes ∧
          attributes.get? "execution_time" = some value) ∧
      (∀ start finish, created = some start → updated = some finish →
        start.nanoseconds ≤ finish.nanoseconds →
        ∃ words seconds, value = .string words ∧ Calendar.ofPhrase? words = some seconds ∧
          (seconds : Int) * Calendar.nanosPerSecond ≤ finish.nanoseconds - start.nanoseconds ∧
          finish.nanoseconds - start.nanoseconds < (seconds + 1) * Calendar.nanosPerSecond) ∧
      ((¬ ∃ start finish, created = some start ∧ updated = some finish ∧
        start.nanoseconds ≤ finish.nanoseconds) → value = .null) := by
  let job : Record := ⟨"", .success, created, updated, default, [], none⟩
  refine ⟨.ofString? job.executionTime, ?_, ?_, ?_⟩
  · intro r defaults now hfinished hr hr'
    have hsame : r.executionTime = job.executionTime := by
      rw [executionTime, executionTime, hr, hr']
    rw [← hsame]
    exact get?_executionTime hfinished defaults now
  · intro start finish hstart hfinish h
    have hs := hcreated start hstart
    have hf := hupdated finish hfinish
    refine ⟨Calendar.phrase (start.elapsed finish), start.elapsed finish, ?_,
      Calendar.ofPhrase?_phrase _, (Instant.elapsed_eq_iff hs hf h _).mp rfl⟩
    rw [executionTime_eq_some (r := job) hstart hfinish hs hf h, Json.Value.ofString?]
  · intro h
    rw [executionTime_eq_none (r := job) hcreated hupdated h, Json.Value.ofString?]

/-- An update half a second short of an hour after the creation, on the day after a leap day. The
other way round there is no time. -/
theorem executionTime_is_exact_across_midnight :
    let start : Instant := ⟨19782, 86399, 750000000, by decide, by decide, by decide, by decide⟩
    let finish : Instant := ⟨19783, 3599, 250000000, by decide, by decide, by decide, by decide⟩
    let job (created updated : Instant) : Record :=
      ⟨"7", .error, some created, some updated, ⟨"Ada", "", ""⟩, [], none⟩
    start.inLeapSecond = false ∧ finish.inLeapSecond = false ∧
      start.nanoseconds ≤ finish.nanoseconds ∧ ¬ finish.nanoseconds ≤ start.nanoseconds ∧
      (∃ attributes words seconds, (job start finish).attributes default default = .ok attributes ∧
        attributes.get? "execution_time" = some (.string words) ∧
        Calendar.ofPhrase? words = some seconds ∧
        (seconds : Int) * Calendar.nanosPerSecond ≤ finish.nanoseconds - start.nanoseconds ∧
        finish.nanoseconds - start.nanoseconds < (seconds + 1) * Calendar.nanosPerSecond) ∧
      ∃ attributes, (job finish start).attributes default default = .ok attributes ∧
        attributes.get? "execution_time" = some .null := by
  intro start finish job
  have hs : start.inLeapSecond = false := by decide
  have hf : finish.inLeapSecond = false := by decide
  have h : start.nanoseconds ≤ finish.nanoseconds := by decide
  have hnot : ¬ finish.nanoseconds ≤ start.nanoseconds := by decide
  refine ⟨hs, hf, h, hnot, ?_, ?_⟩
  · obtain ⟨value, hvalue, hwords, -⟩ := executionTime_is_exact (some start) (some finish)
      (fun t ht => Option.some.inj ht ▸ hs) (fun t ht => Option.some.inj ht ▸ hf)
    obtain ⟨attributes, hattributes, hget⟩ :=
      hvalue (job start finish) default default rfl rfl rfl
    obtain ⟨words, seconds, rfl, hread⟩ := hwords start finish rfl rfl h
    exact ⟨attributes, words, seconds, hattributes, hget, hread⟩
  · obtain ⟨value, hvalue, -, hnone⟩ := executionTime_is_exact (some finish) (some start)
      (fun t ht => Option.some.inj ht ▸ hf) (fun t ht => Option.some.inj ht ▸ hs)
    obtain rfl : value = .null := by
      apply hnone
      rintro ⟨t, t', ht, ht', hle⟩
      obtain rfl := Option.some.inj ht
      obtain rfl := Option.some.inj ht'
      exact hnot hle
    exact hvalue (job finish start) default default rfl rfl rfl

end JobNotice.Job.Record
