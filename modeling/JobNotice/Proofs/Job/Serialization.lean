import JobNotice.Job.Attributes
import JobNotice.Proofs.Calendar.Accepted
import JobNotice.Proofs.Calendar.Timestamp
import JobNotice.Proofs.Json.Records

/-!
# Job records survive being written

A job record is written as an object whose members are its fields in order of declaration, each in a
form that its own reader takes back: a status by its name, a timestamp by its text, a stage as an
object of its own. So the text of a record is read as that record, and a text that was accepted and
is written again has found a form that does not change any more.

Only a timestamp with a leap second that is out of place does not come back: it is read as the second
after the one that it follows. No text is read as such a timestamp, so it takes a record that was put
together by hand.

## Main definitions

* `Job.Record.IsRegular`, `Job.Record.settled` — regular timestamps, and timestamps made regular

## Main results

* `Job.Owner.read_toJson`, `Job.Stage.read_toJson`, `Job.Record.read_toJson`
* `Job.Record.ofText_text` — what the text of a record is read as
* `Job.Record.isRegular_of_ofText` — records that have been read are regular
* `Job.Record.text_is_stable` — which records are read back, and what accepted texts are written as
* `Job.Record.strayRecord_is_not_read_back` — a record that is not read back
-/

namespace JobNotice.Job

open Json (Node Schema Value)

/-! ### Status and timestamps -/

theorem Status.read_name (s : Status) : Status.read (.string (.ok s.name) none) = .ok s := by
  cases s <;> rfl

theorem readInstant_text (t : Calendar.Instant) :
    readInstant (.string (.ok t.text) none) = .ok t.settled := by
  simp only [readInstant, Node.readString, Json.ofFault, bind, Except.bind,
    Calendar.Instant.ofText_text]

theorem isRegular_of_readInstant {node : Node} {t : Calendar.Instant}
    (h : readInstant node = .ok t) : t.IsRegular := by
  obtain ⟨s, -, h⟩ := exists_of_bind_eq_ok h
  split at h
  · next hread =>
    cases h
    exact Calendar.Instant.isRegular_of_ofText hread
  · cases h

theorem isRegular_of_readOption {node : Node} {t? : Option Calendar.Instant}
    (h : Node.readOption readInstant node = .ok t?) : ∀ t ∈ t?, t.IsRegular := by
  rintro t rfl
  unfold Node.readOption at h
  split at h
  · cases h
  · next hne =>
    cases hread : readInstant node with
    | error e => rw [hread] at h; cases h
    | ok t' =>
      rw [hread] at h
      cases h
      exact isRegular_of_readInstant hread

/-! ### Owners and stages -/

namespace Owner

/-- The value of a field. -/
def field (o : Owner) : OwnerField → String
  | .firstName => o.firstName
  | .lastName => o.lastName
  | .email => o.email

theorem isComplete_schema : schema.IsComplete where
  mem_fields f := by cases f <;> decide
  nodup := by decide
  name_inj f g := by cases f <;> cases g <;> decide

theorem read_toJson (o : Owner) : Owner.read o.toJson.node = .ok o := by
  have hread : schema.read? o.toJson.node = .ok fun f => some (o.field f) :=
    isComplete_schema.read?_object (fun f => .string (o.field f)) fun f => rfl
  rw [Owner.read, hread]
  rfl

end Owner

namespace Stage

/-- The value of a field. -/
def field (s : Stage) : StageField → String
  | .mainFile => s.mainFile
  | .imageName => s.imageName
  | .imageTag => s.imageTag

theorem isComplete_schema : schema.IsComplete where
  mem_fields f := by cases f <;> decide
  nodup := by decide
  name_inj f g := by cases f <;> cases g <;> decide

theorem read_toJson (s : Stage) : Stage.read s.toJson.node = .ok s := by
  have hread : schema.read? s.toJson.node = .ok fun f => some (s.field f) :=
    isComplete_schema.read?_object (fun f => .string (s.field f)) fun f => rfl
  rw [Stage.read, hread]
  rfl

end Stage

/-! ### Records -/

namespace Record

/-! ### Regular timestamps -/

/-- In the timestamps leap seconds are where they belong. -/
structure IsRegular (r : Record) : Prop where
  created : ∀ t ∈ r.created, t.IsRegular
  updated : ∀ t ∈ r.updated, t.IsRegular

/-- The record with settled timestamps. -/
def settled (r : Record) : Record :=
  { r with
    created := r.created.map Calendar.Instant.settled
    updated := r.updated.map Calendar.Instant.settled }

theorem map_settled_eq_iff {t? : Option Calendar.Instant} :
    t?.map Calendar.Instant.settled = t? ↔ ∀ t ∈ t?, t.IsRegular := by
  cases t? <;> simp [Calendar.Instant.settled_eq_iff]

theorem settled_eq_iff {r : Record} : r.settled = r ↔ r.IsRegular := by
  constructor
  · intro h
    exact ⟨map_settled_eq_iff.mp (congrArg Record.created h),
      map_settled_eq_iff.mp (congrArg Record.updated h)⟩
  · rintro ⟨hcreated, hupdated⟩
    rw [settled, map_settled_eq_iff.mpr hcreated, map_settled_eq_iff.mpr hupdated]

/-- Settling the timestamps of a record does not change its text. -/
theorem text_settled (r : Record) : r.settled.text = r.text := by
  have hmap (t? : Option Calendar.Instant) :
      (t?.map Calendar.Instant.settled).map Calendar.Instant.text
        = t?.map Calendar.Instant.text := by
    cases t? <;> simp [Calendar.Instant.text_settled]
  simp only [text, toJson, settled, hmap]

/-! ### Written records -/

/-- The value of a field. -/
def field (r : Record) : (f : RecordField) → f.Value
  | .id => r.id
  | .status => r.status
  | .created => r.created
  | .updated => r.updated
  | .owner => r.owner
  | .stages => r.stages
  | .errorMessage => r.errorMessage

/-- A field as it is written. -/
def fieldJson (r : Record) : RecordField → Value
  | .id => .string r.id
  | .status => .string r.status.name
  | .created => .ofString? (r.created.map Calendar.Instant.text)
  | .updated => .ofString? (r.updated.map Calendar.Instant.text)
  | .owner => r.owner.toJson
  | .stages => .array (r.stages.map Stage.toJson)
  | .errorMessage => .ofString? r.errorMessage

theorem isComplete_schema : schema.IsComplete where
  mem_fields f := by cases f <;> decide
  nodup := by decide
  name_inj f g := by cases f <;> cases g <;> decide

/-- Each field is read back from what it is written as, timestamps as settled ones. -/
theorem read_fieldJson (r : Record) (f : RecordField) :
    RecordField.read f (r.fieldJson f).node = .ok (r.settled.field f) := by
  cases f with
  | id => rfl
  | status => exact r.status.read_name
  | created => exact Node.readOption_ofString? readInstant_text r.created
  | updated => exact Node.readOption_ofString? readInstant_text r.updated
  | owner => exact r.owner.read_toJson
  | stages => exact Node.readList_map Stage.read_toJson r.stages
  | errorMessage =>
    have hread (s : String) : readString (.string (.ok s) none) = .ok s := rfl
    have h := Node.readOption_ofString? hread r.errorMessage
    rwa [Option.map_id_fun'] at h

theorem read_toJson (r : Record) : Record.read r.toJson.node = .ok r.settled := by
  have hread : schema.read? r.toJson.node = .ok fun f => some (r.settled.field f) :=
    isComplete_schema.read?_object r.fieldJson r.read_fieldJson
  rw [Record.read, hread]
  rfl

/-- A record holds no number, so that reading it back does not depend on decimals. -/
theorem numberFree_toJson (r : Record) : r.toJson.numberFree = true := by
  have hoption : ∀ s : Option String, (Value.ofString? s).numberFree = true := by
    intro s
    cases s <;> rfl
  have hstages : (Value.array (r.stages.map Stage.toJson)).numberFree = true := by
    rw [Value.numberFree]
    induction r.stages with
    | nil => rfl
    | cons s stages ih => rw [List.map_cons, Json.itemsNumberFree, ih]; rfl
  have howner : r.owner.toJson.numberFree = true := rfl
  simp only [toJson, Value.numberFree, Json.membersNumberFree, hoption, howner, Bool.and_true,
    Bool.true_and]
  exact hstages

/-- **The text of a record is read as the settled record.** -/
theorem ofText_text (r : Record) : Record.ofText r.text = .ok r.settled := by
  rw [Record.ofText, Json.readText, Record.text, Node.ofText_compact r.numberFree_toJson]
  simp only [r.read_toJson, bind, Except.bind]

/-! ### Records that have been read -/

/-- A field that is a timestamp is regular. -/
def FieldIsRegular : (f : RecordField) → f.Value → Prop
  | .created, t? => ∀ t : Calendar.Instant, t? = some t → t.IsRegular
  | .updated, t? => ∀ t : Calendar.Instant, t? = some t → t.IsRegular
  | .id, _ | .status, _ | .owner, _ | .stages, _ | .errorMessage, _ => True

/-- A timestamp that is left out is no exception. -/
theorem ensures_schema : schema.Ensures FieldIsRegular where
  read f node v h := by
    cases f with
    | created => exact isRegular_of_readOption h
    | updated => exact isRegular_of_readOption h
    | _ => trivial
  absent f v h := by cases f <;> cases h <;> simp [FieldIsRegular]
  beyond f v h := by cases f <;> cases h <;> simp [FieldIsRegular]

theorem isRegular_of_read {node : Node} {r : Record} (h : Record.read node = .ok r) :
    r.IsRegular := by
  obtain ⟨d, hd, h⟩ := exists_of_bind_eq_ok h
  have hfields := ensures_schema.read? hd
  obtain ⟨id, -, h⟩ := exists_of_bind_eq_ok h
  obtain ⟨status, -, h⟩ := exists_of_bind_eq_ok h
  obtain ⟨created, hcreated, h⟩ := exists_of_bind_eq_ok h
  obtain ⟨updated, hupdated, h⟩ := exists_of_bind_eq_ok h
  obtain ⟨owner, -, h⟩ := exists_of_bind_eq_ok h
  obtain ⟨stages, -, h⟩ := exists_of_bind_eq_ok h
  obtain ⟨errorMessage, -, h⟩ := exists_of_bind_eq_ok h
  cases h
  exact ⟨hfields .created created (Schema.Draft.eq_some_of_need hcreated),
    hfields .updated updated (Schema.Draft.eq_some_of_need hupdated)⟩

theorem isRegular_of_ofText {s : String} {r : Record} (h : Record.ofText s = .ok r) :
    r.IsRegular := by
  obtain ⟨r', hread, h⟩ := exists_of_bind_eq_ok h
  split at h
  · cases h
    exact isRegular_of_read hread
  · cases h

/-- **What is written is read back.** The text of a record is read as the settled record, which has
the same text and is the record itself exactly when its timestamps are regular. Those of an accepted
text are. So it is written as a text that is accepted again, as the same record, and writing that
record leaves the text as it is. -/
theorem text_is_stable :
    (∀ r : Record, Record.ofText r.text = .ok r.settled ∧ r.settled.text = r.text ∧
      (Record.ofText r.text = .ok r ↔ r.IsRegular)) ∧
      ∀ (s : String) (r : Record), Record.ofText s = .ok r →
        ∃ r', Record.ofText r.text = .ok r' ∧ r' = r ∧ r'.text = r.text := by
  refine ⟨fun r => ⟨r.ofText_text, r.text_settled, ?_⟩, fun s r h => ⟨r, ?_, rfl, rfl⟩⟩
  · rw [r.ofText_text, Except.ok.injEq, settled_eq_iff]
  · rw [r.ofText_text, settled_eq_iff.mpr (isRegular_of_ofText h)]

/-- A text that no record is written as: an array that ends before the stages, with a leap second of
the year -44 whose fraction has one digit. -/
def leapText : String :=
  "[\"7\", \"error\", \"-0044-12-31T23:59:60.5Z\", null, [\"\", \"B\", \"\"]]"

/-- The record that `leapText` holds. -/
def leapRecord : Record where
  id := "7"
  status := .error
  created := some ⟨-735234, 86399, 1500000000, by decide, by decide, by decide, by decide⟩
  updated := none
  owner := ⟨"", "B", ""⟩
  stages := []
  errorMessage := none

theorem ofText_leapText : ofText leapText = .ok leapRecord := by
  have h : (ofText leapText).toOption = some leapRecord := by decide +kernel
  cases hr : ofText leapText with
  | error e => simp [hr, Except.toOption] at h
  | ok r => simpa [hr, Except.toOption] using h

theorem leapText_is_stable :
    ofText leapText = .ok leapRecord ∧
      ∃ r', ofText leapRecord.text = .ok r' ∧ r' = leapRecord ∧ r'.text = leapRecord.text :=
  ⟨ofText_leapText, text_is_stable.2 leapText leapRecord ofText_leapText⟩

/-- A record that no text is read as: it was created in a leap second behind 23:56:04. -/
def strayRecord : Record where
  id := "7"
  status := .error
  created := some ⟨20471, 86164, 1333333333, by decide, by decide, by decide, by decide⟩
  updated := some ⟨20471, 86166, 250000000, by decide, by decide, by decide, by decide⟩
  owner := ⟨"Ada", "", ""⟩
  stages := []
  errorMessage := none

/-- The record is accepted when it has been written, but as another one. A second has passed between
its timestamps, but not between those that are read. -/
theorem strayRecord_is_not_read_back :
    ∃ r, ofText strayRecord.text = .ok r ∧ r ≠ strayRecord ∧
      strayRecord.executionTime = some "1 second" ∧ r.executionTime = some "0 seconds" := by
  refine ⟨strayRecord.settled, strayRecord.ofText_text, ?_, by decide +kernel, by decide +kernel⟩
  rw [ne_eq, settled_eq_iff]
  rintro ⟨hcreated, -⟩
  have hlast : 86164 % 60 = 59 := hcreated _ rfl (by decide)
  exact absurd hlast (by decide)

end Record

end JobNotice.Job
