import JobNotice.Proofs.Job.Serialization
import JobNotice.Proofs.Json.Forms
import Mathlib.Logic.Relation

/-!
# The form of a job record does not matter

Job records come as objects or as arrays, and so do the owner and the stages in them. From any form
that is accepted, others are reached by changing the order of members, adding members with unknown
names and writing an array for an object, at each of the three levels and as often as one likes. All
of them hold the same record. But an object says each of its fields only once: a field that occurs
twice is refused at whichever level it stands.

## Main definitions

* `Job.Record.Step` — one form of a record becomes another one
* `Job.Record.RepeatsMember` — a field of the record, its owner or a stage occurs twice

## Main results

* `Job.Record.read_steps` — all forms hold the same record
* `Job.Record.forms_agree` — the same of texts, and which texts hold no record
-/

namespace JobNotice.Job

open Json (Node Reading Schema Value)

/-! ### Forms of owners and stages -/

/-- A step of one of the fields of an owner or a stage, which have only one form. -/
abbrev noStep {F : Type} : F → Node → Node → Prop := fun _ _ _ => False

/-- Owners and stages may not leave out a field. -/
abbrev noMissing {F : Type} : F → Option Node := fun _ => none

def Owner.Step : Node → Node → Prop := Owner.schema.Step noMissing noStep

def Stage.Step : Node → Node → Prop := Stage.schema.Step noMissing noStep

/-- One of the stages of a list takes another form. -/
inductive StagesStep : Node → Node → Prop
  | stage {before after : List Node} {s s' : Node} (h : Stage.Step s s') :
      StagesStep (.array (before ++ s :: after) .closed) (.array (before ++ s' :: after) .closed)

namespace Record

/-- What an array holds for a field that an object leaves out. -/
def missing : RecordField → Option Node
  | .created | .updated | .errorMessage => some .null
  | .stages => some (.array [] .closed)
  | .id | .status | .owner => none

/-- The owner and the stages may take another form. -/
def fieldStep : RecordField → Node → Node → Prop
  | .owner => Owner.Step
  | .stages => StagesStep
  | .id | .status | .created | .updated | .errorMessage => fun _ _ => False

/-- One form of a record becomes another one. -/
def Step : Node → Node → Prop := schema.Step missing fieldStep

/-- A field of the record, of its owner or of one of its stages occurs twice in its object. -/
inductive RepeatsMember (node : Node) : Prop
  | record (h : schema.Repeats node) : RepeatsMember node
  | owner {owner : Node} (howner : schema.Has node .owner owner) (h : Owner.schema.Repeats owner) :
      RepeatsMember node
  | stage {items : List Node} {ending : Json.Ending} {stage : Node}
      (hstages : schema.Has node .stages (.array items ending)) (hstage : stage ∈ items)
      (h : Stage.schema.Repeats stage) : RepeatsMember node

end Record

/-! ### Steps keep what is read -/

theorem Owner.read_step {node node' : Node} (hstep : Owner.Step node node') {o : Owner}
    (h : Owner.read node = .ok o) : Owner.read node' = .ok o :=
  bind_eq_ok_of (fun _ => Schema.read?_step isComplete_schema (by simp) (by simp) hstep) h

theorem Stage.read_step {node node' : Node} (hstep : Stage.Step node node') {s : Stage}
    (h : Stage.read node = .ok s) : Stage.read node' = .ok s :=
  bind_eq_ok_of (fun _ => Schema.read?_step isComplete_schema (by simp) (by simp) hstep) h

/-- The items of a list are read one by one. -/
theorem mapM_append_cons_eq_ok {α β : Type} {read : α → Reading β} {before after : List α} {a : α}
    {bs : List β} : (before ++ a :: after).mapM read = .ok bs ↔
      ∃ xs b ys, before.mapM read = .ok xs ∧ read a = .ok b ∧ after.mapM read = .ok ys ∧
        bs = xs ++ b :: ys := by
  rw [List.mapM_append, List.mapM_cons]
  constructor
  · intro h
    obtain ⟨xs, hxs, h⟩ := exists_of_bind_eq_ok h
    obtain ⟨bs', hbs, h⟩ := exists_of_bind_eq_ok h
    obtain ⟨b, hb, hbs⟩ := exists_of_bind_eq_ok hbs
    obtain ⟨ys, hys, hbs⟩ := exists_of_bind_eq_ok hbs
    obtain rfl := Except.ok.inj hbs
    exact ⟨xs, b, ys, hxs, hb, hys, (Except.ok.inj h).symm⟩
  · rintro ⟨xs, b, ys, hxs, hb, hys, rfl⟩
    simp only [hxs, hb, hys, bind, Except.bind, pure, Except.pure]

theorem readStages_step {node node' : Node} (hstep : StagesStep node node') {stages : List Stage}
    (h : Node.readList Stage.read node = .ok stages) :
    Node.readList Stage.read node' = .ok stages := by
  obtain ⟨hs⟩ := hstep
  refine bind_eq_ok_of (fun bs hbs => ?_) h
  obtain ⟨xs, b, ys, hbefore, hread, hafter, rfl⟩ := mapM_append_cons_eq_ok.mp hbs
  exact mapM_append_cons_eq_ok.mpr ⟨xs, b, ys, hbefore, Stage.read_step hs hread, hafter, rfl⟩

namespace Record

variable {node node' : Node} {r : Record}

theorem read_step (hstep : Step node node') (h : Record.read node = .ok r) :
    Record.read node' = .ok r := by
  refine bind_eq_ok_of (fun d => Schema.read?_step isComplete_schema ?_ ?_ hstep) h
  · intro f value hvalue
    cases f <;> cases hvalue <;> exact ⟨_, rfl, rfl⟩
  · intro f value value' hvalue v hread
    cases f with
    | owner => exact Owner.read_step hvalue hread
    | stages => exact readStages_step hvalue hread
    | _ => cases hvalue

/-- **All forms of a record hold it.** -/
theorem read_steps (hsteps : Relation.ReflTransGen Step node node') (h : Record.read node = .ok r) :
    Record.read node' = .ok r := by
  induction hsteps with
  | refl => exact h
  | tail _ hstep ih => exact read_step hstep ih

/-! ### Fields that occur twice -/

theorem not_repeatsMember_of_read (h : Record.read node = .ok r) : ¬ RepeatsMember node := by
  obtain ⟨d, hd, -⟩ := exists_of_bind_eq_ok h
  rintro (htwice | ⟨howner, htwice⟩ | ⟨hstages, hstage, htwice⟩)
  · exact Schema.not_repeats_of_read? isComplete_schema hd htwice
  · obtain ⟨o, ho⟩ := Schema.exists_read_of_has isComplete_schema hd howner
    obtain ⟨e, he, -⟩ := exists_of_bind_eq_ok (show Owner.read _ = .ok o from ho)
    exact Schema.not_repeats_of_read? Owner.isComplete_schema he htwice
  · obtain ⟨stages, hread⟩ := Schema.exists_read_of_has isComplete_schema hd hstages
    obtain ⟨xs, hitems, -⟩ := exists_of_bind_eq_ok
      (show Node.readList Stage.read (.array _ _) = .ok stages from hread)
    obtain ⟨before, after, rfl⟩ := List.append_of_mem hstage
    obtain ⟨-, s, -, -, hs, -⟩ := mapM_append_cons_eq_ok.mp hitems
    obtain ⟨e, he, -⟩ := exists_of_bind_eq_ok hs
    exact Schema.not_repeats_of_read? Stage.isComplete_schema he htwice

/-! ### Texts -/

theorem ofText_eq_ok_iff {s : String} :
    ofText s = .ok r ↔ Record.read (Node.ofText s).1 = .ok r ∧ (Node.ofText s).2 = none := by
  rw [ofText, Json.readText]
  obtain ⟨node, after⟩ := Node.ofText s
  cases hread : Record.read node <;> cases after <;> simp [hread, bind, Except.bind]

/-- **The form of a job record does not matter.** A text is accepted if its tree is reached by steps
from that of an accepted text, and holds the same record. No text is accepted in which a field of
one object occurs twice. -/
theorem forms_agree :
    (∀ (s s' : String) (r : Record), ofText s = .ok r →
      Relation.ReflTransGen Step (Node.ofText s).1 (Node.ofText s').1 →
      (Node.ofText s').2 = none → ofText s' = .ok r) ∧
    ∀ (s : String) (r : Record), RepeatsMember (Node.ofText s).1 → ofText s ≠ .ok r := by
  constructor
  · intro s s' r h hsteps hend
    exact ofText_eq_ok_iff.mpr ⟨read_steps hsteps (ofText_eq_ok_iff.mp h).1, hend⟩
  · intro s r htwice h
    exact not_repeatsMember_of_read (ofText_eq_ok_iff.mp h).1 htwice

/-- An object with an unknown member and no stages, its owner and itself written as arrays, and an
object that says its id twice. -/
theorem forms_agree_of_array :
    let owner : Value :=
      .object [("email", .string "a"), ("first_name", .string "Ada"), ("last_name", .string "")]
    let record : Value :=
      .object [("x", .array [.bool true]), ("owner", owner), ("id", .string "7"),
        ("status", .string "success")]
    let array : Value :=
      .array [.string "7", .string "success", .null, .null,
        .array [.string "Ada", .string "", .string "a"], .array [], .null]
    let twice : Value := .object [("id", .string "7"), ("owner", .null), ("id", .string "7")]
    let r : Record := ⟨"7", .success, none, none, ⟨"Ada", "", "a"⟩, [], none⟩
    ofText record.compact = .ok r ∧
      Relation.ReflTransGen Step (Node.ofText record.compact).1 (Node.ofText array.compact).1 ∧
      (Node.ofText array.compact).2 = none ∧ ofText array.compact = .ok r ∧
      RepeatsMember (Node.ofText twice.compact).1 ∧ ofText twice.compact ≠ .ok r := by
  intro owner record array twice r
  have hrecord : Node.ofText record.compact = (record.node, none) := Node.ofText_compact rfl
  have harray : Node.ofText array.compact = (array.node, none) := Node.ofText_compact rfl
  have htwice : Node.ofText twice.compact = (twice.node, none) := Node.ofText_compact rfl
  let owner' : Value := .array [.string "Ada", .string "", .string "a"]
  let members (owner : Value) : List (String × Value) :=
    [("x", .array [.bool true]), ("owner", owner), ("id", .string "7"),
      ("status", .string "success")]
  let names (f : OwnerField) : Node :=
    OwnerField.rec (motive := fun _ => Node) (Value.string "Ada").node (Value.string "").node
      (Value.string "a").node f
  let fields (f : RecordField) : Node :=
    RecordField.rec (motive := fun _ => Node) (Value.string "7").node (Value.string "success").node
      .null .null owner'.node (Value.array []).node .null f
  have hr : ofText record.compact = .ok r :=
    ofText_eq_ok_iff.mpr ⟨by rw [hrecord]; rfl, by rw [hrecord]⟩
  have howner : Owner.Step owner.node owner'.node := by
    refine Schema.Step.array names fun f => .inl ?_
    cases f <;> rfl
  have hmember : Step (Value.object (members owner)).node (Value.object (members owner')).node :=
    Schema.Step.member [_] (f := .owner) rfl howner
  have hfields : Step (Value.object (members owner')).node array.node := by
    refine Schema.Step.array fields fun f => ?_
    cases f
    case created | updated | stages | errorMessage => exact .inr ⟨rfl, rfl⟩
    case id | status | owner => exact .inl rfl
  have hsteps :
      Relation.ReflTransGen Step (Node.ofText record.compact).1 (Node.ofText array.compact).1 := by
    rw [hrecord, harray]
    exact (Relation.ReflTransGen.single hmember).tail hfields
  have hend : (Node.ofText array.compact).2 = none := by rw [harray]
  have hrepeats : RepeatsMember (Node.ofText twice.compact).1 := by
    rw [htwice]
    exact .record (.object (f := .id) (Nat.le_refl 2))
  exact ⟨hr, hsteps, hend, forms_agree.1 _ _ r hr hsteps hend, hrepeats,
    forms_agree.2 _ r hrepeats⟩

end Record

end JobNotice.Job
