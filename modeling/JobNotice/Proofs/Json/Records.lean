import JobNotice.Json.Decode
import JobNotice.Proofs.Json.RoundTrip
import JobNotice.Proofs.Text.Reading

/-!
# Records are read back

A record that is written as an object with its fields in order of declaration is read back if each
of its fields is: no field is met twice, none is unknown and none is absent. In whichever form a record
comes, its fields only get the values that their readers give them or that they have by default. So
what is true of those values is true of the whole record.

## Main definitions

* `Json.Schema.IsComplete` — every field is listed once, with a name of its own
* `Json.Schema.Ensures` — all values that a field can get have a property

## Main results

* `Json.Schema.IsComplete.read?_object` — a record is read back field by field
* `Json.Schema.Ensures.read?` — the fields of a record that has been read have the property
* `Json.Node.readList_map`, `Json.Node.readOption_ofString?` — lists and optional strings
-/

namespace JobNotice.Json

namespace Schema

variable {F : Type} {S : Schema F}

/-- A schema that lists each of its fields once, every one with a name of its own. -/
structure IsComplete (S : Schema F) : Prop where
  mem_fields : ∀ f, f ∈ S.fields
  nodup : S.fields.Nodup
  name_inj : ∀ f g, S.name f = S.name g → f = g

/-- A field is found by its name. -/
theorem IsComplete.find?_name (hS : S.IsComplete) (f : F) :
    S.fields.find? (fun g => S.name g = S.name f) = some f := by
  cases h : S.fields.find? (fun g => S.name g = S.name f) with
  | none =>
    have := List.find?_eq_none.mp h f (hS.mem_fields f)
    simp at this
  | some g => rw [hS.name_inj g f (by simpa using List.find?_some h)]

variable [DecidableEq F]

/-- The draft in which some fields have been filled in. -/
def Draft.fillAll (d : S.Draft) (value : (f : F) → S.Value f) (fs : List F) : S.Draft :=
  fun f => if f ∈ fs then some (value f) else d f

theorem Draft.fillAll_nil (d : S.Draft) (value : (f : F) → S.Value f) : d.fillAll value [] = d := by
  funext f
  simp [Draft.fillAll]

theorem Draft.fillAll_cons (d : S.Draft) (value : (f : F) → S.Value f) (f : F) (fs : List F) :
    (d.fill f (value f)).fillAll value fs = d.fillAll value (f :: fs) := by
  funext g
  by_cases hg : g ∈ fs
  · simp [Draft.fillAll, hg]
  · by_cases hfg : f = g
    · subst hfg
      simp [Draft.fillAll, Draft.fill, hg]
    · simp [Draft.fillAll, Draft.fill, hg, hfg, Ne.symm hfg]

theorem IsComplete.fillAll_fields (hS : S.IsComplete) (d : S.Draft)
    (value : (f : F) → S.Value f) : d.fillAll value S.fields = fun f => some (value f) := by
  funext f
  simp [Draft.fillAll, hS.mem_fields f]

/-- Members that hold fields which have not been met fill these fields in. -/
theorem readMembers_fields (hS : S.IsComplete) {value : (f : F) → S.Value f} {node : F → Node}
    (hread : ∀ f, S.read f (node f) = .ok (value f)) (fs : List F) (hnodup : fs.Nodup) (d : S.Draft)
    (hd : ∀ f ∈ fs, d f = none) :
    readMembers d (fs.map fun f => (.string (.ok (S.name f)) none, node f))
      = .ok (d.fillAll value fs) := by
  induction fs generalizing d with
  | nil =>
    rw [Draft.fillAll_nil]
    rfl
  | cons f fs ih =>
    obtain ⟨hnot, hnodup⟩ := List.nodup_cons.mp hnodup
    have hempty : (d f).isSome = false := by simp [hd f (by simp)]
    have hlater : ∀ g ∈ fs, d.fill f (value f) g = none := by
      intro g hg
      have hne : f ≠ g := fun h => hnot (h ▸ hg)
      simp [Draft.fill, hne, hd g (List.mem_cons_of_mem f hg)]
    simp only [List.map_cons, readMembers, Node.name, ofFault, bind, Except.bind, hS.find?_name f,
      hempty, Bool.false_eq_true, if_false, hread]
    rw [ih hnodup _ hlater, Draft.fillAll_cons]

theorem complete_of_isSome (d : S.Draft) (fs : List F) (h : ∀ f ∈ fs, (d f).isSome = true) :
    complete d fs = .ok d := by
  induction fs with
  | nil => rfl
  | cons f fs ih =>
    obtain ⟨v, hv⟩ := Option.isSome_iff_exists.mp (h f (by simp))
    rw [complete, hv]
    exact ih fun g hg => h g (List.mem_cons_of_mem f hg)

/-- **A record is read back field by field.** -/
theorem IsComplete.read?_object (hS : S.IsComplete) (json : F → Json.Value)
    {value : (f : F) → S.Value f} (hread : ∀ f, S.read f (json f).node = .ok (value f)) :
    S.read? (Value.object (S.fields.map fun f => (S.name f, json f))).node
      = .ok fun f => some (value f) := by
  have hmembers := readMembers_fields hS hread S.fields hS.nodup empty fun _ _ => rfl
  rw [hS.fillAll_fields] at hmembers
  have hcomplete := complete_of_isSome (fun f => some (value f)) S.fields fun _ _ => rfl
  simp only [Value.node, memberNodes_eq, List.map_map, Function.comp_def, read?, hmembers, bind,
    Except.bind, Ending.check, ofFault, hcomplete]

/-! ### What fields can be read as -/

/-- All values that a field can get have a property: those that are read, and those of a field that
is absent. -/
structure Ensures (S : Schema F) (P : (f : F) → S.Value f → Prop) : Prop where
  read : ∀ f node v, S.read f node = .ok v → P f v
  absent : ∀ f v, S.absent f = some v → P f v
  beyond : ∀ f v, S.beyond f = some v → P f v

/-- The fields that have been filled in have a property. -/
def Draft.All (P : (f : F) → S.Value f → Prop) (d : S.Draft) : Prop := ∀ f v, d f = some v → P f v

variable {P : (f : F) → S.Value f → Prop} {d d' : S.Draft}

theorem Draft.All.fill (hd : d.All P) {f : F} {v : S.Value f} (hv : P f v) : (d.fill f v).All P := by
  intro g w hw
  by_cases h : f = g
  · subst h
    simp only [Draft.fill, dif_pos, Option.some.injEq] at hw
    exact hw ▸ hv
  · simp only [Draft.fill, dif_neg h] at hw
    exact hd g w hw

namespace Ensures

variable (hS : S.Ensures P)

include hS

theorem readMembers {members : List (Node × Node)} (hd : d.All P)
    (h : Schema.readMembers d members = .ok d') : d'.All P := by
  induction members generalizing d with
  | nil =>
    cases h
    exact hd
  | cons m rest ih =>
    obtain ⟨key, value⟩ := m
    obtain ⟨name, -, h⟩ := exists_of_bind_eq_ok h
    split at h
    · next f _ =>
      split at h
      · cases h
      · obtain ⟨v, hv, h⟩ := exists_of_bind_eq_ok h
        exact ih (hd.fill (hS.read f value v hv)) h
    · split at h
      · cases h
      · exact ih hd h

theorem complete {fs : List F} (hd : d.All P) (h : Schema.complete d fs = .ok d') : d'.All P := by
  induction fs generalizing d with
  | nil =>
    cases h
    exact hd
  | cons f fs ih =>
    rw [Schema.complete] at h
    split at h
    · exact ih hd h
    · next v _ habsent => exact ih (hd.fill (hS.absent f v habsent)) h
    · cases h

theorem readItems {fs : List F} {index : Nat} {items : List Node} {ending : Ending}
    (hd : d.All P) (h : Schema.readItems d index fs items ending = .ok d') : d'.All P := by
  induction fs generalizing d index items with
  | nil =>
    cases items <;> cases ending <;> cases h
    exact hd
  | cons f fs ih =>
    cases items with
    | cons n items =>
      obtain ⟨v, hv, h⟩ := exists_of_bind_eq_ok h
      exact ih (hd.fill (hS.read f n v hv)) h
    | nil =>
      cases ending with
      | broken fault => cases h
      | dangling fault => cases h
      | closed =>
        simp only [Schema.readItems] at h
        split at h
        · next v hbeyond => exact ih (hd.fill (hS.beyond f v hbeyond)) h
        · cases h

/-- **The fields of a record that has been read have the property.** -/
theorem read? {node : Node} (h : S.read? node = .ok d) : d.All P := by
  have hempty : (empty : S.Draft).All P := fun f v hv => nomatch hv
  unfold Schema.read? at h
  split at h
  · obtain ⟨d', hmembers, h⟩ := exists_of_bind_eq_ok h
    obtain ⟨-, -, h⟩ := exists_of_bind_eq_ok h
    exact hS.complete (hS.readMembers hempty hmembers) h
  · exact hS.readItems hempty h
  · cases h

end Ensures

omit [DecidableEq F] in
theorem Draft.eq_some_of_need {f : F} {v : S.Value f} (h : d.need f = .ok v) : d f = some v := by
  unfold Draft.need at h
  split at h
  · next hv =>
    cases h
    exact hv
  · cases h

end Schema

/-! ### Lists and optional values -/

theorem Node.readList_map {α : Type} {read : Node → Reading α} {json : α → Value}
    (hread : ∀ a, read (json a).node = .ok a) (xs : List α) :
    Node.readList read (Value.array (xs.map json)).node = .ok xs := by
  have hitems : ((xs.map json).map Value.node).mapM read = .ok xs := by
    induction xs with
    | nil => rfl
    | cons x xs ih =>
      simp only [List.map_cons, List.mapM_cons, hread, ih, bind, Except.bind, pure, Except.pure]
  simp only [Value.node, itemNodes_eq, Node.readList, hitems, bind, Except.bind, Ending.check,
    ofFault]

theorem Node.readOption_ofString? {α β : Type} {read : Node → Reading β} {text : α → String}
    {back : α → β} (hread : ∀ a, read (.string (.ok (text a)) none) = .ok (back a)) (x : Option α) :
    Node.readOption read (Value.ofString? (x.map text)).node = .ok (x.map back) := by
  cases x with
  | none => rfl
  | some a => simp [Value.ofString?, Value.node, Node.readOption, hread, Except.map]

end JobNotice.Json
