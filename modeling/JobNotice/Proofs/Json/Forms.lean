import JobNotice.Proofs.Json.Records
import Mathlib.Data.List.Perm.Basic

/-!
# The forms of a record

A record is an object with its members in any order, or the array of its fields. Reading an object
only asks, for each field, which values its members give for it: none at all, if the field may be
absent, or a single one that is read. So an object and a draft are related field by field, and the
order of the members and the members without a field do not come into it.

## Main definitions

* `Json.Schema.valuesOf` — the values that members give for a field
* `Json.Schema.IsUnknown` — members that no field has the name of
* `Json.Schema.Holds` — an object holds the fields of a draft
* `Json.Schema.Step` — one form of a record becomes another one
* `Json.Schema.Has`, `Json.Schema.Repeats` — the values of fields, and fields that occur twice

## Main results

* `Json.Schema.read?_object_iff` — an object is read as the draft whose fields it holds
* `Json.Schema.read?_step` — a step keeps what is read
* `Json.Schema.not_repeats_of_read?` — no field of a record that is read occurs twice
-/

namespace JobNotice.Json.Schema

variable {F : Type} {S : Schema F}

/-! ### Objects and the fields they hold -/

/-- The values of the members that have the name of a field, in the order of the members. -/
def valuesOf (S : Schema F) (members : List (Node × Node)) (f : F) : List Node :=
  (members.filter fun m => m.1.name.toOption = some (S.name f)).map Prod.snd

/-- A member that no field has the name of. Its value is only skipped. -/
structure IsUnknown (S : Schema F) (m : Node × Node) : Prop where
  name : ∃ name, m.1.name = .ok name ∧ ∀ f, S.name f ≠ name
  value : m.2.skip = none

/-- What a field is after members that give some values for it, from what it was before. -/
def Filled (S : Schema F) (f : F) (before : Option (S.Value f)) (values : List Node)
    (after : Option (S.Value f)) : Prop :=
  (values = [] ∧ after = before) ∨
    (before = none ∧ ∃ node v, values = [node] ∧ S.read f node = .ok v ∧ after = some v)

/-- An object holds a field if it has one value for it, or none and the field may be absent. -/
structure Holds (S : Schema F) (members : List (Node × Node)) (d : S.Draft) : Prop where
  known : ∀ m ∈ members, (∃ f, m.1.name = .ok (S.name f)) ∨ S.IsUnknown m
  fields : ∀ f, (S.valuesOf members f = [] ∧ d f = S.absent f ∧ (S.absent f).isSome = true) ∨
    ∃ node v, S.valuesOf members f = [node] ∧ S.read f node = .ok v ∧ d f = some v

theorem toOption_eq_some {ε α : Type} {x : Except ε α} {a : α} :
    x.toOption = some a ↔ x = .ok a := by
  cases x <;> simp [Except.toOption]

section Values

variable {members members' before after : List (Node × Node)} {m : Node × Node} {f : F}

@[simp] theorem valuesOf_nil (S : Schema F) (f : F) : S.valuesOf [] f = [] := rfl

theorem valuesOf_append (S : Schema F) (before after : List (Node × Node)) (f : F) :
    S.valuesOf (before ++ after) f = S.valuesOf before f ++ S.valuesOf after f := by
  simp [valuesOf]

theorem valuesOf_cons_of_name (h : m.1.name = .ok (S.name f)) :
    S.valuesOf (m :: members) f = m.2 :: S.valuesOf members f := by
  simp [valuesOf, toOption_eq_some.mpr h]

theorem valuesOf_cons_of_ne (h : m.1.name ≠ .ok (S.name f)) :
    S.valuesOf (m :: members) f = S.valuesOf members f := by
  simp [valuesOf, mt toOption_eq_some.mp h]

theorem IsUnknown.ne_name (h : S.IsUnknown m) (f : F) :
    m.1.name ≠ .ok (S.name f) := by
  obtain ⟨name, hname, hne⟩ := h.name
  rw [hname]
  intro heq
  exact hne f (Except.ok.inj heq).symm

theorem valuesOf_insert (h : S.IsUnknown m) (f : F) :
    S.valuesOf (before ++ m :: after) f = S.valuesOf (before ++ after) f := by
  rw [valuesOf_append, valuesOf_append, valuesOf_cons_of_ne (h.ne_name f)]

theorem valuesOf_perm (h : members.Perm members') (f : F) :
    (S.valuesOf members f).Perm (S.valuesOf members' f) :=
  (h.filter _).map _

end Values

/-! ### Reading objects -/

theorem find?_eq_none_iff (hS : S.IsComplete) {name : String} :
    S.fields.find? (fun f => S.name f = name) = none ↔ ∀ f, S.name f ≠ name := by
  simp [List.find?_eq_none, hS.mem_fields]

/-- A field that members fill in and that is completed afterwards. -/
theorem filled_or_absent_iff {f : F} {values : List Node} {after : Option (S.Value f)} :
    (∃ v, S.Filled f none values v ∧ (v.or (S.absent f)).isSome = true ∧
      after = v.or (S.absent f)) ↔
      (values = [] ∧ after = S.absent f ∧ (S.absent f).isSome = true) ∨
        ∃ node v, values = [node] ∧ S.read f node = .ok v ∧ after = some v := by
  constructor
  · rintro ⟨_, ⟨rfl, rfl⟩ | ⟨-, node, v, rfl, hread, rfl⟩, hsome, rfl⟩
    · exact .inl ⟨rfl, rfl, hsome⟩
    · exact .inr ⟨node, v, rfl, hread, rfl⟩
  · rintro (⟨rfl, rfl, hsome⟩ | ⟨node, v, rfl, hread, rfl⟩)
    · exact ⟨none, .inl ⟨rfl, rfl⟩, hsome, rfl⟩
    · exact ⟨some v, .inr ⟨rfl, node, v, rfl, hread, rfl⟩, rfl, rfl⟩

section Reading

variable [DecidableEq F] {members members' : List (Node × Node)} {d d' : S.Draft}

/-- **What reading one member does**: it is skipped, or fills in a field that was empty. -/
theorem readMembers_cons_iff (hS : S.IsComplete) {m : Node × Node} :
    readMembers d (m :: members) = .ok d' ↔
      (S.IsUnknown m ∧ readMembers d members = .ok d') ∨
        ∃ f v, m.1.name = .ok (S.name f) ∧ d f = none ∧ S.read f m.2 = .ok v ∧
          readMembers (d.fill f v) members = .ok d' := by
  obtain ⟨key, value⟩ := m
  constructor
  · intro h
    cases hname : key.name with
    | error fault => simp [readMembers, hname, ofFault, bind, Except.bind] at h
    | ok name =>
      simp only [readMembers, hname, ofFault, bind, Except.bind] at h
      cases hfind : S.fields.find? (fun f => S.name f = name) with
      | none =>
        simp only [hfind] at h
        cases hskip : value.skip with
        | some fault => simp [hskip] at h
        | none =>
          rw [hskip] at h
          exact .inl ⟨⟨⟨name, hname, (find?_eq_none_iff hS).mp hfind⟩, hskip⟩, h⟩
      | some f =>
        obtain rfl : S.name f = name := by simpa using List.find?_some hfind
        simp only [hfind] at h
        cases hbefore : d f with
        | some w => simp [hbefore] at h
        | none =>
          cases hread : S.read f value with
          | error e => simp [hbefore, hread] at h
          | ok v =>
            simp only [hbefore, hread, Option.isSome_none, Bool.false_eq_true, if_false] at h
            exact .inr ⟨f, v, rfl, hbefore, hread, h⟩
  · rintro (⟨⟨⟨name, hname, hne⟩, hskip⟩, h⟩ | ⟨f, v, hname, hbefore, hread, h⟩)
    · simp only at hname hskip
      simp only [readMembers, hname, ofFault, bind, Except.bind,
        (find?_eq_none_iff hS).mpr hne, hskip, h]
    · simp only at hname hread
      simp only [readMembers, hname, ofFault, bind, Except.bind, hS.find?_name f, hbefore,
        Option.isSome_none, Bool.false_eq_true, if_false, hread, h]

/-- A member with a field's name fills that field in and leaves the others. -/
theorem filled_fill_iff (hS : S.IsComplete) {m : Node × Node} {f : F} {v : S.Value f}
    (hname : m.1.name = .ok (S.name f)) (hbefore : d f = none) (hread : S.read f m.2 = .ok v)
    (g : F) : S.Filled g (d.fill f v g) (S.valuesOf members g) (d' g) ↔
      S.Filled g (d g) (S.valuesOf (m :: members) g) (d' g) := by
  by_cases hfg : f = g
  · subst hfg
    have hfill : d.fill f v f = some v := by simp [Draft.fill]
    rw [valuesOf_cons_of_name hname, hfill, hbefore, Filled, Filled]
    constructor
    · rintro (⟨hnil, hafter⟩ | ⟨hnone, -⟩)
      · exact .inr ⟨rfl, m.2, v, by rw [hnil], hread, hafter⟩
      · cases hnone
    · rintro (⟨hnil, -⟩ | ⟨-, node, w, hvalues, hw, hafter⟩)
      · cases hnil
      · obtain ⟨rfl, hnil⟩ := List.cons.inj hvalues
        obtain rfl := Except.ok.inj (hread.symm.trans hw)
        exact .inl ⟨hnil, hafter⟩
  · have hfill : d.fill f v g = d g := by simp [Draft.fill, hfg]
    have hne : m.1.name ≠ .ok (S.name g) := by
      intro heq
      exact hfg (hS.name_inj f g (Except.ok.inj (hname.symm.trans heq)))
    rw [valuesOf_cons_of_ne hne, hfill]

/-- **What reading members does to a draft**, said for each field by itself. -/
theorem readMembers_iff (hS : S.IsComplete) :
    readMembers d members = .ok d' ↔
      (∀ m ∈ members, (∃ f, m.1.name = .ok (S.name f)) ∨ S.IsUnknown m) ∧
        ∀ f, S.Filled f (d f) (S.valuesOf members f) (d' f) := by
  induction members generalizing d with
  | nil =>
    constructor
    · intro h
      obtain rfl := Except.ok.inj h
      exact ⟨by simp, fun f => .inl ⟨rfl, rfl⟩⟩
    · rintro ⟨-, hfields⟩
      have hsame : d' = d := by
        funext f
        obtain ⟨-, hafter⟩ | ⟨-, node, v, hvalues, -⟩ := hfields f
        · exact hafter
        · cases hvalues
      rw [hsame]
      rfl
  | cons m rest ih =>
    rw [readMembers_cons_iff hS, List.forall_mem_cons]
    constructor
    · rintro (⟨hm, h⟩ | ⟨f, v, hname, hbefore, hread, h⟩)
      · obtain ⟨hknown, hfields⟩ := ih.mp h
        refine ⟨⟨.inr hm, hknown⟩, fun f => ?_⟩
        rw [valuesOf_cons_of_ne (hm.ne_name f)]
        exact hfields f
      · obtain ⟨hknown, hfields⟩ := ih.mp h
        exact ⟨⟨.inl ⟨f, hname⟩, hknown⟩,
          fun g => (filled_fill_iff hS hname hbefore hread g).mp (hfields g)⟩
    · rintro ⟨⟨⟨f, hname⟩ | hm, hknown⟩, hfields⟩
      · obtain ⟨hnil, -⟩ | ⟨hbefore, node, v, hvalues, hread, -⟩ := hfields f
        · rw [valuesOf_cons_of_name hname] at hnil
          cases hnil
        · rw [valuesOf_cons_of_name hname] at hvalues
          obtain ⟨rfl, -⟩ := List.cons.inj hvalues
          exact .inr ⟨f, v, hname, hbefore, hread, ih.mpr ⟨hknown,
            fun g => (filled_fill_iff hS hname hbefore hread g).mpr (hfields g)⟩⟩
      · refine .inl ⟨hm, ih.mpr ⟨hknown, fun f => ?_⟩⟩
        have hfield := hfields f
        rwa [valuesOf_cons_of_ne (hm.ne_name f)] at hfield

/-- What completing a draft does to its fields. -/
theorem complete_iff {fs : List F} :
    complete d fs = .ok d' ↔ ∀ f, (f ∈ fs → ((d f).or (S.absent f)).isSome = true) ∧
      d' f = if f ∈ fs then (d f).or (S.absent f) else d f := by
  induction fs generalizing d with
  | nil =>
    simp only [complete, Except.ok.injEq, List.not_mem_nil, false_implies, if_false, true_and]
    exact ⟨fun h f => by rw [h], fun h => funext fun f => (h f).symm⟩
  | cons f fs ih =>
    -- what the first field does to a draft, it does to every later look at it
    have hstep {e : S.Draft} (hf : (d f).or (S.absent f) = e f) (hsome : (e f).isSome = true)
        (hother : ∀ g, f ≠ g → d g = e g) :
        (∀ g, (g ∈ fs → ((e g).or (S.absent g)).isSome = true) ∧
          d' g = if g ∈ fs then (e g).or (S.absent g) else e g) ↔
        ∀ g, (g ∈ f :: fs → ((d g).or (S.absent g)).isSome = true) ∧
          d' g = if g ∈ f :: fs then (d g).or (S.absent g) else d g := by
      refine forall_congr' fun g => ?_
      by_cases hfg : f = g
      · subst hfg
        have hor : (e f).or (S.absent f) = e f := by
          obtain ⟨v, hv⟩ := Option.isSome_iff_exists.mp hsome
          rw [hv, Option.some_or]
        simp [hf, hor, hsome]
      · simp [hother g hfg, Ne.symm hfg]
    cases hd : d f with
    | some v =>
      rw [complete, hd, ih]
      exact hstep (by rw [hd, Option.some_or]) (by rw [hd]; rfl) fun _ _ => rfl
    | none =>
      cases habsent : S.absent f with
      | some v =>
        rw [complete, hd, habsent, ih]
        exact hstep (by simp [hd, habsent, Draft.fill]) (by simp [Draft.fill])
          fun g hg => by simp [Draft.fill, hg]
      | none =>
        rw [complete, hd, habsent]
        refine ⟨fun h => absurd h (by simp), fun h => ?_⟩
        have hsome := (h f).1 (List.mem_cons_self ..)
        rw [hd, habsent] at hsome
        cases hsome

/-- **An object is read as the draft whose fields it holds.** -/
theorem read?_object_iff (hS : S.IsComplete) {ending : Ending} :
    S.read? (.object members ending) = .ok d ↔ ending = .closed ∧ S.Holds members d := by
  constructor
  · intro h
    rw [read?] at h
    cases hmembers : readMembers (S := S) empty members with
    | error e => simp [hmembers, bind, Except.bind] at h
    | ok e =>
      obtain ⟨hknown, hfields⟩ := (readMembers_iff hS).mp hmembers
      cases ending with
      | closed =>
        simp only [hmembers, bind, Except.bind, Ending.check, ofFault] at h
        refine ⟨rfl, hknown, fun f => filled_or_absent_iff.mp ⟨e f, hfields f, ?_⟩⟩
        obtain ⟨hsome, hd⟩ := complete_iff.mp h f
        rw [if_pos (hS.mem_fields f)] at hd
        exact ⟨hsome (hS.mem_fields f), hd⟩
      | broken fault => simp [hmembers, bind, Except.bind, Ending.check, ofFault] at h
      | dangling fault => simp [hmembers, bind, Except.bind, Ending.check, ofFault] at h
  · rintro ⟨rfl, hknown, hfields⟩
    choose e hfilled hcomplete using fun f => filled_or_absent_iff.mpr (hfields f)
    have hmembers : readMembers (S := S) empty members = .ok e :=
      (readMembers_iff hS).mpr ⟨hknown, hfilled⟩
    have hcompleted : complete e S.fields = .ok d := by
      refine complete_iff.mpr fun f => ⟨fun _ => (hcomplete f).1, ?_⟩
      rw [if_pos (hS.mem_fields f)]
      exact (hcomplete f).2
    simp only [read?, hmembers, bind, Except.bind, Ending.check, ofFault, hcompleted]

end Reading

/-! ### Objects that hold the same fields -/

namespace Holds

variable {members members' before after : List (Node × Node)} {d : S.Draft}

/-- An object holds the same fields when its members give the same values for each of them. -/
theorem of_valuesOf (h : S.Holds members d)
    (hknown : ∀ m ∈ members', (∃ f, m.1.name = .ok (S.name f)) ∨ S.IsUnknown m)
    (hvalues : ∀ f, S.valuesOf members' f = S.valuesOf members f) : S.Holds members' d :=
  ⟨hknown, fun f => by rw [hvalues]; exact h.fields f⟩

/-- The order of the members does not matter, since no field has more than one. -/
theorem perm (h : S.Holds members d) (hperm : members.Perm members') : S.Holds members' d := by
  refine h.of_valuesOf (fun m hm => h.known m (hperm.mem_iff.mpr hm)) fun f => ?_
  have hvalues := (valuesOf_perm (S := S) hperm f).symm
  obtain ⟨hnil, -⟩ | ⟨node, v, hone, -⟩ := h.fields f
  · rw [hnil] at hvalues ⊢
    exact List.perm_nil.mp hvalues
  · rw [hone] at hvalues ⊢
    exact List.perm_singleton.mp hvalues

/-- Members without a field do not matter. -/
theorem insert (h : S.Holds (before ++ after) d) {m : Node × Node} (hm : S.IsUnknown m) :
    S.Holds (before ++ m :: after) d := by
  refine h.of_valuesOf (fun m' hm' => ?_) (valuesOf_insert hm)
  rw [List.mem_append, List.mem_cons] at hm'
  rcases hm' with hm' | rfl | hm'
  · exact h.known m' (List.mem_append_left _ hm')
  · exact .inr hm
  · exact h.known m' (List.mem_append_right _ hm')

/-- The values of a field are read. -/
theorem read_of_mem (h : S.Holds members d) {f : F} {node : Node}
    (hnode : node ∈ S.valuesOf members f) :
    ∃ v, S.valuesOf members f = [node] ∧ S.read f node = .ok v ∧ d f = some v := by
  obtain ⟨hnil, -⟩ | ⟨node', v, hone, hread, hd⟩ := h.fields f
  · rw [hnil] at hnode
    cases hnode
  · rw [hone, List.mem_singleton] at hnode
    rw [hnode]
    exact ⟨v, hone, hread, hd⟩

/-- A value may be replaced by one that is read alike. -/
theorem replace {key value value' : Node} {f : F} (h : S.Holds (before ++ (key, value) :: after) d)
    (hS : S.IsComplete) (hkey : key.name = .ok (S.name f))
    (hvalue : ∀ v, S.read f value = .ok v → S.read f value' = .ok v) :
    S.Holds (before ++ (key, value') :: after) d := by
  refine ⟨fun m hm => ?_, fun g => ?_⟩
  · rw [List.mem_append, List.mem_cons] at hm
    rcases hm with hm | rfl | hm
    · exact h.known m (List.mem_append_left _ hm)
    · exact .inl ⟨f, hkey⟩
    · exact h.known m (List.mem_append_right _ (List.mem_cons_of_mem _ hm))
  · by_cases hfg : f = g
    · subst hfg
      have hold : S.valuesOf (before ++ (key, value) :: after) f
          = S.valuesOf before f ++ value :: S.valuesOf after f := by
        rw [valuesOf_append, valuesOf_cons_of_name hkey]
      have hmem : value ∈ S.valuesOf (before ++ (key, value) :: after) f := by simp [hold]
      obtain ⟨v, hone, hread, hd⟩ := h.read_of_mem hmem
      have hnone : S.valuesOf before f = [] ∧ S.valuesOf after f = [] := by
        simpa [hold, List.append_eq_singleton_iff] using hone
      refine .inr ⟨value', v, ?_, hvalue v hread, hd⟩
      rw [valuesOf_append, valuesOf_cons_of_name hkey, hnone.1, hnone.2, List.nil_append]
    · have hne : key.name ≠ .ok (S.name g) := by
        rw [hkey]
        exact fun heq => hfg (hS.name_inj f g (Except.ok.inj heq))
      have hfields := h.fields g
      rwa [valuesOf_append, valuesOf_cons_of_ne hne, ← valuesOf_append] at hfields ⊢

end Holds

/-! ### Arrays -/

section Items

variable [DecidableEq F] {d d' : S.Draft} {index : Nat} {fs : List F} {before after : List Node}
  {items : List Node} {ending : Ending} {f : F} {value value' : Node}

theorem readItems_cons :
    readItems d index (f :: fs) (value :: items) ending = .ok d' ↔
      ∃ v, S.read f value = .ok v ∧
        readItems (d.fill f v) (index + 1) fs items ending = .ok d' := by
  cases hread : S.read f value <;> simp [readItems, hread, bind, Except.bind]

/-- The items of all fields fill all of them in. -/
theorem readItems_fields {node : F → Node} {v : (f : F) → S.Value f}
    (hread : ∀ f, S.read f (node f) = .ok (v f)) :
    readItems d index fs (fs.map node) .closed = .ok (d.fillAll v fs) := by
  induction fs generalizing d index with
  | nil => rw [Draft.fillAll_nil]; rfl
  | cons f fs ih =>
    rw [List.map_cons, readItems_cons]
    exact ⟨v f, hread f, by rw [ih, Draft.fillAll_cons]⟩

/-- An item may be replaced by one that is read alike. -/
theorem readItems_replace (hf : fs[before.length]? = some f)
    (hvalue : ∀ v, S.read f value = .ok v → S.read f value' = .ok v)
    (h : readItems d index fs (before ++ value :: after) ending = .ok d') :
    readItems d index fs (before ++ value' :: after) ending = .ok d' := by
  induction before generalizing d index fs with
  | nil =>
    obtain ⟨fs, rfl⟩ : ∃ rest, fs = f :: rest := by
      cases fs with
      | nil => cases hf
      | cons g rest => exact ⟨rest, by simpa using hf⟩
    obtain ⟨v, hread, hrest⟩ := readItems_cons.mp h
    exact readItems_cons.mpr ⟨v, hvalue v hread, hrest⟩
  | cons n before ih =>
    cases fs with
    | nil => cases hf
    | cons g fs =>
      obtain ⟨v, hread, hrest⟩ := readItems_cons.mp h
      exact readItems_cons.mpr ⟨v, hread, ih (by simpa using hf) hrest⟩

/-- Every item of an array that is read is read as its field. -/
theorem read_of_readItems (h : readItems d index fs items ending = .ok d') {i : Nat}
    (hf : fs[i]? = some f) (hvalue : items[i]? = some value) : ∃ v, S.read f value = .ok v := by
  induction items generalizing d index fs i with
  | nil => cases hvalue
  | cons n items ih =>
    cases fs with
    | nil => cases hf
    | cons g fs =>
      obtain ⟨v, hread, hrest⟩ := readItems_cons.mp h
      cases i with
      | zero =>
        obtain rfl : g = f := by simpa using hf
        obtain rfl : n = value := by simpa using hvalue
        exact ⟨v, hread⟩
      | succ i => exact ih hrest (by simpa using hf) (by simpa using hvalue)

end Items

/-! ### Forms of a record -/

/-- One form of a record becomes another one. `child f` are the steps of the values of a field `f`,
and `missing f` is what stands in an array for a field that an object may leave out. -/
inductive Step (S : Schema F) (missing : F → Option Node) (child : F → Node → Node → Prop) :
    Node → Node → Prop
  | reorder {members members' : List (Node × Node)} (h : members.Perm members') :
      Step S missing child (.object members .closed) (.object members' .closed)
  | insert {before after : List (Node × Node)} {m : Node × Node} (h : S.IsUnknown m) :
      Step S missing child (.object (before ++ after) .closed)
        (.object (before ++ m :: after) .closed)
  | member (before : List (Node × Node)) {after : List (Node × Node)}
      {key value value' : Node} {f : F} (hkey : key.name = .ok (S.name f))
      (h : child f value value') :
      Step S missing child (.object (before ++ (key, value) :: after) .closed)
        (.object (before ++ (key, value') :: after) .closed)
  /-- The array of the values of all fields, in order of declaration. -/
  | array {members : List (Node × Node)} (node : F → Node)
      (h : ∀ f, S.valuesOf members f = [node f] ∨
        S.valuesOf members f = [] ∧ missing f = some (node f)) :
      Step S missing child (.object members .closed) (.array (S.fields.map node) .closed)
  | item {before after : List Node} {value value' : Node} {f : F}
      (hf : S.fields[before.length]? = some f) (h : child f value value') :
      Step S missing child (.array (before ++ value :: after) .closed)
        (.array (before ++ value' :: after) .closed)

/-- A value that a record in either form has for a field. -/
inductive Has (S : Schema F) : Node → F → Node → Prop
  | member {members : List (Node × Node)} {ending : Ending} {f : F} {value : Node}
      (h : value ∈ S.valuesOf members f) : Has S (.object members ending) f value
  | item {items : List Node} {ending : Ending} {i : Nat} {f : F} {value : Node}
      (hf : S.fields[i]? = some f) (h : items[i]? = some value) :
      Has S (.array items ending) f value

/-- An object in which the name of a field occurs twice. -/
inductive Repeats (S : Schema F) : Node → Prop
  | object {members : List (Node × Node)} {ending : Ending} {f : F}
      (h : 2 ≤ (S.valuesOf members f).length) : Repeats S (.object members ending)

section Forms

variable [DecidableEq F] {missing : F → Option Node} {child : F → Node → Node → Prop}
  {node node' : Node} {d : S.Draft}

/-- **A step keeps what is read**, if the steps of the fields do and what stands for a missing field
is read as what an absent one is. -/
theorem read?_step (hS : S.IsComplete)
    (hmissing : ∀ f value, missing f = some value →
      ∃ v, S.absent f = some v ∧ S.read f value = .ok v)
    (hchild : ∀ f value value', child f value value' →
      ∀ v, S.read f value = .ok v → S.read f value' = .ok v)
    (hstep : S.Step missing child node node') (h : S.read? node = .ok d) :
    S.read? node' = .ok d := by
  cases hstep with
  | reorder hperm =>
    obtain ⟨-, hholds⟩ := (read?_object_iff hS).mp h
    exact (read?_object_iff hS).mpr ⟨rfl, hholds.perm hperm⟩
  | insert hm =>
    obtain ⟨-, hholds⟩ := (read?_object_iff hS).mp h
    exact (read?_object_iff hS).mpr ⟨rfl, hholds.insert hm⟩
  | member _ hkey hvalue =>
    obtain ⟨-, hholds⟩ := (read?_object_iff hS).mp h
    exact (read?_object_iff hS).mpr ⟨rfl, hholds.replace hS hkey (hchild _ _ _ hvalue)⟩
  | @array members values hvalues =>
    obtain ⟨-, hholds⟩ := (read?_object_iff hS).mp h
    have hread : ∀ f, ∃ v, S.read f (values f) = .ok v ∧ d f = some v := by
      intro f
      obtain hone | ⟨hnil, hnode⟩ := hvalues f
      · have hmem : values f ∈ S.valuesOf members f := by simp [hone]
        obtain ⟨v, -, hv, hd⟩ := hholds.read_of_mem hmem
        exact ⟨v, hv, hd⟩
      · obtain ⟨v, habsent, hv⟩ := hmissing f _ hnode
        obtain ⟨-, hd, -⟩ | ⟨value, w, hone, -⟩ := hholds.fields f
        · exact ⟨v, hv, hd.trans habsent⟩
        · rw [hnil] at hone
          cases hone
    choose v hv hd using hread
    rw [read?, readItems_fields hv, hS.fillAll_fields, ← funext hd]
  | item hf hvalue => exact readItems_replace hf (hchild _ _ _ hvalue) h

theorem exists_read_of_has (hS : S.IsComplete) (h : S.read? node = .ok d) {f : F} {value : Node}
    (hvalue : S.Has node f value) : ∃ v, S.read f value = .ok v := by
  cases hvalue with
  | member hmem =>
    obtain ⟨-, hholds⟩ := (read?_object_iff hS).mp h
    obtain ⟨v, -, hread, -⟩ := hholds.read_of_mem hmem
    exact ⟨v, hread⟩
  | item hf hitem => exact read_of_readItems h hf hitem

/-- **No field of an object that is read occurs twice.** -/
theorem not_repeats_of_read? (hS : S.IsComplete) (h : S.read? node = .ok d) :
    ¬ S.Repeats node := by
  rintro ⟨htwice⟩
  rename_i f
  obtain ⟨-, hholds⟩ := (read?_object_iff hS).mp h
  obtain ⟨hnil, -⟩ | ⟨value, v, hone, -⟩ := hholds.fields f
  · simp [hnil] at htwice
  · simp [hone] at htwice

end Forms

end JobNotice.Json.Schema

namespace JobNotice.Json

/-! ### Values that are skipped -/

mutual

/-- Every value can be skipped. -/
theorem Value.skip_node : (v : Value) → v.node.skip = none
  | .null => rfl
  | .bool _ => rfl
  | .number _ => rfl
  | .string _ => rfl
  | .array items => by
    rw [Value.node, Node.skip, skipItems_itemNodes items]
    rfl
  | .object members => by
    rw [Value.node, Node.skip, skipMembers_memberNodes members]
    rfl

theorem skipItems_itemNodes : (items : List Value) → skipItems (itemNodes items) = none
  | [] => rfl
  | v :: rest => by
    rw [itemNodes, skipItems, v.skip_node, skipItems_itemNodes rest]
    rfl

theorem skipMembers_memberNodes : (members : List (String × Value)) →
    skipMembers (memberNodes members) = none
  | [] => rfl
  | (k, v) :: rest => by
    rw [memberNodes, skipMembers, v.skip_node, skipMembers_memberNodes rest]
    rfl

end

/-- A member with an unknown name may have any value. -/
theorem Schema.isUnknown_value {F : Type} {S : Schema F} {name : String}
    (hname : ∀ f, S.name f ≠ name) (v : Json.Value) :
    S.IsUnknown (.string (.ok name) none, v.node) :=
  ⟨⟨name, rfl, hname⟩, v.skip_node⟩

end JobNotice.Json
