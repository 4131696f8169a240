import JobNotice.Proofs.Toml.Distinct
import JobNotice.Settings.Reading
import Mathlib.Data.List.Nodup

/-!
# Sections are read key by key

A section is read entry by entry, and each entry of a known key changes what has been read so far.
The keys have places of their own, so entries do not get in each other's way and their order does
not matter: what comes out has the document's value in the place of every key that is given, and
keeps what was there in all other places. An array is read as the table that gives its items to the
keys in their order.

## Main definitions

* `Settings.Part` — a key together with the place of its value
* `Settings.Independent` — keys with places of their own that make up a section
* `Settings.entriesOf` — what a value gives to keys
* `Settings.IsSection` — a table, or an array that is long enough

## Main results

* `Settings.readEntries_eq_ok` — entries are read key by key
* `Settings.readSection_eq_ok` — sections are read key by key
-/

namespace JobNotice.Settings

open Toml (Value Entries)

variable {σ : Type}

/-! ### Keys and places -/

/-- A key of a section together with the place of its value. -/
structure Part (σ : Type) where
  key : String
  /-- Whether an array of the section's values must go as far as this one. -/
  needed : Bool
  Result : Type
  read : Value → Except Fault Result
  put : Result → σ → σ
  get : σ → Result
  get_put : ∀ x s, get (put x s) = x

def Part.field (p : Part σ) : Field σ := .of p.key p.needed p.read p.put

@[simp] theorem Part.key_field (p : Part σ) : p.field.key = p.key := rfl

/-- The keys have places of their own that make up a section. -/
structure Independent (parts : List (Part σ)) : Prop where
  keys : (parts.map Part.key).Nodup
  get_put_of_ne : ∀ p ∈ parts, ∀ q ∈ parts, p.key ≠ q.key → ∀ x s, q.get (p.put x s) = q.get s
  ext : ∀ s s', (∀ p ∈ parts, p.get s = p.get s') → s = s'

/-- What a key is given says what is in its place, and if it is given nothing then its place is as
it was. -/
def Part.Says (p : Part σ) (before : σ) (given : Option Value) (after : σ) : Prop :=
  match given with
  | none => p.get after = p.get before
  | some x => p.read x = .ok (p.get after)

theorem Part.Says.congr {p : Part σ} {s s' c : σ} {given : Option Value}
    (h : p.get s = p.get s') : p.Says s given c ↔ p.Says s' given c := by
  cases given with
  | none => rw [Says, Says, h]
  | some x => exact Iff.rfl

namespace Independent

variable {parts : List (Part σ)}

theorem eq_of_key (h : Independent parts) {p q : Part σ} (hp : p ∈ parts) (hq : q ∈ parts)
    (hkey : p.key = q.key) : p = q :=
  List.inj_on_of_nodup_map h.keys hp hq hkey

/-- The field of a key is found by the key. -/
theorem find?_field (h : Independent parts) {p : Part σ} (hp : p ∈ parts) :
    (parts.map Part.field).find? (fun f => f.key = p.key) = some p.field := by
  cases hfind : (parts.map Part.field).find? (fun f => f.key = p.key) with
  | none =>
    have hne := List.find?_eq_none.mp hfind p.field (List.mem_map_of_mem hp)
    simp [Part.field, Field.of] at hne
  | some f =>
    obtain ⟨q, hq, rfl⟩ := List.mem_map.mp (List.mem_of_find?_eq_some hfind)
    have hkey := List.find?_some hfind
    rw [h.eq_of_key hq hp (of_decide_eq_true hkey)]

theorem find?_eq_none {key : String} (hkey : key ∉ parts.map Part.key) :
    (parts.map Part.field).find? (fun f => f.key = key) = none := by
  refine List.find?_eq_none.mpr fun f hf heq => ?_
  obtain ⟨p, hp, rfl⟩ := List.mem_map.mp hf
  obtain rfl : p.key = key := of_decide_eq_true heq
  exact hkey (List.mem_map_of_mem hp)

end Independent

/-! ### Entries -/

theorem readEntries_cons_of_unknown {fields : List (Field σ)} {key : String} {v : Value}
    {rest : Entries} {s : σ} (h : fields.find? (fun f => f.key = key) = none) :
    readEntries fields ((key, v) :: rest) s = readEntries fields rest s := by
  rw [readEntries, h]

theorem readEntries_cons_of_known {fields : List (Field σ)} {p : Part σ} {v : Value}
    {rest : Entries} {s : σ} (h : fields.find? (fun f => f.key = p.key) = some p.field) :
    readEntries fields ((p.key, v) :: rest) s
      = (p.read v).bind fun x => readEntries fields rest (p.put x s) := by
  rw [readEntries, h]
  dsimp only [Part.field, Field.of]
  cases p.read v <;> rfl

/-- **Entries are read key by key.** -/
theorem readEntries_eq_ok {parts : List (Part σ)} (h : Independent parts) {entries : Entries}
    (hkeys : (entries.map Prod.fst).Nodup) (s c : σ) :
    readEntries (parts.map Part.field) entries s = .ok c ↔
      ∀ p ∈ parts, p.Says s (Entries.get? entries p.key) c := by
  induction entries generalizing s with
  | nil =>
    rw [readEntries, Except.ok.injEq]
    constructor
    · rintro rfl p -
      rfl
    · exact fun hall => (h.ext c s hall).symm
  | cons e rest ih =>
    obtain ⟨key, v⟩ := e
    rw [List.map_cons, List.nodup_cons] at hkeys
    by_cases hknown : key ∈ parts.map Part.key
    · obtain ⟨p, hp, rfl⟩ := List.mem_map.mp hknown
      rw [readEntries_cons_of_known (h.find?_field hp)]
      cases hread : p.read v with
      | error e =>
        refine iff_of_false (fun h => nomatch h) fun hall => ?_
        have hp' := hall p hp
        rw [Entries.get?, if_pos rfl, Part.Says, hread] at hp'
        cases hp'
      | ok x =>
        refine (ih hkeys.2 (p.put x s)).trans (forall₂_congr fun q hq => ?_)
        rw [Entries.get?]
        split
        · rename_i heq
          obtain rfl := h.eq_of_key hp hq heq
          rw [Entries.get?_eq_none.mpr hkeys.1, Part.Says, Part.Says, p.get_put, hread,
            Except.ok.injEq, eq_comm]
        · rename_i hne
          exact Part.Says.congr (h.get_put_of_ne p hp q hq hne x s)
    · rw [readEntries_cons_of_unknown (Independent.find?_eq_none hknown), ih hkeys.2]
      refine forall₂_congr fun p hp => ?_
      have hne : key ≠ p.key := fun heq => hknown (heq ▸ List.mem_map_of_mem hp)
      rw [Entries.get?, if_neg hne]

/-- Entries are read when each value that is given to a key is. -/
theorem exists_readEntries {parts : List (Part σ)} (h : Independent parts) {entries : Entries}
    (hkeys : (entries.map Prod.fst).Nodup)
    (hread : ∀ p ∈ parts, ∀ x, Entries.get? entries p.key = some x → ∃ r, p.read x = .ok r)
    (s : σ) : ∃ c, readEntries (parts.map Part.field) entries s = .ok c := by
  induction entries generalizing s with
  | nil => exact ⟨s, rfl⟩
  | cons e rest ih =>
    obtain ⟨key, v⟩ := e
    rw [List.map_cons, List.nodup_cons] at hkeys
    have hrest : ∀ p ∈ parts, ∀ x, Entries.get? rest p.key = some x → ∃ r, p.read x = .ok r := by
      intro p hp x hx
      have hne : key ≠ p.key := by
        rintro rfl
        rw [Entries.get?_eq_none.mpr hkeys.1] at hx
        cases hx
      exact hread p hp x (by rw [Entries.get?, if_neg hne, hx])
    by_cases hknown : key ∈ parts.map Part.key
    · obtain ⟨p, hp, rfl⟩ := List.mem_map.mp hknown
      obtain ⟨r, hr⟩ := hread p hp v (by rw [Entries.get?, if_pos rfl])
      obtain ⟨c, hc⟩ := ih hkeys.2 hrest (p.put r s)
      refine ⟨c, ?_⟩
      rw [readEntries_cons_of_known (h.find?_field hp), hr]
      exact hc
    · rw [readEntries_cons_of_unknown (Independent.find?_eq_none hknown)]
      exact ih hkeys.2 hrest s

/-! ### Sections -/

/-- What a value gives to keys: a table by their names, an array by their order. -/
def entriesOf (keys : List String) : Value → Entries
  | .table _ entries => entries
  | .array _ items => keys.zip items
  | _ => []

/-- A value that can be a section of keys of which some are needed: a table, or an array that goes
as far as the last key that is needed. A date is a table of nothing that is known. -/
def IsSection (needed : List Bool) : Value → Prop
  | .table .. => True
  | .moment => True
  | .array _ items => true ∉ needed.drop items.length
  | _ => False

theorem readItems_nil_eq_ok {fields : List (Field σ)} {s c : σ} :
    readItems fields [] s = .ok c ↔ true ∉ fields.map Field.needed ∧ s = c := by
  induction fields with
  | nil => simp [readItems]
  | cons f rest ih =>
    rw [readItems, List.map_cons, List.mem_cons, not_or]
    cases f.needed with
    | true => simp
    | false => simp [ih]

/-- An array is read as the table that gives its items to the keys in their order. -/
theorem readItems_eq_ok (all : List (Field σ)) {fields : List (Field σ)} {items : List Value}
    {s c : σ} (hall : ∀ f ∈ fields, all.find? (fun g => g.key = f.key) = some f) :
    readItems fields items s = .ok c ↔ true ∉ (fields.map Field.needed).drop items.length ∧
      readEntries all ((fields.map Field.key).zip items) s = .ok c := by
  induction fields generalizing items s with
  | nil => simp [readItems, readEntries]
  | cons f rest ih =>
    rw [List.forall_mem_cons] at hall
    cases items with
    | nil => simp [readItems_nil_eq_ok, readEntries]
    | cons v items =>
      rw [readItems, List.map_cons, List.map_cons, List.zip_cons_cons, readEntries, hall.1,
        List.length_cons, List.drop_succ_cons]
      dsimp only
      cases f.set v with
      | error e => simp [bind, Except.bind]
      | ok change => exact ih hall.2

theorem map_fst_zip_sublist (keys : List String) (items : List Value) :
    ((keys.zip items).map Prod.fst).Sublist keys := by
  induction keys generalizing items with
  | nil => exact .slnil
  | cons key keys ih =>
    cases items with
    | nil => exact List.nil_sublist _
    | cons v items => exact (ih items).cons_cons key

theorem nodup_entriesOf {keys : List String} (hkeys : keys.Nodup) {v : Value} (hv : v.Distinct) :
    ((entriesOf keys v).map Prod.fst).Nodup := by
  cases v with
  | table origin entries => exact hv.keys
  | array isOpen items =>
    exact hkeys.sublist (map_fst_zip_sublist keys items)
  | _ => exact List.nodup_nil

/-- A section is read as the entries that it gives to the keys. -/
theorem readSection_eq_ok_iff_readEntries {parts : List (Part σ)} (h : Independent parts)
    (name : String) (preset c : σ) (v : Value) :
    readSection name (parts.map Part.field) preset v = .ok c ↔
      IsSection (parts.map Part.needed) v ∧
      readEntries (parts.map Part.field) (entriesOf (parts.map Part.key) v) preset = .ok c := by
  cases v with
  | table origin entries => simp [readSection, IsSection, entriesOf]
  | moment => simp [readSection, IsSection, entriesOf, readEntries]
  | array isOpen items =>
    have hkeys : (parts.map Part.field).map Field.key = parts.map Part.key := List.map_map
    have hneeded : (parts.map Part.field).map Field.needed = parts.map Part.needed := List.map_map
    rw [readSection, readItems_eq_ok (parts.map Part.field), hkeys, hneeded, IsSection, entriesOf]
    intro f hf
    obtain ⟨p, hp, rfl⟩ := List.mem_map.mp hf
    exact h.find?_field hp
  | _ => simp [readSection, IsSection]

/-- **Sections are read key by key.** -/
theorem readSection_eq_ok {parts : List (Part σ)} (h : Independent parts) {v : Value}
    (hv : v.Distinct) (name : String) (preset c : σ) :
    readSection name (parts.map Part.field) preset v = .ok c ↔
      IsSection (parts.map Part.needed) v ∧
      ∀ p ∈ parts, p.Says preset (Entries.get? (entriesOf (parts.map Part.key) v) p.key) c := by
  rw [readSection_eq_ok_iff_readEntries h,
    readEntries_eq_ok h (nodup_entriesOf h.keys hv)]

/-- A section is read when each value that it gives is. -/
theorem exists_readSection {parts : List (Part σ)} (h : Independent parts) {v : Value}
    (hv : v.Distinct) (name : String) (preset : σ) (hsection : IsSection (parts.map Part.needed) v)
    (hread : ∀ p ∈ parts, ∀ x, Entries.get? (entriesOf (parts.map Part.key) v) p.key = some x →
      ∃ r, p.read x = .ok r) :
    ∃ c, readSection name (parts.map Part.field) preset v = .ok c := by
  obtain ⟨c, hc⟩ := exists_readEntries h (nodup_entriesOf h.keys hv) hread preset
  exact ⟨c, (readSection_eq_ok_iff_readEntries h name preset c v).mpr ⟨hsection, hc⟩⟩

end JobNotice.Settings
