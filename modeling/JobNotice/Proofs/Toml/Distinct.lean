import JobNotice.Toml.Document

/-!
# Keys are given once

Every way to add to a table looks first whether the key is there already. So no table of a document
gives a key twice, however deep it lies and whether headers, dotted keys or braces have made it. To
look a key up is then to know all that a table says about it.

## Main definitions

* `Toml.Value.Distinct` — no table in a value gives a key twice
* `Toml.Preserves` — a change of tables that leaves keys distinct
* `Toml.ReadsDistinct` — what is read with some fuel has distinct keys

## Main results

* `Toml.Value.isDistinctTable_of_ofText` — a document is a table with distinct keys
-/

namespace JobNotice.Toml

/-! ### Entries -/

namespace Entries

variable {entries : Entries} {key : String} {v : Value}

theorem mem_of_get? (h : get? entries key = some v) : (key, v) ∈ entries := by
  induction entries with
  | nil => cases h
  | cons p rest ih =>
    obtain ⟨k, w⟩ := p
    rw [get?] at h
    split at h
    · rename_i hk
      cases h
      exact hk ▸ List.mem_cons_self
    · exact List.mem_cons_of_mem _ (ih h)

theorem get?_eq_none : get? entries key = none ↔ key ∉ entries.map Prod.fst := by
  induction entries with
  | nil => simp [get?]
  | cons p rest ih =>
    obtain ⟨k, w⟩ := p
    rw [get?, List.map_cons, List.mem_cons, not_or]
    split
    · rename_i hk
      simp [hk]
    · rename_i hk
      simp [ih, Ne.symm hk]

theorem get?_append (first last : Entries) (key : String) :
    get? (first ++ last) key = (get? first key).or (get? last key) := by
  induction first with
  | nil => rfl
  | cons p rest ih =>
    obtain ⟨k, w⟩ := p
    rw [List.cons_append, get?, get?, ih]
    split <;> rfl

theorem map_fst_replace : (replace entries key v).map Prod.fst = entries.map Prod.fst := by
  induction entries with
  | nil => rfl
  | cons p rest ih =>
    obtain ⟨k, w⟩ := p
    rw [replace]
    split
    · rfl
    · rw [List.map_cons, List.map_cons, ih]

theorem mem_replace {p : String × Value} (h : p ∈ replace entries key v) :
    p ∈ entries ∨ p.2 = v := by
  induction entries with
  | nil => cases h
  | cons q rest ih =>
    obtain ⟨k, w⟩ := q
    rw [replace] at h
    split at h
    · obtain rfl | h := List.mem_cons.mp h
      · exact Or.inr rfl
      · exact Or.inl (List.mem_cons_of_mem _ h)
    · obtain rfl | h := List.mem_cons.mp h
      · exact Or.inl List.mem_cons_self
      · exact (ih h).imp_left (List.mem_cons_of_mem _)

end Entries

/-! ### Distinct keys -/

/-- No table in a value gives a key twice. -/
inductive Value.Distinct : Value → Prop
  | string (s : String) : Distinct (.string s)
  | integer (n : Int) : Distinct (.integer n)
  | real (x : Decimal.Binary64) : Distinct (.real x)
  | bool (b : Bool) : Distinct (.bool b)
  | moment : Distinct .moment
  | array {isOpen : Bool} {items : List Value} (h : ∀ v ∈ items, Distinct v) :
    Distinct (.array isOpen items)
  | table {origin : Origin} {entries : Entries} (hkeys : (entries.map Prod.fst).Nodup)
    (h : ∀ p ∈ entries, Distinct p.2) : Distinct (.table origin entries)

namespace Value.Distinct

variable {origin origin' : Origin} {entries : Entries} {key : String} {v : Value}

theorem items {isOpen : Bool} {vs : List Value} (h : Distinct (.array isOpen vs)) :
    ∀ v ∈ vs, Distinct v := by
  cases h with | array h => exact h

theorem keys (h : Distinct (.table origin entries)) : (entries.map Prod.fst).Nodup := by
  cases h with | table hkeys _ => exact hkeys

theorem values (h : Distinct (.table origin entries)) : ∀ p ∈ entries, Distinct p.2 := by
  cases h with | table _ h => exact h

theorem get? (h : Distinct (.table origin entries)) (hv : Entries.get? entries key = some v) :
    Distinct v :=
  h.values _ (Entries.mem_of_get? hv)

theorem empty (origin : Origin) : Distinct (.table origin []) := .table List.nodup_nil (by simp)

/-- A key that is not there yet can be given. -/
theorem append (h : Distinct (.table origin entries)) (hkey : Entries.get? entries key = none)
    (hv : Distinct v) : Distinct (.table origin' (entries ++ [(key, v)])) := by
  refine .table ?_ ?_
  · rw [List.map_append, List.map_singleton]
    refine List.nodup_append.mpr ⟨h.keys, by simp, fun k hk k' hk' heq => ?_⟩
    obtain rfl : k' = key := List.mem_singleton.mp hk'
    exact Entries.get?_eq_none.mp hkey (heq ▸ hk)
  · rw [List.forall_mem_append, List.forall_mem_singleton]
    exact ⟨h.values, hv⟩

theorem replace (h : Distinct (.table origin entries)) (key : String) (hv : Distinct v) :
    Distinct (.table origin' (Entries.replace entries key v)) := by
  refine .table (by rw [Entries.map_fst_replace]; exact h.keys) fun p hp => ?_
  obtain hp | rfl := Entries.mem_replace hp
  · exact h.values p hp
  · exact hv

/-- A table may move to the end. -/
theorem remove_append (h : Distinct (.table origin entries)) (key : String) (hv : Distinct v) :
    Distinct (.table origin' (Entries.remove entries key ++ [(key, v)])) := by
  have hkeys : ((Entries.remove entries key).map Prod.fst).Nodup :=
    h.keys.sublist (List.filter_sublist.map _)
  have hremoved : Distinct (.table origin (Entries.remove entries key)) :=
    .table hkeys fun p hp => h.values p (List.mem_filter.mp hp).1
  refine hremoved.append (Entries.get?_eq_none.mpr ?_) hv
  simp [Entries.remove]

end Value.Distinct

/-! ### Tables in the making -/

/-- A table whose keys, and those of the tables in it, are distinct. -/
def Value.IsDistinctTable (v : Value) : Prop :=
  v.Distinct ∧ ∃ origin entries, v = .table origin entries

theorem Value.Distinct.isDistinctTable {origin : Origin} {entries : Entries}
    (h : Distinct (.table origin entries)) : IsDistinctTable (.table origin entries) :=
  ⟨h, origin, entries, rfl⟩

theorem Value.isDistinctTable_empty (origin : Origin) : IsDistinctTable (.table origin []) :=
  (Distinct.empty origin).isDistinctTable

/-- A change that leaves distinct keys distinct, and comes to tables. -/
def Preserves (change : Value → Option Value) : Prop :=
  ∀ ⦃t t' : Value⦄, t.Distinct → change t = some t' → t'.IsDistinctTable

theorem preserves_descend {change : Value → Option Value} (hchange : Preserves change)
    (isDotted : Bool) (path : List String) : Preserves (descend isDotted change path) := by
  induction path with
  | nil => exact hchange
  | cons k path ih =>
    intro t t' ht h
    cases t with
    | table origin entries =>
      rw [descend] at h
      split at h
      · rename_i hnone
        obtain ⟨inner, hinner, h⟩ := Option.bind_eq_some_iff.mp h
        cases h
        exact (ht.append hnone (ih (.empty _) hinner).1).isDistinctTable
      · rename_i o es hsome
        split at h
        · cases h
        · obtain ⟨inner, hinner, h⟩ := Option.bind_eq_some_iff.mp h
          cases h
          exact (ht.replace k (ih (ht.get? hsome) hinner).1).isDistinctTable
      · rename_i items hsome
        obtain ⟨last, hlast, h⟩ := Option.bind_eq_some_iff.mp h
        obtain ⟨inner, hinner, h⟩ := Option.bind_eq_some_iff.mp h
        cases h
        have hitems := (ht.get? hsome).items
        have hinner' := (ih (hitems last (List.mem_of_getLast? hlast)) hinner).1
        refine (ht.replace k (.array fun v hv => ?_)).isDistinctTable
        rw [List.mem_append, List.mem_singleton] at hv
        obtain hv | rfl := hv
        · exact hitems v ((List.dropLast_sublist items).subset hv)
        · exact hinner'
      · cases h
    | _ => cases h

/-- Values that are given to keys have distinct keys themselves. -/
theorem preserves_assign (key : Key) {v : Value} (hv : v.Distinct) : Preserves (assign key v) := by
  refine preserves_descend ?_ true key.path
  intro t t' ht h
  dsimp only at h
  split at h
  · split at h
    · cases h
    · split at h
      · rename_i hnone
        cases h
        exact (ht.append hnone hv).isDistinctTable
      · cases h
  · cases h

theorem isDistinctTable_of_foldlM {α : Type} (step : α → Value → Option Value) {as : List α}
    (hstep : ∀ a ∈ as, Preserves (step a)) {t t' : Value} (ht : t.IsDistinctTable)
    (h : as.foldlM (fun t a => step a t) t = some t') : t'.IsDistinctTable := by
  induction as generalizing t with
  | nil =>
    cases h
    exact ht
  | cons a as ih =>
    rw [List.forall_mem_cons] at hstep
    obtain ⟨t₁, hfirst, hrest⟩ := Option.bind_eq_some_iff.mp h
    exact ih hstep.2 (hstep.1 ht.1 hfirst) hrest

theorem isDistinctTable_of_assignAll {pairs : List (Key × Value)} (h : ∀ p ∈ pairs, p.2.Distinct)
    {t t' : Value} (ht : t.IsDistinctTable) (hassign : assignAll t pairs = some t') :
    t'.IsDistinctTable :=
  isDistinctTable_of_foldlM (fun p : Key × Value => assign p.1 p.2)
    (fun p hp => preserves_assign p.1 (h p hp)) ht hassign

/-! ### Values -/

theorem distinct_of_readNumeral {s r : List Char} {v : Value}
    (h : readNumeral s = some (v, r)) : v.Distinct := by
  rw [readNumeral] at h
  split at h
  · cases h
    exact .moment
  · split at h
    · cases h
      exact .real _
    · split at h
      · cases h
        exact .integer _
      · cases h

/-- What is read in a value has distinct keys, as long as the fuel lasts. -/
structure ReadsDistinct (fuel : Nat) : Prop where
  value : ∀ depth s v r, readValue fuel depth s = some (v, r) → v.Distinct
  items : ∀ depth s items r, readItems fuel depth s = some (items, r) → ∀ v ∈ items, v.Distinct
  pairs : ∀ depth s pairs r, readPairs fuel depth s = some (pairs, r) → ∀ p ∈ pairs, p.2.Distinct

section

variable {fuel depth : Nat} {s r : List Char}

theorem ReadsDistinct.readValue_succ (ih : ReadsDistinct fuel) {v : Value}
    (h : readValue (fuel + 1) depth s = some (v, r)) : v.Distinct := by
  rw [readValue.eq_def] at h
  dsimp only at h
  split at h
  · split at h
    · cases h
    · obtain ⟨⟨items, r₁⟩, hitems, h⟩ := Option.bind_eq_some_iff.mp h
      cases h
      exact .array (ih.items _ _ _ _ hitems)
  -- Braces are the only values that are put together by keys.
  · split at h
    · cases h
    · split at h
      · cases h
        exact .empty .braces
      · obtain ⟨⟨pairs, r₁⟩, hpairs, h⟩ := Option.bind_eq_some_iff.mp h
        obtain ⟨t, hassign, h⟩ := Option.bind_eq_some_iff.mp h
        cases h
        exact (isDistinctTable_of_assignAll (ih.pairs _ _ _ _ hpairs)
          (Value.isDistinctTable_empty .braces) hassign).1
  · cases h
    exact .bool true
  · cases h
    exact .bool false
  · obtain ⟨p, -, h⟩ := Option.map_eq_some_iff.mp h
    cases h
    exact .string _
  · obtain ⟨p, -, h⟩ := Option.map_eq_some_iff.mp h
    cases h
    exact .string _
  · exact distinct_of_readNumeral h

theorem ReadsDistinct.readItems_succ (ih : ReadsDistinct fuel) {items : List Value}
    (h : readItems (fuel + 1) depth s = some (items, r)) : ∀ v ∈ items, v.Distinct := by
  rw [readItems.eq_def] at h
  dsimp only at h
  split at h
  · cases h
    simp
  · obtain ⟨⟨v, r₁⟩, hv, h⟩ := Option.bind_eq_some_iff.mp h
    dsimp only at h
    split at h
    · obtain ⟨⟨rest, r₂⟩, hrest, h⟩ := Option.bind_eq_some_iff.mp h
      cases h
      exact List.forall_mem_cons.mpr ⟨ih.value _ _ _ _ hv, ih.items _ _ _ _ hrest⟩
    · cases h
      exact List.forall_mem_singleton.mpr (ih.value _ _ _ _ hv)
    · cases h

theorem ReadsDistinct.readPairs_succ (ih : ReadsDistinct fuel) {pairs : List (Key × Value)}
    (h : readPairs (fuel + 1) depth s = some (pairs, r)) : ∀ p ∈ pairs, p.2.Distinct := by
  rw [readPairs.eq_def] at h
  dsimp only at h
  obtain ⟨⟨key, r₁⟩, -, h⟩ := Option.bind_eq_some_iff.mp h
  obtain ⟨r₂, -, h⟩ := Option.bind_eq_some_iff.mp h
  obtain ⟨⟨v, r₃⟩, hv, h⟩ := Option.bind_eq_some_iff.mp h
  dsimp only at h
  split at h
  · obtain ⟨⟨rest, r₄⟩, hrest, h⟩ := Option.bind_eq_some_iff.mp h
    cases h
    exact List.forall_mem_cons.mpr ⟨ih.value _ _ _ _ hv, ih.pairs _ _ _ _ hrest⟩
  · cases h
    exact List.forall_mem_singleton.mpr (ih.value _ _ _ _ hv)
  · cases h

end

theorem readsDistinct (fuel : Nat) : ReadsDistinct fuel := by
  induction fuel with
  | zero =>
    refine ⟨fun _ _ _ _ h => ?_, fun _ _ _ _ h => ?_, fun _ _ _ _ h => ?_⟩ <;> cases h
  | succ fuel ih =>
    exact ⟨fun _ _ _ _ => ih.readValue_succ, fun _ _ _ _ => ih.readItems_succ,
      fun _ _ _ _ => ih.readPairs_succ⟩

/-! ### Documents -/

/-- The values that a statement gives have distinct keys. -/
def Statement.Distinct (st : Statement) : Prop := ∀ key v, st = .entry key v → v.Distinct

theorem distinct_of_readStatement {s r : List Char} {st : Statement}
    (h : readStatement s = some (st, r)) : st.Distinct := by
  rintro key v rfl
  rw [readStatement.eq_def] at h
  split at h
  · simp [Option.bind_eq_some_iff] at h
  · simp [Option.bind_eq_some_iff] at h
  · obtain ⟨⟨key', r₁⟩, -, h⟩ := Option.bind_eq_some_iff.mp h
    obtain ⟨r₂, -, h⟩ := Option.bind_eq_some_iff.mp h
    obtain ⟨⟨v', r₃⟩, hv, h⟩ := Option.bind_eq_some_iff.mp h
    cases h
    exact (readsDistinct _).value _ _ _ _ hv

theorem distinct_of_readStatementsFrom (fuel : Nat) {s : List Char} {statements : List Statement}
    (h : readStatementsFrom fuel s = some statements) : ∀ st ∈ statements, st.Distinct := by
  induction fuel generalizing s statements with
  | zero => cases h
  | succ fuel ih =>
    rw [readStatementsFrom] at h
    split at h
    · cases h
      simp
    · split at h
      · obtain ⟨r₁, -, h⟩ := Option.bind_eq_some_iff.mp h
        exact ih h
      · obtain ⟨⟨st, r₁⟩, hst, h⟩ := Option.bind_eq_some_iff.mp h
        obtain ⟨r₂, -, h⟩ := Option.bind_eq_some_iff.mp h
        obtain ⟨rest, hrest, h⟩ := Option.bind_eq_some_iff.mp h
        cases h
        exact List.forall_mem_cons.mpr ⟨distinct_of_readStatement hst, ih hrest⟩

theorem distinct_of_sections {statements : List Statement} (h : ∀ st ∈ statements, st.Distinct) :
    (∀ p ∈ (sections statements).1, p.2.Distinct) ∧
      ∀ part ∈ (sections statements).2, ∀ p ∈ part.pairs, p.2.Distinct := by
  induction statements with
  | nil => simp [sections]
  | cons st rest ih =>
    rw [List.forall_mem_cons] at h
    obtain ⟨hpairs, hparts⟩ := ih h.2
    cases st with
    | entry key v => exact ⟨List.forall_mem_cons.mpr ⟨h.1 key v rfl, hpairs⟩, hparts⟩
    | table key => exact ⟨by simp [sections], List.forall_mem_cons.mpr ⟨hpairs, hparts⟩⟩
    | item key => exact ⟨by simp [sections], List.forall_mem_cons.mpr ⟨hpairs, hparts⟩⟩

theorem preserves_place {part : Section} (h : ∀ p ∈ part.pairs, p.2.Distinct) :
    Preserves part.place := by
  intro t t' ht hplace
  have hassign {es : Entries} {inner : Value} (hes : Value.Distinct (.table .header es))
      (hinner : assignAll (.table .header es) part.pairs = some inner) : inner.Distinct :=
    (isDistinctTable_of_assignAll h hes.isDistinctTable hinner).1
  cases t with
  | table origin entries =>
    rw [Section.place] at hplace
    split at hplace
    · rename_i hnone
      obtain ⟨inner, hinner, h⟩ := Option.bind_eq_some_iff.mp hplace
      cases h
      exact (ht.append hnone (hassign (.empty _) hinner)).isDistinctTable
    · rename_i es hsome
      obtain ⟨inner, hinner, h⟩ := Option.bind_eq_some_iff.mp hplace
      cases h
      have hes := ht.get? hsome
      have hinner' := hassign (.table hes.keys hes.values) hinner
      exact (ht.remove_append _ hinner').isDistinctTable
    · rename_i hnone
      obtain ⟨inner, hinner, h⟩ := Option.bind_eq_some_iff.mp hplace
      cases h
      have hitems := List.forall_mem_singleton.mpr (hassign (.empty _) hinner)
      exact (ht.append hnone (.array hitems)).isDistinctTable
    · rename_i items hsome
      obtain ⟨inner, hinner, h⟩ := Option.bind_eq_some_iff.mp hplace
      cases h
      have hitems := List.forall_mem_append.mpr
        ⟨(ht.get? hsome).items, List.forall_mem_singleton.mpr (hassign (.empty _) hinner)⟩
      exact (ht.replace _ (.array hitems)).isDistinctTable
    · cases hplace
  | _ => cases hplace

/-- **A document is a table, and no table in it gives a key twice.** -/
theorem Value.isDistinctTable_of_ofText {s : String} {v : Value} (h : Value.ofText s = some v) :
    v.IsDistinctTable := by
  obtain ⟨statements, hread, hdocument⟩ := Option.bind_eq_some_iff.mp h
  obtain ⟨hpairs, hparts⟩ := distinct_of_sections (distinct_of_readStatementsFrom _ hread)
  obtain ⟨t, hassign, hfold⟩ := Option.bind_eq_some_iff.mp hdocument
  have ht := isDistinctTable_of_assignAll hpairs (isDistinctTable_empty .header) hassign
  exact isDistinctTable_of_foldlM (fun part => descend false part.place part.key.path)
    (fun part hpart => preserves_descend (preserves_place (hparts part hpart)) false _) ht hfold

end JobNotice.Toml
