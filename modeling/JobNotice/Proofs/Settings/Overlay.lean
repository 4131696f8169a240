import JobNotice.Proofs.Settings.Groups
import Mathlib

/-!
# A document is laid over the preset values

Every setting has one place in documents: a section and a key in it. A setting that a document gives
there is as the document gives it, and every other setting has its preset value, whatever else the
document says. There are two ways to the preset values: a section that is left out has them as a
whole, and a section that is there has them where it gives nothing. Both come to the same, so an
empty section is as good as none, and so is a section that repeats preset values.

A section may also be an array of values. It gives them to the keys of the section in their order,
and has to go as far as the last key that has no preset value.

## Main definitions

* `Settings.Setting`, `Settings.settings` — where documents give settings, and with which values
* `Settings.Setting.given` — what a document gives a setting
* `Settings.HasSections` — what the sections of a document have to be
* `Settings.Idle` — an entry that says nothing is added
* `Settings.Combines` — a document that gives what two documents give

## Main results

* `Settings.ofText_eq_ok` — which settings a document has
* `Settings.ofText_is_overlay` — documents are laid over the preset values
-/

namespace JobNotice.Settings

open Toml (Value Entries)

/-! ### All settings -/

/-- A setting: where documents give it, with which values, and where it is kept. -/
structure Setting where
  /-- The name of the section. -/
  group : String
  /-- The key in the section. -/
  key : String
  Result : Type
  /-- The value that stands for a result, none where nothing stands for it. -/
  write : Result → Option Value
  get : Settings → Result

namespace Setting

def text (group key : String) (get : Settings → String) : Setting :=
  ⟨group, key, String, fun s => some (.string s), get⟩

/-- A text that may be lacking. -/
def optional (group key : String) (get : Settings → Option String) : Setting :=
  ⟨group, key, Option String, Option.map .string, get⟩

def flag (group key : String) (get : Settings → Bool) : Setting :=
  ⟨group, key, Bool, fun b => some (.bool b), get⟩

/-- A number of 32 bits. -/
def number (group key : String) (get : Settings → Int32) : Setting :=
  ⟨group, key, Int32, fun n => some (.integer n.toInt), get⟩

/-- A number of 16 bits without a sign. -/
def port (group key : String) (get : Settings → UInt16) : Setting :=
  ⟨group, key, UInt16, fun n => some (.integer n.toNat), get⟩

end Setting

/-- All settings, in the order in which arrays give them. -/
def settings : List Setting :=
  [.text "links" "submission_url" (·.links.submissionUrl),
    .text "links" "docs_url" (·.links.docsUrl),
    .text "links" "base_url" (·.links.baseUrl),
    .text "branding" "product_name" (·.branding.productName),
    .text "branding" "support_email" (·.branding.supportEmail),
    .optional "branding" "logo_url" (·.branding.logoUrl),
    .optional "templates" "dir" (·.templates.folder),
    .number "display" "timezone_offset_minutes" (·.display.offsetMinutes),
    .text "display" "timezone_label" (·.display.label),
    .optional "email" "smtp_host" (·.email.host),
    .port "email" "smtp_port" (·.email.port),
    .optional "email" "smtp_username" (·.email.username),
    .optional "email" "smtp_password" (·.email.password),
    .flag "email" "smtp_tls" (·.email.tls),
    .optional "email" "from_address" (·.email.fromAddress),
    .text "email" "from_name" (·.email.fromName),
    .text "logging" "level" (·.logging.level)]

/-- The names of the sections. -/
def sections : List String := ["links", "branding", "templates", "display", "email", "logging"]

/-- The settings of a section, in the order of its keys. -/
def settingsOf (group : String) : List Setting := settings.filter (·.group = group)

def keysOf (group : String) : List String := (settingsOf group).map Setting.key

/-- Whether there is no preset value. -/
def Setting.lacksPreset (t : Setting) : Bool := (t.write (t.get {})).isNone

/-! ### Documents -/

/-- A text is a document of entries. -/
def IsDocument (text : String) (document : Entries) : Prop :=
  ∃ origin, Value.ofText text = some (.table origin document)

/-- What is given to a key by its section, if there is the section. -/
def valueOf (group : String) (x : Option Value) (key : String) : Option Value :=
  x.bind fun x => Entries.get? (entriesOf (keysOf group) x) key

/-- What a document gives a setting. -/
def Setting.given (t : Setting) (document : Entries) : Option Value :=
  valueOf t.group (Entries.get? document t.group) t.key

/-- A setting is as a document gives it, and if it is not given it has its preset value. -/
def Setting.IsAsGiven (t : Setting) (document : Entries) (s : Settings) : Prop :=
  match t.given document with
  | some x => t.write (t.get s) = some x
  | none => t.get s = t.get {}

/-- The sections of a document are tables, or arrays that leave out only settings that have a
preset value. -/
def HasSections (document : Entries) : Prop :=
  ∀ group ∈ sections, ∀ x, Entries.get? document group = some x →
    IsSection ((settingsOf group).map Setting.lacksPreset) x

/-! ### Settings and their places -/

/-- The setting of a key in a section. -/
def Leaf.setting {σ : Type} (l : Leaf σ) (group : String) (get : Settings → σ) : Setting :=
  ⟨group, l.key, l.Result, l.write, fun s => l.get (get s)⟩

theorem settings_eq :
    settings = groups.flatMap fun g => g.leaves.map fun l => l.setting g.key g.get := rfl

theorem sections_eq : sections = groups.map Group.key := rfl

theorem settingsOf_eq : ∀ g ∈ groups,
    settingsOf g.key = g.leaves.map fun l => l.setting g.key g.get := by
  simp only [groups, List.forall_mem_cons]
  exact ⟨rfl, rfl, rfl, rfl, rfl, rfl, by simp⟩

theorem lacksPreset_eq : ∀ g ∈ groups,
    (settingsOf g.key).map Setting.lacksPreset = (g.leaves.map Leaf.toPart).map Part.needed := by
  simp only [groups, List.forall_mem_cons]
  exact ⟨rfl, rfl, rfl, rfl, rfl, rfl, by simp⟩

theorem keysOf_eq {g : Group} (hg : g ∈ groups) :
    keysOf g.key = (g.leaves.map Leaf.toPart).map Part.key := by
  rw [keysOf, settingsOf_eq g hg, List.map_map, List.map_map]
  rfl

theorem group_mem_sections : ∀ t ∈ settings, t.group ∈ sections := by
  simp [settings, sections, Setting.text, Setting.optional, Setting.flag, Setting.number,
    Setting.port]

theorem key_mem_keysOf {t : Setting} {group : String} (ht : t ∈ settings)
    (hgroup : t.group = group) : t.key ∈ keysOf group :=
  List.mem_map_of_mem (List.mem_filter.mpr ⟨ht, decide_eq_true hgroup⟩)

/-- A setting is found by its section and key. -/
theorem eq_of_key {t t' : Setting} (ht : t ∈ settings) (ht' : t' ∈ settings)
    (hgroup : t.group = t'.group) (hkey : t.key = t'.key) : t = t' := by
  have hnodup : (settings.map fun t => (t.group, t.key)).Nodup := by decide
  exact List.inj_on_of_nodup_map hnodup ht ht' (by rw [hgroup, hkey])

theorem exists_leaf {t : Setting} (ht : t ∈ settings) :
    ∃ g ∈ groups, ∃ l ∈ g.leaves, t = l.setting g.key g.get := by
  rw [settings_eq, List.mem_flatMap] at ht
  obtain ⟨g, hg, ht⟩ := ht
  obtain ⟨l, hl, rfl⟩ := List.mem_map.mp ht
  exact ⟨g, hg, l, hl, rfl⟩

/-- Different results stand for different values. -/
theorem write_inj {t : Setting} (ht : t ∈ settings) {r r' : t.Result} {x : Value}
    (h : t.write r = some x) (h' : t.write r' = some x) : r = r' := by
  obtain ⟨g, -, l, -, rfl⟩ := exists_leaf ht
  have hread := (l.read_eq_ok x r).mpr h
  rw [(l.read_eq_ok x r').mpr h'] at hread
  exact (Except.ok.inj hread).symm

/-! ### Reading documents -/

variable {document : Entries} {s : Settings}

theorem given_setting {g : Group} (hg : g ∈ groups) (l : Leaf g.Content) :
    (l.setting g.key g.get).given document = (Entries.get? document g.key).bind fun x =>
      Entries.get? (entriesOf ((g.leaves.map Leaf.toPart).map Part.key) x) l.key := by
  rw [← keysOf_eq hg]
  rfl

/-- A key says what is in its place when its setting is as given. -/
theorem says_iff_isAsGiven {g : Group} (hg : g ∈ groups) (l : Leaf g.Content) {x : Value}
    (hx : Entries.get? document g.key = some x) :
    l.toPart.Says (g.get {})
        (Entries.get? (entriesOf ((g.leaves.map Leaf.toPart).map Part.key) x) l.key) (g.get s) ↔
      (l.setting g.key g.get).IsAsGiven document s := by
  rw [Setting.IsAsGiven, given_setting hg, hx, Option.bind_some]
  cases Entries.get? (entriesOf ((g.leaves.map Leaf.toPart).map Part.key) x) l.key with
  | none => exact Iff.rfl
  | some y => exact l.read_eq_ok y _

/-- A section says what is in its place when it is one and its settings are as given. -/
theorem says_part_iff {g : Group} (hg : g ∈ groups) (hd : ∀ p ∈ document, p.2.Distinct) :
    g.part.Says {} (Entries.get? document g.key) s ↔
      (∀ x, Entries.get? document g.key = some x →
        IsSection ((settingsOf g.key).map Setting.lacksPreset) x) ∧
      ∀ t ∈ settingsOf g.key, t.IsAsGiven document s := by
  rw [lacksPreset_eq g hg, settingsOf_eq g hg, List.forall_mem_map]
  cases hx : Entries.get? document g.key with
  | none =>
    have hgiven (l : Leaf g.Content) : (l.setting g.key g.get).IsAsGiven document s ↔
        l.get (g.get s) = l.get (g.get {}) := by
      rw [Setting.IsAsGiven, given_setting hg, hx]
      rfl
    simp only [hgiven, reduceCtorEq, false_implies, implies_true, true_and]
    constructor
    · intro h l _
      exact congrArg l.get h
    · intro h
      refine g.independent.ext _ _ (List.forall_mem_map.mpr ?_)
      exact h
  | some x =>
    have hread := readSection_eq_ok g.independent (hd _ (Entries.mem_of_get? hx)) g.name
      (g.get {}) (g.get s)
    rw [List.forall_mem_map] at hread
    simp only [Option.some.injEq, forall_eq']
    refine hread.trans (and_congr_right fun _ => forall₂_congr fun l _ => ?_)
    exact says_iff_isAsGiven hg l hx

theorem forall_settings {p : Setting → Prop} :
    (∀ t ∈ settings, p t) ↔ ∀ g ∈ groups, ∀ t ∈ settingsOf g.key, p t := by
  rw [settings_eq, List.forall_mem_flatMap]
  exact forall₂_congr fun g hg => by rw [settingsOf_eq g hg]

theorem IsDocument.ofText_eq {text : String} (h : IsDocument text document) :
    ofText text = readEntries ((groups.map Group.part).map Part.field) document {} := by
  obtain ⟨origin, htext⟩ := h
  rw [ofText, htext, ← fields_eq]
  rfl

theorem IsDocument.distinct {text : String} (h : IsDocument text document) :
    (document.map Prod.fst).Nodup ∧ ∀ p ∈ document, p.2.Distinct := by
  obtain ⟨origin, htext⟩ := h
  have hdistinct := (Value.isDistinctTable_of_ofText htext).1
  exact ⟨hdistinct.keys, hdistinct.values⟩

theorem IsDocument.ofText_eq_ok {text : String} (h : IsDocument text document) :
    ofText text = .ok s ↔ HasSections document ∧ ∀ t ∈ settings, t.IsAsGiven document s := by
  obtain ⟨hkeys, hvalues⟩ := h.distinct
  rw [h.ofText_eq, readEntries_eq_ok independent_groups hkeys, List.forall_mem_map, forall_settings,
    HasSections, sections_eq, List.forall_mem_map]
  have hgroups (g : Group) (hg : g ∈ groups) := says_part_iff (s := s) hg hvalues
  exact (forall₂_congr hgroups).trans forall₂_and

/-- **Which settings a document has**: those it gives as it gives them, and else the preset
ones. -/
theorem ofText_eq_ok {text : String} : ofText text = .ok s ↔
    ∃ document, IsDocument text document ∧ HasSections document ∧
      ∀ t ∈ settings, t.IsAsGiven document s := by
  constructor
  · intro h
    cases htext : Value.ofText text with
    | none =>
      rw [ofText, htext] at h
      cases h
    | some v =>
      obtain ⟨-, origin, document, rfl⟩ := Value.isDistinctTable_of_ofText htext
      have hdocument : IsDocument text document := ⟨origin, htext⟩
      exact ⟨document, hdocument, hdocument.ofText_eq_ok.mp h⟩
  · rintro ⟨document, hdocument, h⟩
    exact hdocument.ofText_eq_ok.mpr h

/-- A document has settings when its sections can be sections and each value that it gives stands
for something. -/
theorem IsDocument.exists_ofText_eq_ok {text : String} (h : IsDocument text document)
    (hsections : HasSections document)
    (hvalues : ∀ t ∈ settings, ∀ x, t.given document = some x → ∃ r, t.write r = some x) :
    ∃ s, ofText text = .ok s := by
  obtain ⟨hkeys, hdistinct⟩ := h.distinct
  rw [h.ofText_eq]
  refine exists_readEntries independent_groups hkeys (List.forall_mem_map.mpr ?_) {}
  intro g hg x (hx : Entries.get? document g.key = some x)
  have hsection := hsections g.key (sections_eq ▸ List.mem_map_of_mem hg) x hx
  rw [lacksPreset_eq g hg] at hsection
  refine exists_readSection g.independent (hdistinct _ (Entries.mem_of_get? hx)) g.name (g.get {})
    hsection (List.forall_mem_map.mpr ?_)
  intro l hl y hy
  have ht : l.setting g.key g.get ∈ settings := by
    rw [settings_eq]
    exact List.mem_flatMap.mpr ⟨g, hg, List.mem_map_of_mem hl⟩
  have hgiven : (l.setting g.key g.get).given document = some y := by
    rw [given_setting hg, hx]
    exact hy
  obtain ⟨r, hr⟩ := hvalues _ ht y hgiven
  exact ⟨r, (l.read_eq_ok y r).mpr hr⟩

/-! ### Entries that say nothing -/

/-- An entry that says nothing is added to a document: a section that means nothing, an empty
section where there was none, a key that means nothing, or the preset value of a setting that was
not given. -/
inductive Idle : Entries → Entries → Prop
  | unknownSection {name : String} (hname : name ∉ sections) (before after : Entries) (x : Value) :
    Idle (before ++ after) (before ++ (name, x) :: after)
  | emptySection {group : String} (before after : Entries)
    (hnew : group ∉ (before ++ after).map Prod.fst) (origin : Toml.Origin) :
    Idle (before ++ after) (before ++ (group, .table origin []) :: after)
  | unknownKey {group key : String} (hkey : key ∉ keysOf group) (before after : Entries)
    (origin origin' : Toml.Origin) (first last : Entries) (x : Value) :
    Idle (before ++ (group, .table origin (first ++ last)) :: after)
      (before ++ (group, .table origin' (first ++ (key, x) :: last)) :: after)
  | presetValue {t : Setting} {x : Value} (ht : t ∈ settings)
    (hpreset : t.write (t.get {}) = some x) (before after : Entries)
    (origin origin' : Toml.Origin) (first last : Entries)
    (hnew : t.key ∉ (first ++ last).map Prod.fst) :
    Idle (before ++ (t.group, .table origin (first ++ last)) :: after)
      (before ++ (t.group, .table origin' (first ++ (t.key, x) :: last)) :: after)

/-- Documents with the same settings. -/
structure SaysSame (d d' : Entries) : Prop where
  hasSections : HasSections d ↔ HasSections d'
  isAsGiven : ∀ t ∈ settings, ∀ s, t.IsAsGiven d s ↔ t.IsAsGiven d' s

variable {d d' : Entries}

/-- A section is a table if it is there. -/
def IsTableIfGiven (d : Entries) (group : String) : Prop :=
  ∀ x, Entries.get? d group = some x → ∃ origin entries, x = .table origin entries

theorem isSection_of_isTableIfGiven {group : String} (h : IsTableIfGiven d group)
    (needed : List Bool) : ∀ x, Entries.get? d group = some x → IsSection needed x := by
  intro x hx
  obtain ⟨origin, entries, rfl⟩ := h x hx
  trivial

theorem hasSections_iff_of_tables (h : ∀ group ∈ sections, Entries.get? d group =
    Entries.get? d' group ∨ (IsTableIfGiven d group ∧ IsTableIfGiven d' group)) :
    HasSections d ↔ HasSections d' := by
  refine forall₂_congr fun group hgroup => ?_
  obtain heq | ⟨htable, htable'⟩ := h group hgroup
  · rw [heq]
  · exact iff_of_true (isSection_of_isTableIfGiven htable _) (isSection_of_isTableIfGiven htable' _)

/-- A setting is as given by its preset value when it has that value. -/
theorem isAsGiven_iff_of_preset {t : Setting} (ht : t ∈ settings) {x : Value}
    (hpreset : t.write (t.get {}) = some x) (hnone : t.given d = none) (hsome : t.given d' = some x)
    (s : Settings) : t.IsAsGiven d s ↔ t.IsAsGiven d' s := by
  rw [Setting.IsAsGiven, Setting.IsAsGiven, hnone, hsome]
  constructor
  · intro h
    change t.write (t.get s) = some x
    rw [show t.get s = t.get {} from h, hpreset]
  · exact fun h => write_inj ht h hpreset

theorem isAsGiven_congr {t : Setting} (h : t.given d = t.given d') (s : Settings) :
    t.IsAsGiven d s ↔ t.IsAsGiven d' s := by
  rw [Setting.IsAsGiven, Setting.IsAsGiven, h]

/-- What is given under other keys does not change when an entry is added. -/
theorem get?_append_cons_of_ne {k key : String} (hne : k ≠ key) (before after : Entries)
    (x : Value) :
    Entries.get? (before ++ (k, x) :: after) key = Entries.get? (before ++ after) key := by
  rw [Entries.get?_append, Entries.get?_append, Entries.get?, if_neg hne]

/-- A new entry is what is given under its key, where nothing was given. -/
theorem get?_append_cons_of_new {k : String} {before after : Entries}
    (hnew : k ∉ (before ++ after).map Prod.fst) (x : Value) (key : String) :
    Entries.get? (before ++ after) key = Entries.get? (before ++ (k, x) :: after) key ∨
      (k = key ∧ Entries.get? (before ++ after) key = none ∧
        Entries.get? (before ++ (k, x) :: after) key = some x) := by
  by_cases hkey : k = key
  · subst hkey
    have hnone := Entries.get?_eq_none.mpr hnew
    refine Or.inr ⟨rfl, hnone, ?_⟩
    rw [Entries.get?_append, Option.or_eq_none_iff] at hnone
    rw [Entries.get?_append, hnone.1, Entries.get?, if_pos rfl, Option.none_or]
  · exact Or.inl (get?_append_cons_of_ne hkey before after x).symm

/-- Two tables in one place are both what is given there, or neither is. -/
theorem get?_tables (before after : Entries) (group : String) (origin origin' : Toml.Origin)
    (entries entries' : Entries) (key : String) :
    Entries.get? (before ++ (group, .table origin entries) :: after) key
        = Entries.get? (before ++ (group, .table origin' entries') :: after) key ∨
      (key = group ∧
        Entries.get? (before ++ (group, .table origin entries) :: after) key
          = some (.table origin entries) ∧
        Entries.get? (before ++ (group, .table origin' entries') :: after) key
          = some (.table origin' entries')) := by
  simp only [Entries.get?_append, Entries.get?]
  by_cases hkey : group = key
  · cases hbefore : Entries.get? before key with
    | none => exact Or.inr ⟨hkey.symm, by simp [hkey], by simp [hkey]⟩
    | some x => exact Or.inl rfl
  · exact Or.inl (by simp [hkey])

theorem IsTableIfGiven.of_table {group : String} {origin : Toml.Origin} {entries : Entries}
    (h : Entries.get? d group = some (.table origin entries)) : IsTableIfGiven d group := by
  intro x hx
  rw [h] at hx
  exact ⟨origin, entries, (Option.some.inj hx).symm⟩

theorem IsTableIfGiven.of_none {group : String} (h : Entries.get? d group = none) :
    IsTableIfGiven d group := by
  intro x hx
  rw [h] at hx
  cases hx

theorem given_of_table {t : Setting} {origin : Toml.Origin} {entries : Entries}
    (h : Entries.get? d t.group = some (.table origin entries)) :
    t.given d = Entries.get? entries t.key := by
  rw [Setting.given, h]
  rfl

theorem given_congr {t : Setting} (h : Entries.get? d t.group = Entries.get? d' t.group) :
    t.given d = t.given d' := by
  rw [Setting.given, Setting.given, h]

/-- Documents that differ in one table have the same settings when its entries do. -/
theorem SaysSame.of_tables (before after : Entries) (group : String) (origin origin' : Toml.Origin)
    {entries entries' : Entries}
    (h : ∀ t ∈ settings, t.group = group →
      Entries.get? entries t.key = Entries.get? entries' t.key ∨
      (Entries.get? entries t.key = none ∧ ∃ x, t.write (t.get {}) = some x ∧
        Entries.get? entries' t.key = some x)) :
    SaysSame (before ++ (group, .table origin entries) :: after)
      (before ++ (group, .table origin' entries') :: after) := by
  have htables := get?_tables before after group origin origin' entries entries'
  refine ⟨hasSections_iff_of_tables fun name _ => (htables name).imp_right ?_, fun t ht s => ?_⟩
  · rintro ⟨-, h, h'⟩
    exact ⟨.of_table h, .of_table h'⟩
  · obtain heq | ⟨hgroup, htable, htable'⟩ := htables t.group
    · exact isAsGiven_congr (given_congr heq) s
    · obtain heq | ⟨hnone, x, hpreset, hsome⟩ := h t ht hgroup
      · refine isAsGiven_congr ?_ s
        rw [given_of_table htable, given_of_table htable', heq]
      · exact isAsGiven_iff_of_preset ht hpreset ((given_of_table htable).trans hnone)
          ((given_of_table htable').trans hsome) s

theorem Idle.saysSame (h : Idle d d') : SaysSame d d' := by
  cases h with
  | @unknownSection name hname before after x =>
    have hget {group : String} (hgroup : group ∈ sections) :=
      get?_append_cons_of_ne (fun heq => hname (heq ▸ hgroup) : name ≠ group) before after x
    refine ⟨hasSections_iff_of_tables fun group hgroup => Or.inl (hget hgroup).symm,
      fun t ht => isAsGiven_congr ?_⟩
    exact given_congr (hget (group_mem_sections t ht)).symm
  | @emptySection group before after hnew origin =>
    have hget (name : String) := get?_append_cons_of_new hnew (.table origin []) name
    refine ⟨hasSections_iff_of_tables fun name _ => (hget name).imp_right ?_, fun t _ => ?_⟩
    · rintro ⟨-, h, h'⟩
      exact ⟨.of_none h, .of_table h'⟩
    · refine isAsGiven_congr ?_
      obtain heq | ⟨-, hnone, htable⟩ := hget t.group
      · exact given_congr heq
      · rw [given_of_table htable, Setting.given, hnone]
        rfl
  | @unknownKey group key hkey before after origin origin' first last x =>
    refine .of_tables before after group origin origin' fun t ht hgroup => Or.inl ?_
    have hne : key ≠ t.key := by
      rintro rfl
      exact hkey (key_mem_keysOf ht hgroup)
    exact (get?_append_cons_of_ne hne first last x).symm
  -- Only here does a setting get a value that it was not given before.
  | @presetValue t x ht hpreset before after origin origin' first last hnew =>
    refine .of_tables before after t.group origin origin' fun t' ht' hgroup =>
      (get?_append_cons_of_new hnew x t'.key).imp_right ?_
    rintro ⟨hkey, hnone, hsome⟩
    obtain rfl := eq_of_key ht ht' hgroup.symm hkey
    exact ⟨hnone, x, hpreset, hsome⟩

theorem saysSame_of_eqvGen (h : Relation.EqvGen Idle d d') : SaysSame d d' := by
  induction h with
  | rel d d' h => exact h.saysSame
  | refl d => exact ⟨Iff.rfl, fun _ _ _ => Iff.rfl⟩
  | symm d d' _ ih => exact ⟨ih.hasSections.symm, fun t ht s => (ih.isAsGiven t ht s).symm⟩
  | trans d d₁ d' _ _ ih ih' =>
    exact ⟨ih.hasSections.trans ih'.hasSections,
      fun t ht s => (ih.isAsGiven t ht s).trans (ih'.isAsGiven t ht s)⟩

/-! ### Documents that are put together -/

/-- What two documents give for a section, put together: what one of them gives if the other gives
nothing, or a table that gives each key what one of them gives. -/
inductive Joins (group : String) : Option Value → Option Value → Option Value → Prop
  | left (x : Option Value) : Joins group x none x
  | right (x : Option Value) : Joins group none x x
  | table {x₁ x₂ : Option Value} {entries : Entries} (origin : Toml.Origin)
    (h : ∀ key ∈ keysOf group,
      (valueOf group x₁ key = none ∧ Entries.get? entries key = valueOf group x₂ key) ∨
      (valueOf group x₂ key = none ∧ Entries.get? entries key = valueOf group x₁ key)) :
    Joins group x₁ x₂ (some (.table origin entries))

/-- A document gives what two documents give, in whatever order, and they do not give the same
settings. -/
def Combines (d₁ d₂ d : Entries) : Prop :=
  ∀ group ∈ sections,
    Joins group (Entries.get? d₁ group) (Entries.get? d₂ group) (Entries.get? d group)

variable {d₁ d₂ : Entries}

theorem Combines.hasSections (h : Combines d₁ d₂ d) (h₁ : HasSections d₁) (h₂ : HasSections d₂) :
    HasSections d := by
  intro group hgroup x hx
  have hjoins := h group hgroup
  have h₁ := h₁ group hgroup
  have h₂ := h₂ group hgroup
  generalize Entries.get? d₁ group = x₁, Entries.get? d₂ group = x₂ at hjoins h₁ h₂
  rw [hx] at hjoins
  cases hjoins with
  | left => exact h₁ x rfl
  | right => exact h₂ x rfl
  | table => trivial

/-- A setting is given by one document at most, and as that document gives it. -/
theorem Combines.given (h : Combines d₁ d₂ d) {t : Setting} (ht : t ∈ settings) :
    (t.given d₁ = none ∧ t.given d = t.given d₂) ∨
      (t.given d₂ = none ∧ t.given d = t.given d₁) := by
  have hjoins := h t.group (group_mem_sections t ht)
  have hkey := key_mem_keysOf ht rfl
  simp only [Setting.given]
  generalize Entries.get? d₁ t.group = x₁, Entries.get? d₂ t.group = x₂,
    Entries.get? d t.group = x at hjoins
  cases hjoins with
  | left => exact Or.inr ⟨rfl, rfl⟩
  | right => exact Or.inl ⟨rfl, rfl⟩
  | table _ h => exact h t.key hkey

theorem eq_of_isAsGiven {t : Setting} (ht : t ∈ settings) {s s' : Settings}
    (h : t.IsAsGiven d s) (h' : t.IsAsGiven d' s') (hgiven : t.given d = t.given d') :
    t.get s = t.get s' := by
  rw [Setting.IsAsGiven, hgiven] at h
  rw [Setting.IsAsGiven] at h'
  cases hx : t.given d' with
  | none =>
    rw [hx] at h h'
    exact Eq.trans h (Eq.symm h')
  | some x =>
    rw [hx] at h h'
    exact write_inj ht h h'

/-- Documents that give different settings can be put together. -/
theorem Combines.exists_ofText_eq_ok (h : Combines d₁ d₂ d) {text : String}
    (hdocument : IsDocument text d) {s₁ s₂ : Settings} (hsections₁ : HasSections d₁)
    (hsections₂ : HasSections d₂) (h₁ : ∀ t ∈ settings, t.IsAsGiven d₁ s₁)
    (h₂ : ∀ t ∈ settings, t.IsAsGiven d₂ s₂) :
    ∃ s, ofText text = .ok s ∧
      ∀ t ∈ settings, t.get s = if (t.given d₂).isSome then t.get s₂ else t.get s₁ := by
  have hvalues : ∀ t ∈ settings, ∀ x, t.given d = some x → ∃ r, t.write r = some x := by
    intro t ht x hx
    obtain ⟨-, hgiven⟩ | ⟨-, hgiven⟩ := h.given ht
    · have hwrite := h₂ t ht
      rw [Setting.IsAsGiven, ← hgiven, hx] at hwrite
      exact ⟨_, hwrite⟩
    · have hwrite := h₁ t ht
      rw [Setting.IsAsGiven, ← hgiven, hx] at hwrite
      exact ⟨_, hwrite⟩
  obtain ⟨s, hs⟩ := hdocument.exists_ofText_eq_ok (h.hasSections hsections₁ hsections₂) hvalues
  obtain ⟨-, hasGiven⟩ := hdocument.ofText_eq_ok.mp hs
  refine ⟨s, hs, fun t ht => ?_⟩
  obtain ⟨hnone, hgiven⟩ | ⟨hnone, hgiven⟩ := h.given ht
  · split
    · exact eq_of_isAsGiven ht (hasGiven t ht) (h₂ t ht) hgiven
    · rename_i hsome
      have hnone₂ : t.given d₂ = none := Option.not_isSome_iff_eq_none.mp hsome
      exact eq_of_isAsGiven ht (hasGiven t ht) (h₁ t ht) (hgiven.trans (hnone₂.trans hnone.symm))
  · rw [hnone, Option.isSome_none, if_neg Bool.false_ne_true]
    exact eq_of_isAsGiven ht (hasGiven t ht) (h₁ t ht) hgiven

/-- **A document is laid over the preset values.** Its settings are those that it gives, as it gives
them, and else the preset ones. Entries that say nothing change nothing, and documents that give
different settings can be put together. -/
theorem ofText_is_overlay :
    (∀ text s, ofText text = .ok s ↔ ∃ d, IsDocument text d ∧ HasSections d ∧
      ∀ t ∈ settings, t.IsAsGiven d s) ∧
    (∀ text text' d d', IsDocument text d → IsDocument text' d' → Relation.EqvGen Idle d d' →
      ∀ s, ofText text = .ok s ↔ ofText text' = .ok s) ∧
    (∀ text₁ text₂ text d₁ d₂ d s₁ s₂, IsDocument text₁ d₁ → IsDocument text₂ d₂ →
      IsDocument text d → Combines d₁ d₂ d → ofText text₁ = .ok s₁ → ofText text₂ = .ok s₂ →
      ∃ s, ofText text = .ok s ∧
        ∀ t ∈ settings, t.get s = if (t.given d₂).isSome then t.get s₂ else t.get s₁) := by
  refine ⟨fun text s => ofText_eq_ok, fun text text' d d' h h' hidle s => ?_, ?_⟩
  · obtain ⟨hsections, hasGiven⟩ := saysSame_of_eqvGen hidle
    rw [h.ofText_eq_ok, h'.ofText_eq_ok, hsections]
    exact and_congr_right fun _ => forall₂_congr fun t ht => hasGiven t ht s
  · intro text₁ text₂ text d₁ d₂ d s₁ s₂ h₁ h₂ h hcombines hs₁ hs₂
    obtain ⟨hsections₁, hgiven₁⟩ := h₁.ofText_eq_ok.mp hs₁
    obtain ⟨hsections₂, hgiven₂⟩ := h₂.ofText_eq_ok.mp hs₂
    exact hcombines.exists_ofText_eq_ok h hsections₁ hsections₂ hgiven₁ hgiven₂

/-! ### Some documents -/

/-- A document that names no key may have other than preset values: an array gives values to keys
that it does not name. -/
theorem ofText_array_names_no_key : ∃ d s, IsDocument "links = ['https://a.org']" d ∧
    ofText "links = ['https://a.org']" = .ok s ∧
    (∀ group origin entries, (group, Value.table origin entries) ∉ d) ∧
    s.links.submissionUrl ≠ ({} : Settings).links.submissionUrl :=
  ⟨[("links", .array false [.string "https://a.org"])],
    { links := { presetLinks with submissionUrl := "https://a.org" } }, ⟨.header, by cbv⟩, by cbv,
    by simp, by decide⟩

def labelText : String := "[display]\ntimezone_label = 'CET'"

def offsetText : String := "logging.level = 'debug'\n[display]\ntimezone_offset_minutes = 60"

/-- The label and the offset. -/
def wholeText : String :=
  "[display]\ntimezone_offset_minutes = 60\ntimezone_label = 'CET'\n[logging]\nlevel = 'debug'"

/-- The label, the preset offset and a section that means nothing. -/
def paddedText : String :=
  "[display]\ntimezone_offset_minutes = -300\ntimezone_label = 'CET'\n[fonts]\nsize = 1"

theorem ofText_is_overlay_of_display :
    ofText paddedText = .ok { display := { label := "CET" } } ∧
    ∃ s, ofText wholeText = .ok s ∧ s.display.label = "CET" ∧ s.display.offsetMinutes = 60 := by
  obtain ⟨-, hidle, hcombine⟩ := ofText_is_overlay
  have hlabel : IsDocument labelText
      [("display", .table .header [("timezone_label", .string "CET")])] := ⟨.header, by cbv⟩
  have hlabelled : ofText labelText = .ok { display := { label := "CET" } } := by cbv
  let label : Setting := .text "display" "timezone_label" (·.display.label)
  let offset : Setting := .number "display" "timezone_offset_minutes" (·.display.offsetMinutes)
  have hmem : label ∈ settings := List.mem_of_getElem? (i := 8) rfl
  have hmem' : offset ∈ settings := List.mem_of_getElem? (i := 7) rfl
  constructor
  · have hpadded : IsDocument paddedText [("display", .table .header
        [("timezone_offset_minutes", .integer (-300)), ("timezone_label", .string "CET")]),
        ("fonts", .table .header [("size", .integer 1)])] := ⟨.header, by cbv⟩
    have hoffset := Idle.presetValue hmem' rfl [] [] .header .header []
      [("timezone_label", .string "CET")] (by decide)
    have hfonts : "fonts" ∉ sections := by decide
    refine (hidle _ _ _ _ hlabel hpadded ?_ _).mp hlabelled
    exact .trans _ _ _ (.rel _ _ hoffset) (.rel _ _ (.unknownSection hfonts [_] [] _))
  · have hoffset : IsDocument offsetText [("logging", .table .dotted [("level", .string "debug")]),
        ("display", .table .header [("timezone_offset_minutes", .integer 60)])] :=
      ⟨.header, by cbv⟩
    have hset : ofText offsetText
        = .ok { display := { offsetMinutes := 60 }, logging := { level := "debug" } } := by cbv
    have hwhole : IsDocument wholeText [("display", .table .header
        [("timezone_offset_minutes", .integer 60), ("timezone_label", .string "CET")]),
        ("logging", .table .header [("level", .string "debug")])] := ⟨.header, by cbv⟩
    have hdisplay : keysOf "display" = ["timezone_offset_minutes", "timezone_label"] := rfl
    have hlogging : keysOf "logging" = ["level"] := rfl
    obtain ⟨s, hs, hasGiven⟩ := hcombine _ _ _ _ _ _ _ _ hlabel hoffset hwhole (by
      simp only [Combines, sections, List.forall_mem_cons]
      refine ⟨.left _, .left _, .left _, .table _ ?_, .left _, .table _ ?_, by simp⟩
      · simp only [hdisplay, List.forall_mem_cons]
        exact ⟨Or.inl ⟨rfl, rfl⟩, Or.inr ⟨rfl, rfl⟩, by simp⟩
      · simp only [hlogging, List.forall_mem_singleton]
        exact Or.inl ⟨rfl, rfl⟩) hlabelled hset
    exact ⟨s, hs, hasGiven label hmem, hasGiven offset hmem'⟩

end JobNotice.Settings
