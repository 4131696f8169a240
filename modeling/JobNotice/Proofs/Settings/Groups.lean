import JobNotice.Proofs.Settings.Sections

/-!
# The sections of the settings

Each section of the settings lists its keys with their values and places. A value that is read can
be written again, and only the value that is written is read: numbers are read between bounds and
kept in as many bits as the bounds need, and what may be lacking is read when it is there.

## Main definitions

* `Settings.Leaf` — a key whose values can be written
* `Settings.Group` — a section with places of its own for its keys
* `Settings.groups` — the sections of the settings

## Main results

* `Settings.fields_eq` — the sections are those that are read
* `Settings.independent_groups` — the sections have places of their own
-/

namespace JobNotice.Settings

open Toml (Value Entries)

variable {σ : Type}

/-! ### Values -/

theorem readString_eq_ok {expected : String} {x : Value} {s : String} :
    readString expected x = .ok s ↔ x = .string s := by
  cases x <;> simp [readString]

theorem readBool_eq_ok {x : Value} {b : Bool} : readBool x = .ok b ↔ x = .bool b := by
  cases x <;> simp [readBool]

theorem readBounded_eq_ok {low high n : Int} {expected : String} {x : Value} :
    readBounded low high expected x = .ok n ↔ x = .integer n ∧ low ≤ n ∧ n ≤ high := by
  cases x with
  | integer m =>
    rw [readBounded]
    split
    · rename_i h
      simp only [Except.ok.injEq, Value.integer.injEq]
      constructor
      · rintro rfl
        exact ⟨rfl, h⟩
      · exact And.left
    · rename_i h
      simp only [reduceCtorEq, Value.integer.injEq, false_iff]
      rintro ⟨rfl, h'⟩
      exact h h'
  | _ => simp [readBounded]

theorem map_eq_ok {ε α β : Type} {x : Except ε α} {f : α → β} {b : β} :
    x.map f = .ok b ↔ ∃ a, x = .ok a ∧ f a = b := by
  cases x <;> simp [Except.map]

/-- Changing what has been read is part of putting it into its place. -/
theorem Field.of_map {α β : Type} (key : String) (needed : Bool) (read : Value → Except Fault α)
    (f : α → β) (put : β → σ → σ) :
    Field.of key needed (fun v => (read v).map f) put
      = Field.of key needed read fun x => put (f x) := by
  rw [Field.of, Field.of]
  congr 1
  funext v
  cases read v <;> rfl

/-! ### Keys -/

/-- A key of a section whose values can be written. -/
structure Leaf (σ : Type) extends Part σ where
  /-- The value that stands for a result, none where nothing stands for it. -/
  write : Result → Option Value
  read_eq_ok : ∀ x r, read x = .ok r ↔ write r = some x

namespace Leaf

def text (key : String) (put : String → σ → σ) (get : σ → String)
    (get_put : ∀ x s, get (put x s) = x) : Leaf σ where
  key; needed := false; Result := String; put; get; get_put
  read := readText
  write s := some (.string s)
  read_eq_ok x s := by rw [readText, readString_eq_ok, Option.some.injEq, eq_comm]

/-- A text that may be lacking. -/
def optional (key expected : String) (put : Option String → σ → σ) (get : σ → Option String)
    (get_put : ∀ x s, get (put x s) = x) : Leaf σ where
  key; needed := true; Result := Option String; put; get; get_put
  read x := (readString expected x).map some
  write := Option.map .string
  read_eq_ok x r := by
    simp only [map_eq_ok, readString_eq_ok, Option.map_eq_some_iff]
    constructor
    · rintro ⟨s, rfl, rfl⟩
      exact ⟨s, rfl, rfl⟩
    · rintro ⟨s, rfl, rfl⟩
      exact ⟨s, rfl, rfl⟩

def flag (key : String) (put : Bool → σ → σ) (get : σ → Bool)
    (get_put : ∀ x s, get (put x s) = x) : Leaf σ where
  key; needed := false; Result := Bool; put; get; get_put
  read := readBool
  write b := some (.bool b)
  read_eq_ok x b := by rw [readBool_eq_ok, Option.some.injEq, eq_comm]

/-- A number of 32 bits. -/
def number (key : String) (put : Int32 → σ → σ) (get : σ → Int32)
    (get_put : ∀ x s, get (put x s) = x) : Leaf σ where
  key; needed := false; Result := Int32; put; get; get_put
  read x := (readBounded (-2147483648) 2147483647 "i32" x).map Int32.ofInt
  write n := some (.integer n.toInt)
  read_eq_ok x n := by
    simp only [map_eq_ok, readBounded_eq_ok, Option.some.injEq]
    constructor
    · rintro ⟨m, ⟨rfl, hlow, hhigh⟩, rfl⟩
      rw [Int32.toInt_ofInt_of_le hlow (by omega)]
    · rintro rfl
      have hlow := Int32.le_toInt n
      have hhigh := Int32.toInt_lt n
      exact ⟨_, ⟨rfl, by omega, by omega⟩, Int32.ofInt_toInt n⟩

/-- A number of 16 bits without a sign. -/
def port (key : String) (put : UInt16 → σ → σ) (get : σ → UInt16)
    (get_put : ∀ x s, get (put x s) = x) : Leaf σ where
  key; needed := false; Result := UInt16; put; get; get_put
  read x := (readBounded 0 65535 "u16" x).map fun n => UInt16.ofNat n.toNat
  write n := some (.integer n.toNat)
  read_eq_ok x n := by
    simp only [map_eq_ok, readBounded_eq_ok, Option.some.injEq]
    constructor
    · rintro ⟨m, ⟨rfl, hlow, hhigh⟩, rfl⟩
      have hsize : m.toNat < UInt16.size := by
        change m.toNat < 65536
        omega
      rw [UInt16.toNat_ofNat_of_lt' hsize, Int.toNat_of_nonneg hlow]
    · rintro rfl
      have hhigh := UInt16.toNat_lt n
      refine ⟨_, ⟨rfl, by omega, by omega⟩, ?_⟩
      rw [Int.toNat_natCast, UInt16.ofNat_toNat]

end Leaf

/-! ### Sections -/

/-- A section of the settings. -/
structure Group where
  key : String
  /-- How the section is called in messages. -/
  name : String
  Content : Type
  leaves : List (Leaf Content)
  put : Content → Settings → Settings
  get : Settings → Content
  get_put : ∀ x s, get (put x s) = x
  independent : Independent (leaves.map Leaf.toPart)

namespace Group

/-- A section as a part of all settings. -/
def part (g : Group) : Part Settings where
  key := g.key
  needed := false
  Result := g.Content
  read := readSection g.name ((g.leaves.map Leaf.toPart).map Part.field) (g.get {})
  put := g.put
  get := g.get
  get_put := g.get_put

def links : Group where
  key := "links"
  name := "LinksConfig"
  Content := Job.Links
  leaves :=
    [.text "submission_url" (fun x s => { s with submissionUrl := x }) (·.submissionUrl)
        fun _ _ => rfl,
      .text "docs_url" (fun x s => { s with docsUrl := x }) (·.docsUrl) fun _ _ => rfl,
      .text "base_url" (fun x s => { s with baseUrl := x }) (·.baseUrl) fun _ _ => rfl]
  put x s := { s with links := x }
  get := Settings.links
  get_put _ _ := rfl
  independent := by
    refine ⟨by decide, by simp [Leaf.text], ?_⟩
    rintro ⟨⟩ ⟨⟩ h
    simpa [Leaf.text] using h

def branding : Group where
  key := "branding"
  name := "BrandingConfig"
  Content := Branding
  leaves :=
    [.text "product_name" (fun x s => { s with productName := x }) (·.productName) fun _ _ => rfl,
      .text "support_email" (fun x s => { s with supportEmail := x }) (·.supportEmail)
        fun _ _ => rfl,
      .optional "logo_url" "a string" (fun x s => { s with logoUrl := x }) (·.logoUrl)
        fun _ _ => rfl]
  put x s := { s with branding := x }
  get := Settings.branding
  get_put _ _ := rfl
  independent := by
    refine ⟨by decide, by simp [Leaf.text, Leaf.optional], ?_⟩
    rintro ⟨⟩ ⟨⟩ h
    simpa [Leaf.text, Leaf.optional] using h

def templates : Group where
  key := "templates"
  name := "TemplatesConfig"
  Content := Templates
  leaves :=
    [.optional "dir" "path string" (fun x s => { s with folder := x }) (·.folder) fun _ _ => rfl]
  put x s := { s with templates := x }
  get := Settings.templates
  get_put _ _ := rfl
  independent := by
    refine ⟨by decide, by simp, ?_⟩
    rintro ⟨⟩ ⟨⟩ h
    simpa [Leaf.optional] using h

def display : Group where
  key := "display"
  name := "DisplayConfig"
  Content := Display
  leaves :=
    [.number "timezone_offset_minutes" (fun x s => { s with offsetMinutes := x })
        (·.offsetMinutes) fun _ _ => rfl,
      .text "timezone_label" (fun x s => { s with label := x }) (·.label) fun _ _ => rfl]
  put x s := { s with display := x }
  get := Settings.display
  get_put _ _ := rfl
  independent := by
    refine ⟨by decide, by simp [Leaf.text, Leaf.number], ?_⟩
    rintro ⟨⟩ ⟨⟩ h
    simpa [Leaf.text, Leaf.number] using h

def email : Group where
  key := "email"
  name := "EmailConfig"
  Content := Email
  leaves :=
    [.optional "smtp_host" "a string" (fun x s => { s with host := x }) (·.host) fun _ _ => rfl,
      .port "smtp_port" (fun x s => { s with port := x }) (·.port) fun _ _ => rfl,
      .optional "smtp_username" "a string" (fun x s => { s with username := x }) (·.username)
        fun _ _ => rfl,
      .optional "smtp_password" "a string" (fun x s => { s with password := x }) (·.password)
        fun _ _ => rfl,
      .flag "smtp_tls" (fun x s => { s with tls := x }) (·.tls) fun _ _ => rfl,
      .optional "from_address" "a string" (fun x s => { s with fromAddress := x })
        (·.fromAddress) fun _ _ => rfl,
      .text "from_name" (fun x s => { s with fromName := x }) (·.fromName) fun _ _ => rfl]
  put x s := { s with email := x }
  get := Settings.email
  get_put _ _ := rfl
  independent := by
    refine ⟨by decide, by simp [Leaf.text, Leaf.optional, Leaf.port, Leaf.flag], ?_⟩
    rintro ⟨⟩ ⟨⟩ h
    simpa [Leaf.text, Leaf.optional, Leaf.port, Leaf.flag] using h

def logging : Group where
  key := "logging"
  name := "LoggingConfig"
  Content := Logging
  leaves := [.text "level" (fun x s => { s with level := x }) (·.level) fun _ _ => rfl]
  put x s := { s with logging := x }
  get := Settings.logging
  get_put _ _ := rfl
  independent := by
    refine ⟨by decide, by simp, ?_⟩
    rintro ⟨⟩ ⟨⟩ h
    simpa [Leaf.text] using h

end Group

/-- The sections of the settings. -/
def groups : List Group :=
  [.links, .branding, .templates, .display, .email, .logging]

/-- The sections are those that are read. -/
theorem fields_eq : fields = (groups.map Group.part).map Part.field := by
  simp only [fields, linksFields, brandingFields, templatesFields, displayFields, emailFields,
    loggingFields, groups, Group.links, Group.branding, Group.templates, Group.display,
    Group.email, Group.logging, Group.part, Leaf.text, Leaf.optional, Leaf.flag, Leaf.number,
    Leaf.port, Part.field, Field.of_map, List.map_cons, List.map_nil]
  rfl

/-- The sections have places of their own. -/
theorem independent_groups : Independent (groups.map Group.part) := by
  refine ⟨by decide, ?_, ?_⟩
  · simp [groups, Group.part, Group.links, Group.branding, Group.templates, Group.display,
      Group.email, Group.logging]
  · rintro ⟨⟩ ⟨⟩ h
    simpa [groups, Group.part, Group.links, Group.branding, Group.templates, Group.display,
      Group.email, Group.logging] using h

end JobNotice.Settings
