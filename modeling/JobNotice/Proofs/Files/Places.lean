import JobNotice.Files.Tree
import JobNotice.Proofs.Text.Words

/-!
# What reading and writing files does to a tree

A path is followed from folder to folder, so whether it can be followed depends on folders alone. A
tree that keeps the folders of another one lets every path of it lead to the same place
(`Tree.KeepsFolders`). Both changes that are made to trees are of this kind: a file is put where
there is no folder, and folders are created where there is nothing.

The path of a file in a folder is the path of the folder with a name after it. It leads into the
place to which the folder's path leads (`Tree.Opens`), however that path is written.

## Main definitions

* `Files.Tree.Opens` — a path leads to a folder
* `Files.Tree.MakesFolders` — folders have been created on a path, and nothing else

## Main results

* `Files.Tree.write_join_eq_ok` — what writing into a folder does, and when it does
* `Files.Tree.makesFolders_createFolders` — what the creation of folders does
-/

namespace JobNotice.Files

/-! ### Paths -/

/-- The place at which a path is followed first. -/
def Tree.start (t : Tree) (p : Path) : Place := if p.absolute then [] else t.workFolder

/-- The place to which one part of a path leads, none when it is too long a name. -/
def enter? (place : Place) (part : String) : Option Place :=
  if Path.isSilent part then some place
  else if part = ".." then some place.dropLast
  else if Tree.maxName < Text.utf8Length part.toList then none
  else some (place ++ [part])

/-- A name of a file inside a folder. -/
structure IsName (name : String) : Prop where
  enters : ∀ place, enter? place name = some (place ++ [name])
  noSlash : '/' ∉ name.toList
  noNull : '\x00' ∉ name.toList

theorem IsName.ne_empty {name : String} (h : IsName name) : name ≠ "" := by
  rintro rfl
  have henters := h.enters []
  simp [enter?, Path.isSilent] at henters

theorem ofText_of_relative {s : String} {c : Char} {r : List Char} (h : s.toList = c :: r)
    (hc : c ≠ '/') : Path.ofText s = ⟨false, (Text.splitChars '/' (c :: r)).map String.ofList⟩ := by
  rw [Path.ofText, h]
  split
  · simp_all
  · simp_all
  · rfl

/-- The parts of a path that is not empty are those of its text after the slash of the root, and
what is written after the path goes on with them. -/
theorem exists_body {folder : String} (h : folder ≠ "") : ∃ absolute body,
    (∀ extra : String, Path.ofText (folder ++ extra)
      = ⟨absolute, (Text.splitChars '/' (body ++ extra.toList)).map String.ofList⟩) ∧
    (folder.toList.getLast? = some '/' → body = [] ∨ body.getLast? = some '/') := by
  cases hchars : folder.toList with
  | nil => exact absurd (String.toList_eq_nil_iff.mp hchars) h
  | cons c r =>
    by_cases hc : c = '/'
    · subst hc
      refine ⟨true, r, fun extra => ?_, fun hlast => ?_⟩
      · simp [Path.ofText, hchars]
      · cases r with
        | nil => exact Or.inl rfl
        | cons d r => exact Or.inr (by simpa using hlast)
    · refine ⟨false, c :: r, fun extra => ?_, Or.inr⟩
      refine ofText_of_relative ?_ hc
      rw [String.toList_append, hchars]
      rfl

/-- Where a path ends with a slash, a name takes the place of the empty part behind it. -/
theorem splitChars_append_name {body w : List Char} (hw : '/' ∉ w)
    (h : body = [] ∨ body.getLast? = some '/') :
    ∃ front, Text.splitChars '/' body = front ++ [[]] ∧
      Text.splitChars '/' (body ++ w) = front ++ [w] := by
  rcases List.eq_nil_or_concat' body with rfl | ⟨init, c, rfl⟩
  · exact ⟨[], rfl, by simpa using Text.splitChars_eq_singleton hw⟩
  · obtain rfl : c = '/' := by simpa using h
    refine ⟨Text.splitChars '/' init, Text.splitChars_append '/' init [], ?_⟩
    rw [List.append_assoc, List.singleton_append, Text.splitChars_append,
      Text.splitChars_eq_singleton hw]

/-- **The path of a name in a folder** is that of the folder, less an empty part at its end, with
the name after it. -/
theorem ofText_join {name : String} (hname : IsName name) (folder : String) :
    ∃ front tail, (Path.ofText folder).parts = front ++ tail ∧ (∀ part ∈ tail, part = "") ∧
      Path.ofText (join folder name) = ⟨(Path.ofText folder).absolute, front ++ [name]⟩ := by
  have hword : (Text.splitChars '/' name.toList).map String.ofList = [name] := by
    simp [Text.splitChars_eq_singleton hname.noSlash]
  by_cases hempty : folder = ""
  · subst hempty
    refine ⟨[], [], rfl, by simp, ?_⟩
    cases hchars : name.toList with
    | nil => exact absurd (String.toList_eq_nil_iff.mp hchars) hname.ne_empty
    | cons c r =>
      have hc : c ≠ '/' := fun h => hname.noSlash (by simp [hchars, h])
      have hjoin : join "" name = name := by simp [join]
      rw [hjoin, ofText_of_relative hchars hc, ← hchars, hword]
      rfl
  · obtain ⟨absolute, body, hbody, hend⟩ := exists_body hempty
    have hfolder := hbody ""
    rw [String.append_empty, String.toList_empty, List.append_nil] at hfolder
    by_cases hlast : folder.toList.getLast? = some '/'
    · obtain ⟨front, hfront, hnext⟩ := splitChars_append_name hname.noSlash (hend hlast)
      refine ⟨front.map String.ofList, [""], ?_, by simp, ?_⟩
      · rw [hfolder, hfront, List.map_append]
        rfl
      · rw [join, if_pos (Or.inr hlast), hbody, hnext, hfolder, List.map_append]
        simp
    · refine ⟨(Path.ofText folder).parts, [], by simp, by simp, ?_⟩
      rw [join, if_neg (by simp [hempty, hlast]), String.append_assoc, hbody, hfolder,
        String.toList_append]
      have hslash : "/".toList ++ name.toList = '/' :: name.toList := rfl
      rw [hslash, Text.splitChars_append, List.map_append, hword]

/-! ### Trees -/

namespace Tree

variable {t t' t'' : Tree} {place next : Place} {part : String} {parts : List String}
  {folder name text : String}

theorem get?_put_self (t : Tree) (place : Place) (e : Entry) :
    (t.put place e).get? place = some e := by
  simp [get?, put]

theorem get?_put_of_ne {other : Place} (h : other ≠ place) (e : Entry) :
    (t.put place e).get? other = t.get? other := by
  simp [get?, put, Ne.symm h]

/-! ### Following paths -/

theorem walk_cons_eq_ok {rest : List String} : t.walk place (part :: rest) = .ok next ↔
    t.get? place = some .folder ∧ ∃ inner, enter? place part = some inner ∧
      t.walk inner rest = .ok next := by
  rw [walk, enter?]
  cases t.get? place with
  | none => simp
  | some e =>
    cases e with
    | file content => simp
    | folder =>
      dsimp only
      split
      · simp
      · split
        · simp
        · split <;> simp

theorem walk_append_eq_ok {rest : List String} : t.walk place (parts ++ rest) = .ok next ↔
    ∃ middle, t.walk place parts = .ok middle ∧ t.walk middle rest = .ok next := by
  induction parts generalizing place with
  | nil => simp [walk]
  | cons part parts ih =>
    simp only [List.cons_append, walk_cons_eq_ok, ih]
    constructor
    · rintro ⟨hplace, inner, hinner, middle, hmiddle, hnext⟩
      exact ⟨middle, ⟨hplace, inner, hinner, hmiddle⟩, hnext⟩
    · rintro ⟨middle, ⟨hplace, inner, hinner, hmiddle⟩, hnext⟩
      exact ⟨hplace, inner, hinner, middle, hmiddle, hnext⟩

/-- Empty parts lead nowhere. -/
theorem walk_empty_parts (h : ∀ part ∈ parts, part = "") (hplace : t.get? place = some .folder) :
    t.walk place parts = .ok place := by
  induction parts with
  | nil => rfl
  | cons part parts ih =>
    refine walk_cons_eq_ok.mpr ⟨hplace, place, ?_, ih fun q hq => h q (List.mem_cons_of_mem _ hq)⟩
    rw [h part (List.mem_cons_self ..)]
    rfl

theorem eq_of_walk_empty_parts (h : ∀ part ∈ parts, part = "")
    (hwalk : t.walk place parts = .ok next) : next = place := by
  cases parts with
  | nil => exact (Except.ok.inj hwalk).symm
  | cons part parts =>
    have hplace := (walk_cons_eq_ok.mp hwalk).1
    rw [walk_empty_parts h hplace] at hwalk
    exact (Except.ok.inj hwalk).symm

theorem locate_eq_ok {p : Path} : t.locate p = .ok place ↔
    (∀ part ∈ p.parts, '\x00' ∉ part.toList) ∧ p.parts ≠ [] ∧
      t.walk (t.start p) p.parts = .ok place := by
  rw [locate, start]
  split
  · rename_i hnull
    simp only [List.any_eq_true, List.contains_iff_mem] at hnull
    obtain ⟨part, hpart, hnull⟩ := hnull
    simp only [reduceCtorEq, false_iff]
    exact fun h => h.1 part hpart hnull
  · rename_i hnull
    simp only [List.any_eq_true, List.contains_iff_mem, not_exists, not_and] at hnull
    split
    · rename_i hparts
      simp [List.isEmpty_iff.mp hparts]
    · rename_i hparts
      simp only [List.isEmpty_iff] at hparts
      exact ⟨fun h => ⟨hnull, hparts, h⟩, fun h => h.2.2⟩

/-- Whether all folders of a tree are folders of another one. -/
structure KeepsFolders (t t' : Tree) : Prop where
  workFolder : t'.workFolder = t.workFolder
  folders : ∀ place, t.get? place = some .folder → t'.get? place = some .folder

theorem KeepsFolders.start (h : t.KeepsFolders t') (p : Path) : t'.start p = t.start p := by
  rw [Tree.start, Tree.start, h.workFolder]

/-- **A path leads to the same place as long as folders are kept.** -/
theorem KeepsFolders.walk (h : t.KeepsFolders t') (hwalk : t.walk place parts = .ok next) :
    t'.walk place parts = .ok next := by
  induction parts generalizing place with
  | nil => exact hwalk
  | cons part parts ih =>
    obtain ⟨hplace, inner, hinner, hrest⟩ := walk_cons_eq_ok.mp hwalk
    exact walk_cons_eq_ok.mpr ⟨h.folders place hplace, inner, hinner, ih hrest⟩

/-- Nothing is lost when an entry is put where there is no folder. -/
theorem keepsFolders_put (h : t.get? place ≠ some .folder) (e : Entry) :
    t.KeepsFolders (t.put place e) := by
  refine ⟨rfl, fun other hother => ?_⟩
  rwa [get?_put_of_ne]
  rintro rfl
  exact h hother

/-! ### Writing into a folder -/

/-- A path leads to a folder. -/
structure Opens (t : Tree) (folder : String) (dir : Place) : Prop where
  noNull : ∀ part ∈ (Path.ofText folder).parts, '\x00' ∉ part.toList
  leads : t.walk (t.start (Path.ofText folder)) (Path.ofText folder).parts = .ok dir
  isFolder : t.get? dir = some .folder

theorem Opens.unique {dir dir' : Place} (h : t.Opens folder dir) (h' : t.Opens folder dir') :
    dir = dir' := by
  have hleads := h.leads
  rw [h'.leads] at hleads
  exact (Except.ok.inj hleads).symm

theorem Opens.mono {dir : Place} (h : t.Opens folder dir) (hkeeps : t.KeepsFolders t') :
    t'.Opens folder dir := by
  refine ⟨h.noNull, ?_, hkeeps.folders dir h.isFolder⟩
  rw [hkeeps.start]
  exact hkeeps.walk h.leads

/-- A point stands for the working folder. -/
theorem Opens.eq_workFolder {dir : Place} (h : t.Opens "." dir) : dir = t.workFolder := by
  obtain ⟨-, inner, henter, hwalk⟩ := walk_cons_eq_ok.mp h.leads
  obtain rfl := Option.some.inj henter
  exact (Except.ok.inj hwalk).symm

/-- A name in a folder leads into the folder. -/
theorem locate_join_eq_ok (hname : IsName name) :
    t.locate (.ofText (join folder name)) = .ok place ↔
      ∃ dir, t.Opens folder dir ∧ place = dir ++ [name] := by
  obtain ⟨front, tail, hparts, htail, hjoin⟩ := ofText_join hname folder
  have hstart : t.start (.ofText (join folder name)) = t.start (.ofText folder) := by
    rw [hjoin, start, start]
  have hnull : (∀ part ∈ front ++ [name], '\x00' ∉ part.toList) ↔
      ∀ part ∈ front ++ tail, '\x00' ∉ part.toList := by
    simp only [List.forall_mem_append, List.forall_mem_singleton]
    refine and_congr_right fun _ => iff_of_true hname.noNull fun part hpart => ?_
    rw [htail part hpart]
    simp
  rw [locate_eq_ok, hstart, hjoin]
  simp only [walk_append_eq_ok, walk_cons_eq_ok, hname.enters, hnull]
  constructor
  · rintro ⟨hfront, -, dir, hdir, hfolder, inner, hinner, hlast⟩
    obtain rfl := Option.some.inj hinner
    refine ⟨dir, ⟨by rwa [hparts], ?_, hfolder⟩, (Except.ok.inj hlast).symm⟩
    rw [hparts]
    exact walk_append_eq_ok.mpr ⟨dir, hdir, walk_empty_parts htail hfolder⟩
  · rintro ⟨dir, ⟨hfront, hleads, hfolder⟩, rfl⟩
    rw [hparts] at hfront hleads
    obtain ⟨middle, hmiddle, hrest⟩ := walk_append_eq_ok.mp hleads
    obtain rfl := eq_of_walk_empty_parts htail hrest
    exact ⟨hfront, by simp, dir, hmiddle, hfolder, _, rfl, rfl⟩

theorem write_eq_ok {path : String} : t.write path text = .ok t' ↔
    ∃ place, t.locate (.ofText path) = .ok place ∧ t.get? place ≠ some .folder ∧
      t' = t.put place (.file (.text text)) := by
  rw [write]
  cases hplace : t.locate (.ofText path) with
  | error e => simp [bind, Except.bind]
  | ok place =>
    simp only [bind, Except.bind, Except.ok.injEq, exists_eq_left']
    split
    · rename_i hfolder
      simp [hfolder]
    · rename_i hfolder
      simp only [Except.ok.injEq]
      exact ⟨fun h => ⟨hfolder, h.symm⟩, fun h => h.2.symm⟩

/-- **A file in a folder is written** when the path leads to a folder in which no folder has the
name of the file. -/
theorem write_join_eq_ok (hname : IsName name) : t.write (join folder name) text = .ok t' ↔
    ∃ dir, t.Opens folder dir ∧ t.get? (dir ++ [name]) ≠ some .folder ∧
      t' = t.put (dir ++ [name]) (.file (.text text)) := by
  rw [write_eq_ok]
  simp only [locate_join_eq_ok hname]
  constructor
  · rintro ⟨place, ⟨dir, hopens, rfl⟩, hfolder, hput⟩
    exact ⟨dir, hopens, hfolder, hput⟩
  · rintro ⟨dir, hopens, hfolder, hput⟩
    exact ⟨_, ⟨dir, hopens, rfl⟩, hfolder, hput⟩

/-! ### Creating folders -/

/-- Folders have been created on a path, and nothing else has changed. -/
structure MakesFolders (t t' : Tree) (p : Path) : Prop where
  workFolder : t'.workFolder = t.workFolder
  entries : ∀ place, t'.get? place = t.get? place ∨
    (t.get? place = none ∧ t'.get? place = some .folder ∧
      ∃ parts, parts <+: p.parts ∧ t'.walk (t'.start p) parts = .ok place)

namespace MakesFolders

variable {p q : Path}

theorem refl (t : Tree) (p : Path) : t.MakesFolders t p := ⟨rfl, fun _ => Or.inl rfl⟩

theorem keepsFolders (h : t.MakesFolders t' p) : t.KeepsFolders t' := by
  refine ⟨h.workFolder, fun place hplace => ?_⟩
  rcases h.entries place with heq | ⟨hnone, -⟩
  · rw [heq, hplace]
  · rw [hnone] at hplace
    cases hplace

theorem trans (h : t.MakesFolders t' p) (h' : t'.MakesFolders t'' p) : t.MakesFolders t'' p := by
  refine ⟨h'.workFolder.trans h.workFolder, fun place => ?_⟩
  rcases h.entries place with heq | ⟨hnone, hfolder, parts, hparts, hwalk⟩
  · rw [← heq]
    exact h'.entries place
  · refine Or.inr ⟨hnone, h'.keepsFolders.folders place hfolder, parts, hparts, ?_⟩
    rw [h'.keepsFolders.start]
    exact h'.keepsFolders.walk hwalk

/-- What is on the way to a folder above is on the way. -/
theorem of_isPrefix (h : t.MakesFolders t' q) (habsolute : q.absolute = p.absolute)
    (hparts : q.parts <+: p.parts) : t.MakesFolders t' p := by
  refine ⟨h.workFolder, fun place => (h.entries place).imp_right ?_⟩
  rintro ⟨hnone, hfolder, parts, hprefix, hwalk⟩
  refine ⟨hnone, hfolder, parts, hprefix.trans hparts, ?_⟩
  rwa [start, habsolute] at hwalk

end MakesFolders

theorem dropEnd_isPrefix {α : Type} (drops : α → Bool) (l : List α) :
    (l.reverse.dropWhile drops).reverse <+: l := by
  rw [← List.reverse_suffix, List.reverse_reverse]
  exact List.dropWhile_suffix drops

theorem trimmed_isPrefix (p : Path) :
    p.trimmed.absolute = p.absolute ∧ p.trimmed.parts <+: p.parts := by
  obtain ⟨absolute, parts⟩ := p
  cases parts with
  | nil => exact ⟨rfl, List.prefix_refl _⟩
  | cons first rest =>
    refine ⟨rfl, ?_⟩
    simp only [Path.trimmed]
    split
    · exact (List.prefix_cons_inj first).mpr (dropEnd_isPrefix Path.isSilent rest)
    · exact List.nil_prefix

theorem parent?_isPrefix {p parent : Path} (h : p.parent? = some parent) :
    parent.absolute = p.absolute ∧ parent.parts <+: p.parts := by
  rw [Path.parent?] at h
  split at h
  · cases h
  · obtain rfl := Option.some.inj h
    have hinner := trimmed_isPrefix { p.trimmed with parts := p.trimmed.parts.dropLast }
    have houter := trimmed_isPrefix p
    exact ⟨hinner.1.trans houter.1,
      hinner.2.trans ((List.dropLast_prefix _).trans houter.2)⟩

theorem createFolder_eq_ok {p : Path} : t.createFolder p = .ok t' ↔
    ∃ place, t.locate { p with parts := (p.parts.reverse.dropWhile (· = "")).reverse } = .ok place ∧
      t.get? place = none ∧ t' = t.put place .folder := by
  rw [createFolder]
  cases t.locate { p with parts := (p.parts.reverse.dropWhile (· = "")).reverse } with
  | error e => simp [bind, Except.bind]
  | ok place =>
    simp only [bind, Except.bind, Except.ok.injEq, exists_eq_left']
    cases t.get? place with
    | none => simp [eq_comm]
    | some e => simp

theorem makesFolders_createFolder {p : Path} (h : t.createFolder p = .ok t') :
    t.MakesFolders t' p := by
  obtain ⟨place, hlocate, hnone, rfl⟩ := createFolder_eq_ok.mp h
  have hwalk := (locate_eq_ok.mp hlocate).2.2
  have hkeeps : t.KeepsFolders (t.put place .folder) := keepsFolders_put (by simp [hnone]) _
  refine ⟨rfl, fun other => ?_⟩
  by_cases hother : other = place
  · subst hother
    refine Or.inr ⟨hnone, get?_put_self t _ _, _, dropEnd_isPrefix (· = "") p.parts, ?_⟩
    exact hkeeps.walk hwalk
  · exact Or.inl (get?_put_of_ne hother _)

/-- An attempt at the last folder makes it or changes nothing. -/
theorem makesFolders_last {t t₁ t' : Tree} {p : Path} (h : t.MakesFolders t₁ p)
    (hok : ∀ t₂, t₁.createFolder p = .ok t₂ → t' = t₂)
    (herror : ∀ e, t₁.createFolder p = .error e → t' = t₁) : t.MakesFolders t' p := by
  cases hcreate : t₁.createFolder p with
  | ok t₂ =>
    rw [hok t₂ hcreate]
    exact h.trans (makesFolders_createFolder hcreate)
  | error e =>
    rw [herror e hcreate]
    exact h

/-- Each of the attempts makes folders on the path or changes nothing. -/
theorem makesFolders_createUpwards (count : Nat) (t : Tree) (p : Path) :
    t.MakesFolders (t.createUpwards count p).2 p := by
  induction count generalizing t p with
  | zero => exact MakesFolders.refl t p
  | succ count ih =>
    rw [createUpwards]
    split
    · exact MakesFolders.refl t p
    · cases hcreate : t.createFolder p with
      | ok t₁ => exact makesFolders_createFolder hcreate
      | error e =>
        cases e with
        | missing =>
          cases hparent : p.parent? with
          | none =>
            refine makesFolders_last (MakesFolders.refl t p) (fun t₂ h => ?_) fun e h => ?_
            · simp only [h]
            · simp only [h]
              split <;> rfl
          -- Folders above are made first, and they stay when the last one cannot be made.
          | some parent =>
            obtain ⟨habsolute, hparts⟩ := parent?_isPrefix hparent
            have habove := (ih t parent).of_isPrefix habsolute hparts
            dsimp only
            generalize t.createUpwards count parent = above at habove
            obtain ⟨r, t₁⟩ := above
            cases r with
            | error e => exact habove
            | ok u =>
              refine makesFolders_last habove (fun t₂ h => ?_) fun e h => ?_
              · simp only [h]
              · simp only [h]
                split <;> rfl
        | _ =>
          dsimp only
          split <;> exact MakesFolders.refl t p

/-- **Creating folders** adds folders on the way to the last one, also when it fails. -/
theorem makesFolders_createFolders (t : Tree) (folder : String) :
    t.MakesFolders (t.createFolders folder).2 (.ofText folder) :=
  makesFolders_createUpwards _ _ _

end Tree

end JobNotice.Files
