import JobNotice.Proofs.Decimal.Numeral
import JobNotice.Proofs.Notice.Acceptance
import JobNotice.Proofs.Text.Splitting
import Mathlib.Data.List.Nodup

/-!
# Validation is sound, complete and tells everything

A map of attributes has a context exactly when no field offends. Otherwise the report is not empty
and holds every offending path once, in the order of `pathOrder`, and no other path. So all
problems of a map are told at once, and none is told twice.

The checks are put together from checks of fields, and so are their reports (`Checked.Reports.ap`).
That no path is told twice comes from the order: the report's paths are among those of `pathOrder`,
in which no path stands twice, since the numeral of a stage ends at the bracket.

## Main results

* `Notice.reports_check` — what the check of a map reports
* `Notice.finish_addTo_check`, `Notice.hasField_addTo_check` — the report to which all checks add
* `Notice.nodup_pathOrder` — all paths are different
* `Notice.ofAttributes_outcome` — the two ways in which validation ends
-/

namespace JobNotice.Notice

open Json (Value Members)

/-! ### What the checks of parts report -/

/-- Only stages that are an array are gone through, and an empty array is no problem. -/
theorem reports_checkStages (m : Members) :
    (checkStages (field? m "stages")).Reports
      ("stages" ::
        (List.range (stageCount m)).flatMap fun i => groupPaths (stagePath i) stageFields)
      fun field problem =>
        (∃ v, m.get? "stages" = some v ∧ v ≠ .null ∧ (∀ items, v ≠ .array items) ∧
          field = "stages" ∧ problem = .wrongType "an array") ∨
        ∃ items i v, m.get? "stages" = some (.array items) ∧ items[i]? = some v ∧
          GroupWrong (stagePath i) stageFields v field problem := by
  cases h : field? m "stages" with
  | none =>
    refine (Checked.Reports.pure none _).congr fun field problem => ?_
    rcases field?_eq_none.mp h with h | h <;> simp [h]
  | some v =>
    obtain ⟨hv, hnull⟩ := field?_eq_some.mp h
    cases v with
    | null => exact absurd rfl hnull
    | array items =>
      have hitems := (reports_checkStagesFrom 0 items).map some
      have hcheck : checkStages (some (.array items)) = (checkStagesFrom 0 items).map some ∨
          checkStages (some (.array items)) = Checked.pure none ∧ items = [] := by
        cases items with
        | nil => exact Or.inr ⟨rfl, rfl⟩
        | cons v rest => exact Or.inl rfl
      rcases hcheck with hcheck | ⟨hcheck, rfl⟩
      · rw [hcheck]
        refine (hitems.mono ?_).congr fun field problem => ?_
        · simp [stageCount, hv, List.range_eq_range']
        · simp [hv]
      · rw [hcheck]
        exact (Checked.Reports.pure none _).congr fun field problem => by simp [hv]
    | _ =>
      refine ((Checked.Reports.one (some none) "stages" _).mono (by simp)).congr
        fun field problem => ?_
      simp [hv]

theorem reports_checkLinks (m : Members) :
    (checkLinks (field? m "links")).Reports (groupPaths "links" linkFields)
      fun field problem =>
        (Absent (m.get? "links") ∧ field = "links" ∧ problem = .missing) ∨
        ∃ v, m.get? "links" = some v ∧ v ≠ .null ∧ GroupWrong "links" linkFields v field problem := by
  cases h : field? m "links" with
  | none =>
    have habsent := field?_eq_none.mp h
    refine ((Checked.Reports.one none "links" .missing).mono (by simp [groupPaths])).congr
      fun field problem => ?_
    rcases habsent with h | h <;> simp [h, Absent]
  | some v =>
    obtain ⟨hv, hnull⟩ := field?_eq_some.mp h
    have hcongr (field : String) (problem : Problem) :
        GroupWrong "links" linkFields v field problem ↔
          (Absent (m.get? "links") ∧ field = "links" ∧ problem = .missing) ∨
          ∃ w, m.get? "links" = some w ∧ w ≠ .null ∧
            GroupWrong "links" linkFields w field problem := by
      simp [hv, Absent, hnull]
    cases v with
    | object members =>
      have h := (((Checked.Reports.pure Job.Links.mk []).ap
        (reports_requiredLink "links.submission_url" members "submission_url")).ap
        (reports_requiredLink "links.docs_url" members "docs_url")).ap
        (reports_requiredLink "links.base_url" members "base_url")
      refine (h.mono ?_).congr fun field problem => ?_
      · exact List.sublist_cons_self _ _
      · rw [← hcongr]
        simp [groupWrong_object, linkFields, or_assoc]
    | _ => exact (reports_not_object none "links" linkFields (by simp)).congr hcongr

theorem reports_checkBranding (m : Members) :
    (checkBranding (field? m "branding")).Reports (groupPaths "branding" brandingFields)
      fun field problem =>
        ∃ v, m.get? "branding" = some v ∧ v ≠ .null ∧
          GroupWrong "branding" brandingFields v field problem := by
  cases h : field? m "branding" with
  | none =>
    refine (Checked.Reports.pure none _).congr fun field problem => ?_
    rcases field?_eq_none.mp h with h | h <;> simp [h]
  | some v =>
    obtain ⟨hv, hnull⟩ := field?_eq_some.mp h
    have hcongr (field : String) (problem : Problem) :
        GroupWrong "branding" brandingFields v field problem ↔
          ∃ w, m.get? "branding" = some w ∧ w ≠ .null ∧
            GroupWrong "branding" brandingFields w field problem := by
      simp [hv, hnull]
    cases v with
    | object members =>
      have h := reports_optionalLink "branding.logo_url" members "logo_url"
      refine (h.mono ?_).congr fun field problem => ?_
      · exact List.sublist_cons_self _ _
      · rw [← hcongr]
        simp [groupWrong_object, brandingFields]
    | _ => exact (reports_not_object (some none) "branding" brandingFields (by simp)).congr hcongr

/-! ### What the check of a map reports -/

/-- **The check of a map reports exactly the problems that offend.** -/
theorem reports_check (m : Members) :
    (Context.check m).Reports (pathOrder (stageCount m)) (Offends m) := by
  have h := ((((((((((((Checked.Reports.pure Context.ofParts []).ap
    (reports_requiredString "recipient_name" m "recipient_name")).ap
    (reports_requiredString "job_id" m "job_id")).ap
    (reports_requiredBool "is_success" m "is_success")).ap
    (reports_requiredString "status_text" m "status_text")).ap
    (reports_optionalString "submission_time" m "submission_time")).ap
    (reports_optionalString "completion_time" m "completion_time")).ap
    (reports_optionalString "execution_time" m "execution_time")).ap
    (reports_optionalString "error_message" m "error_message")).ap
    (reports_checkStages m)).ap
    (reports_checkLinks m)).ap
    (reports_checkBranding m)).ap
    (reports_requiredYear "current_year" m "current_year")
  refine (h.mono ?_).congr fun field problem => ⟨?_, ?_⟩
  · simp [pathOrder, leadingFields, yearField]
  · rintro ((((((((((((hnone | ⟨rfl, h⟩) | ⟨rfl, h⟩) | ⟨rfl, h⟩) | ⟨rfl, h⟩) | ⟨rfl, h⟩) | ⟨rfl, h⟩) |
      ⟨rfl, h⟩) | ⟨rfl, h⟩) | hstages) | hlinks) | ⟨v, hv, hnull, h⟩) | ⟨rfl, h⟩)
    · exact absurd hnone id
    iterate 8 exact .field (Or.inl (by simp [leadingFields])) h
    · rcases hstages with ⟨v, hv, hnull, htype, rfl, rfl⟩ | ⟨items, i, v, hitems, hv, h⟩
      · exact .stagesType hv hnull htype
      · exact .stage hitems hv h
    · rcases hlinks with ⟨habsent, rfl, rfl⟩ | ⟨v, hv, hnull, h⟩
      · exact .linksMissing habsent
      · exact .links hv hnull h
    · exact .branding hv hnull h
    · exact .field (Or.inr rfl) h
  · rintro (⟨hf, h⟩ | ⟨hv, hnull, htype⟩ | ⟨hitems, hv, h⟩ | habsent | ⟨hv, hnull, h⟩ | ⟨hv, hnull, h⟩)
    · simp only [leadingFields, yearField, List.mem_cons, List.not_mem_nil, or_false] at hf
      rcases hf with (rfl | rfl | rfl | rfl | rfl | rfl | rfl | rfl) | rfl <;> simp [h]
    · exact Or.inl (Or.inl (Or.inl (Or.inr (Or.inl ⟨_, hv, hnull, htype, rfl, rfl⟩))))
    · exact Or.inl (Or.inl (Or.inl (Or.inr (Or.inr ⟨_, _, _, hitems, hv, h⟩))))
    · exact Or.inl (Or.inl (Or.inr (Or.inl ⟨habsent, rfl, rfl⟩)))
    · exact Or.inl (Or.inl (Or.inr (Or.inr ⟨_, hv, hnull, h⟩)))
    · exact Or.inl (Or.inr ⟨_, hv, hnull, h⟩)

/-- A map ends as the report does to which its check adds all problems. -/
theorem finish_addTo_check (m : Members) :
    ((Context.check m).addTo .empty).finish = (Context.ofAttributes m).map fun _ => () :=
  (reports_check m).finish_addTo

/-- That report has a path exactly when the path offends. -/
theorem hasField_addTo_check (m : Members) (path : String) :
    ((Context.check m).addTo .empty).hasField path = true ↔ ∃ problem, Offends m path problem :=
  (reports_check m).hasField_addTo path

/-! ### All paths are different -/

theorem nodup_groupPaths {path : String} {fields : List Field}
    (h : (fields.map Field.key).Nodup) : (groupPaths path fields).Nodup := by
  rw [groupPaths, List.nodup_cons]
  constructor
  · intro hmem
    obtain ⟨f, -, hf⟩ := List.mem_map.mp hmem
    have hlength := congrArg String.length hf
    rw [String.length_append, String.length_append, show ".".length = 1 from rfl] at hlength
    omega
  · have hkeys : (fields.map fun f => path ++ "." ++ f.key)
        = (fields.map Field.key).map fun key => path ++ "." ++ key := by
      simp
    rw [hkeys]
    exact h.map fun a b hab => (String.append_right_inj _).mp hab

/-- What all paths of a stage begin with: its number, ended by a bracket. -/
theorem prefix_of_mem_stagePaths {index : Nat} {path : String}
    (h : path ∈ groupPaths (stagePath index) stageFields) :
    ∃ r, path.toList = "stages[".toList ++ ((Decimal.natText index).toList ++ ']' :: r) := by
  rcases List.mem_cons.mp h with rfl | h
  · exact ⟨[], by simp [stagePath]⟩
  · obtain ⟨f, -, rfl⟩ := List.mem_map.mp h
    exact ⟨'.' :: f.key.toList, by simp [stagePath]⟩

/-- The bracket is no digit, so the number can be read off. -/
theorem disjoint_stagePaths {i j : Nat} (h : i ≠ j) :
    List.Disjoint (groupPaths (stagePath i) stageFields) (groupPaths (stagePath j) stageFields) := by
  intro path hi hj
  obtain ⟨r, hr⟩ := prefix_of_mem_stagePaths hi
  obtain ⟨r', hr'⟩ := prefix_of_mem_stagePaths hj
  rw [hr] at hr'
  have hbracket (n : Nat) : ∀ c ∈ (Decimal.natText n).toList, (c == ']') = false := by
    intro c hc
    have hdigit := Decimal.isDigit_of_mem_natText hc
    cases hc' : c == ']' with
    | false => rfl
    | true =>
      rw [beq_iff_eq.mp hc'] at hdigit
      exact absurd hdigit (by decide)
  have hsplit := Text.Splits.value (hbracket i) (hbracket j) (t := [']']) ⟨']', by simp⟩
  have hnumeral := (hsplit r r' (by simpa using hr')).1
  exact h (Decimal.natText_inj.mp (String.toList_inj.mp hnumeral))

/-- All paths but those of the stages. -/
def fixedPaths : List String :=
  leadingFields.map Field.key ++
    "stages" :: (groupPaths "links" linkFields ++ groupPaths "branding" brandingFields ++
      [yearField.key])

/-- **All paths are different.** -/
theorem nodup_pathOrder (stages : Nat) : (pathOrder stages).Nodup := by
  have hperm : (pathOrder stages).Perm (fixedPaths ++
      (List.range stages).flatMap fun i => groupPaths (stagePath i) stageFields) := by
    simp only [pathOrder, fixedPaths, List.append_assoc, List.cons_append]
    refine (List.Perm.cons _ ?_).append_left _
    simp only [← List.append_assoc]
    rw [List.append_assoc, List.append_assoc]
    exact List.perm_append_comm
  rw [hperm.nodup_iff, List.nodup_append]
  refine ⟨by decide +kernel, ?_, ?_⟩
  · rw [List.nodup_flatMap]
    refine ⟨fun i _ => nodup_groupPaths (by decide), ?_⟩
    exact List.nodup_range.imp fun hij => disjoint_stagePaths hij
  · intro path hfixed path' hpath' heq
    subst heq
    obtain ⟨i, -, hi⟩ := List.mem_flatMap.mp hpath'
    obtain ⟨r, hr⟩ := prefix_of_mem_stagePaths hi
    have hno : ∀ path ∈ fixedPaths, ¬ "stages[".toList <+: path.toList := by decide +kernel
    exact hno path hfixed ⟨_, hr.symm⟩

/-! ### The outcome -/

/-- **Validation is sound and complete, and tells everything.** A map is accepted exactly when no
field offends, and then its context says what the map says. Otherwise the report holds every problem
that offends and no other, at most one for each path, in the order of the paths. -/
theorem ofAttributes_outcome (m : Members) :
    ((∃ c, Context.ofAttributes m = .ok c) ↔ ∀ path problem, ¬ Offends m path problem) ∧
    ((∃ c, Context.ofAttributes m = .ok c ∧ Describes m c) ∨
      ∃ r, Context.ofAttributes m = .error r ∧ r.problems ≠ [] ∧
        (∀ path problem, ⟨path, problem⟩ ∈ r.problems ↔ Offends m path problem) ∧
        r.fields.Sublist (pathOrder (stageCount m)) ∧ r.fields.Nodup) := by
  rcases (reports_check m).outcome with ⟨⟨c, hc⟩, hnone⟩ | ⟨r, hr, hne, hsublist, hmem⟩
  · exact ⟨⟨fun _ => hnone, fun _ => ⟨c, hc⟩⟩, Or.inl ⟨c, hc, ofAttributes_eq_ok.mp hc⟩⟩
  · constructor
    · constructor
      · rintro ⟨c, hc⟩
        rw [Context.ofAttributes, hr] at hc
        exact absurd hc (by simp)
      · intro hnone
        obtain ⟨p, hp⟩ := List.exists_mem_of_ne_nil _ hne
        exact absurd ((hmem p.field p.problem).mp hp) (hnone _ _)
    · exact Or.inr ⟨r, hr, hne, hmem, hsublist, hsublist.nodup (nodup_pathOrder _)⟩

end JobNotice.Notice
