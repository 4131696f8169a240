import JobNotice.Notice.Problem

/-!
# Checks that go on after a problem

A check gives a value or a report, and checks are put together so that each part is made whatever
became of the others. Two views of a check are kept apart here. From `finish` one sees what a check
accepts: a check made of parts accepts exactly when all its parts do. From `Reports` one sees what
it refuses: which problems it reports, for which paths, and in which order. The latter also says
that nothing is refused without a reason, without which an empty report could come out.

A check is also what becomes of one report to which all its parts add their problems in turn: that
report is `addTo .empty`, and the check refuses with it unless it is empty.

## Main definitions

* `Notice.Checked.Reports` — the problems that a check reports
* `Notice.Checked.addTo` — a report with the problems of a check added to it

## Main results

* `Notice.Checked.finish_ap`, `Notice.Checked.finish_bind` — what checks made of parts accept
* `Notice.Checked.Reports.ap` — what they report
* `Notice.Checked.Reports.outcome` — a value and no problem, or else the report of all problems
* `Notice.Checked.Reports.finish_addTo` — a check ends as the report does to which it adds
-/

namespace JobNotice.Notice.Checked

variable {α β : Type}

/-! ### Acceptance -/

theorem finish_eq_ok {x : Checked α} {a : α} :
    x.finish = .ok a ↔ x.value = some a ∧ x.problems = [] := by
  obtain ⟨value, problems⟩ := x
  cases value <;> cases problems <;> simp [finish]

theorem finish_eq_error {x : Checked α} (h : x.value = none ∨ x.problems ≠ []) :
    x.finish = .error ⟨x.problems⟩ := by
  obtain ⟨value, problems⟩ := x
  cases value <;> cases problems <;> simp [finish] at h ⊢

/-- A check that accepts is the value by itself. -/
theorem eq_pure_of_finish {x : Checked α} {a : α} (h : x.finish = .ok a) : x = pure a := by
  obtain ⟨value, problems⟩ := x
  obtain ⟨rfl, rfl⟩ := finish_eq_ok.mp h
  rfl

@[simp] theorem finish_pure {a b : α} : (pure a).finish = .ok b ↔ a = b := by
  simp [finish_eq_ok, pure]

@[simp] theorem finish_fail {field : String} {problem : Problem} {a : α} :
    (fail field problem : Checked α).finish ≠ .ok a := by
  simp [fail, finish]

@[simp] theorem pure_bind (a : α) (f : α → Checked β) : (pure a).bind f = f a := rfl

theorem finish_map {f : α → β} {x : Checked α} {b : β} :
    (x.map f).finish = .ok b ↔ ∃ a, x.finish = .ok a ∧ f a = b := by
  obtain ⟨value, problems⟩ := x
  cases value <;> simp [finish_eq_ok, map]
  grind

/-- A function and its argument are accepted together. -/
theorem finish_ap {f : Checked (α → β)} {x : Checked α} {b : β} :
    (f.ap x).finish = .ok b ↔ ∃ g a, f.finish = .ok g ∧ x.finish = .ok a ∧ g a = b := by
  obtain ⟨fvalue, fproblems⟩ := f
  obtain ⟨value, problems⟩ := x
  cases fvalue <;> cases value <;> simp [finish_eq_ok, ap]
  grind

theorem finish_bind {x : Checked α} {f : α → Checked β} {b : β} :
    (x.bind f).finish = .ok b ↔ ∃ a, x.finish = .ok a ∧ (f a).finish = .ok b := by
  obtain ⟨value, problems⟩ := x
  cases value <;> simp [finish_eq_ok, bind]
  grind

/-! ### Values -/

theorem value_ap {f : Checked (α → β)} {x : Checked α} {b : β} :
    (f.ap x).value = some b ↔ ∃ g a, f.value = some g ∧ x.value = some a ∧ g a = b := by
  rw [ap]
  cases f.value <;> cases x.value <;> simp

/-- An argument that makes no difference to the function. -/
theorem ap_pure_congr {f : Checked (α → β)} {a a' : α} (h : ∀ g, f.value = some g → g a = g a') :
    f.ap (pure a) = f.ap (pure a') := by
  rw [ap, ap]
  cases hf : f.value with
  | none => rfl
  | some g => simp only [pure, h g hf]

/-! ### Reports -/

/-- A check reports exactly the problems that `Wrong` tells of, at most one for each of the paths
and in their order, and it has a reason whenever it has no value. -/
structure Reports (x : Checked α) (paths : List String) (Wrong : String → Problem → Prop) :
    Prop where
  accounted : x.value = none → x.problems ≠ []
  mem_iff : ∀ field problem, ⟨field, problem⟩ ∈ x.problems ↔ Wrong field problem
  sublist : (x.problems.map FieldProblem.field).Sublist paths

namespace Reports

variable {x : Checked α} {paths paths' : List String} {Wrong Wrong' : String → Problem → Prop}

theorem congr (h : x.Reports paths Wrong)
    (heq : ∀ field problem, Wrong field problem ↔ Wrong' field problem) :
    x.Reports paths Wrong' :=
  ⟨h.accounted, fun field problem => (h.mem_iff field problem).trans (heq field problem),
    h.sublist⟩

theorem mono (h : x.Reports paths Wrong) (hpaths : paths.Sublist paths') :
    x.Reports paths' Wrong :=
  ⟨h.accounted, h.mem_iff, h.sublist.trans hpaths⟩

/-- A check that reports nothing. -/
theorem pure (a : α) (paths : List String) :
    (Checked.pure a).Reports paths fun _ _ => False where
  accounted := by simp [Checked.pure]
  mem_iff := by simp [Checked.pure]
  sublist := by simp [Checked.pure]

/-- A check that reports one problem, whether or not it has a value. -/
theorem one (value : Option α) (path : String) (why : Problem) :
    (⟨value, [⟨path, why⟩]⟩ : Checked α).Reports [path]
      fun field problem => field = path ∧ problem = why where
  accounted := by simp
  mem_iff := by simp
  sublist := by simp

theorem map (h : x.Reports paths Wrong) (f : α → β) : (x.map f).Reports paths Wrong where
  accounted := by simpa [Checked.map] using h.accounted
  mem_iff := h.mem_iff
  sublist := h.sublist

/-- A check that reports what another one does, and has a value whenever that one has. -/
theorem of_problems_eq {y : Checked β} (h : x.Reports paths Wrong)
    (hproblems : y.problems = x.problems) (hvalue : y.value = none → x.value = none) :
    y.Reports paths Wrong where
  accounted := fun hnone => hproblems ▸ h.accounted (hvalue hnone)
  mem_iff := hproblems ▸ h.mem_iff
  sublist := hproblems ▸ h.sublist

/-- The problems of the function come before those of the argument. -/
theorem ap {f : Checked (α → β)} (hf : f.Reports paths Wrong) (hx : x.Reports paths' Wrong') :
    (f.ap x).Reports (paths ++ paths')
      fun field problem => Wrong field problem ∨ Wrong' field problem where
  accounted := by
    intro hnone
    have hreason : f.value = none ∨ x.value = none := by
      cases hfv : f.value with
      | none => exact Or.inl rfl
      | some g =>
        cases hxv : x.value with
        | none => exact Or.inr rfl
        | some a => simp [Checked.ap, hfv, hxv] at hnone
    rcases hreason with h | h
    · simp [Checked.ap, hf.accounted h]
    · simp [Checked.ap, hx.accounted h]
  mem_iff := by
    intro field problem
    rw [← hf.mem_iff, ← hx.mem_iff]
    exact List.mem_append
  sublist := by
    rw [Checked.ap, List.map_append]
    exact hf.sublist.append hx.sublist

theorem exists_finish (h : x.Reports paths Wrong) (hnil : x.problems = []) :
    ∃ a, x.finish = .ok a := by
  obtain ⟨a, ha⟩ : ∃ a, x.value = some a :=
    Option.ne_none_iff_exists'.mp fun hnone => h.accounted hnone hnil
  exact ⟨a, finish_eq_ok.mpr ⟨ha, hnil⟩⟩

/-- **A check gives a value when nothing is wrong, and otherwise reports all that is wrong.** -/
theorem outcome (h : x.Reports paths Wrong) :
    ((∃ a, x.finish = .ok a) ∧ ∀ field problem, ¬ Wrong field problem) ∨
    ∃ r : Report, x.finish = .error r ∧ r.problems ≠ [] ∧ r.fields.Sublist paths ∧
      ∀ field problem, ⟨field, problem⟩ ∈ r.problems ↔ Wrong field problem := by
  by_cases hnil : x.problems = []
  · left
    refine ⟨h.exists_finish hnil, fun field problem hwrong => ?_⟩
    rw [← h.mem_iff, hnil] at hwrong
    simp at hwrong
  · right
    exact ⟨⟨x.problems⟩, finish_eq_error (Or.inr hnil), hnil, h.sublist, h.mem_iff⟩

end Reports

/-! ### One report for all parts -/

/-- A report with the problems of a check added to it, one after the other. -/
def addTo (x : Checked α) (r : Report) : Report :=
  x.problems.foldl (fun r p => r.add p.field p.problem) r

theorem addTo_eq (x : Checked α) (r : Report) : x.addTo r = ⟨r.problems ++ x.problems⟩ := by
  obtain ⟨value, problems⟩ := x
  simp only [addTo]
  induction problems generalizing r with
  | nil => simp
  | cons p problems ih =>
    rw [List.foldl_cons, ih, Report.add, List.append_assoc]
    rfl

@[simp] theorem addTo_pure (a : α) (r : Report) : (pure a).addTo r = r := rfl

@[simp] theorem addTo_fail (field : String) (problem : Problem) (r : Report) :
    (fail field problem : Checked α).addTo r = r.add field problem := rfl

theorem addTo_map (f : α → β) (x : Checked α) (r : Report) : (x.map f).addTo r = x.addTo r := rfl

/-- The parts of a check add to the same report, the function first. -/
theorem addTo_ap (f : Checked (α → β)) (x : Checked α) (r : Report) :
    (f.ap x).addTo r = x.addTo (f.addTo r) := by
  simp only [addTo, ap, List.foldl_append]

namespace Reports

variable {x : Checked α} {paths : List String} {Wrong : String → Problem → Prop}

/-- **A check ends as the report does to which it adds its problems.** -/
theorem finish_addTo (h : x.Reports paths Wrong) :
    (x.addTo .empty).finish = x.finish.map fun _ => () := by
  rw [addTo_eq, Report.empty, List.nil_append]
  by_cases hnil : x.problems = []
  · obtain ⟨a, ha⟩ := h.exists_finish hnil
    rw [ha, hnil]
    rfl
  · rw [finish_eq_error (Or.inr hnil), Report.finish, if_neg (by simpa [Report.isEmpty] using hnil)]
    rfl

/-- The report has the fields in which something is wrong. -/
theorem hasField_addTo (h : x.Reports paths Wrong) (field : String) :
    (x.addTo .empty).hasField field = true ↔ ∃ problem, Wrong field problem := by
  simp only [addTo_eq, Report.empty, List.nil_append, Report.hasField, List.any_eq_true,
    decide_eq_true_eq, ← h.mem_iff]
  constructor
  · rintro ⟨⟨field, problem⟩, hmem, rfl⟩
    exact ⟨problem, hmem⟩
  · rintro ⟨problem, hmem⟩
    exact ⟨⟨field, problem⟩, hmem, rfl⟩

end Reports

end JobNotice.Notice.Checked
