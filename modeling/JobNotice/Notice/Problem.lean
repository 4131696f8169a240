import JobNotice.Decimal.Shortest

/-!
# What is wrong with the attributes of a notification

Attributes are checked as a whole: every field that cannot be used is reported, in the order in
which the fields are looked at.

## Main definitions

* `Notice.Problem` — what is wrong with a field
* `Notice.FieldProblem`, `Notice.Report` — fields with their problems, in order
* `Notice.Checked` — a value together with the problems found on the way to it
-/

namespace JobNotice.Notice

/-- What is wrong with a field. -/
inductive Problem
  /-- A required field is absent or null. -/
  | missing
  /-- A required string is blank. -/
  | empty
  | wrongType (expected : String)
  /-- The type is right, but the value cannot be used. -/
  | malformed (reason : String)
  deriving DecidableEq

def Problem.message : Problem → String
  | .missing => "is required"
  | .empty => "must not be empty"
  | .wrongType expected => "must be " ++ expected
  | .malformed reason => reason

/-- A problem with the path of its field, such as `links.docs_url` or `stages[1].image_tag`. -/
structure FieldProblem where
  field : String
  problem : Problem
  deriving DecidableEq

def FieldProblem.message (p : FieldProblem) : String := p.field ++ " " ++ p.problem.message

/-- Problems in the order in which they were found. -/
structure Report where
  problems : List FieldProblem
  deriving DecidableEq

namespace Report

def empty : Report := ⟨[]⟩

def add (r : Report) (field : String) (problem : Problem) : Report :=
  ⟨r.problems ++ [⟨field, problem⟩]⟩

def isEmpty (r : Report) : Bool := r.problems.isEmpty

/-- A report without problems is none. -/
def finish (r : Report) : Except Report Unit := if r.isEmpty then .ok () else .error r

/-- The fields with problems. -/
def fields (r : Report) : List String := r.problems.map FieldProblem.field

def hasField (r : Report) (field : String) : Bool := r.problems.any fun p => p.field = field

def message (r : Report) : String :=
  "invalid notification input: " ++ "; ".intercalate (r.problems.map FieldProblem.message)

end Report

/-! ### Checks that go on after a problem -/

/-- A value, if it could be had, and the problems found on the way. -/
structure Checked (α : Type) where
  value : Option α
  problems : List FieldProblem

namespace Checked

variable {α β : Type}

def pure (a : α) : Checked α := ⟨some a, []⟩

/-- No value, for one problem. -/
def fail (field : String) (problem : Problem) : Checked α := ⟨none, [⟨field, problem⟩]⟩

/-- A check of the value, if there is one. -/
def bind (x : Checked α) (f : α → Checked β) : Checked β :=
  match x.value with
  | none => ⟨none, x.problems⟩
  | some a => ⟨(f a).value, x.problems ++ (f a).problems⟩

def map (f : α → β) (x : Checked α) : Checked β := ⟨x.value.map f, x.problems⟩

/-- A function and its argument, each checked whatever became of the other. -/
def ap (f : Checked (α → β)) (x : Checked α) : Checked β :=
  ⟨match f.value, x.value with
    | some g, some a => some (g a)
    | _, _ => none, f.problems ++ x.problems⟩

/-- The value when nothing is wrong, else the report. -/
def finish (x : Checked α) : Except Report α :=
  match x.value, x.problems with
  | some a, [] => .ok a
  | _, problems => .error ⟨problems⟩

end Checked

end JobNotice.Notice
