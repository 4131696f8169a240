import JobNotice.Decimal.Binary64

/-!
# Expressions of layouts

An expression is a term, filters that are applied to its value in turn, and possibly a negation.

## Main definitions

* `Layout.Expr`, `Layout.Term`, `Layout.Call`
* `Layout.MathOp`, `Layout.Comparison`, `Layout.Connective` — the operators
-/

namespace JobNotice.Layout

open Decimal (Binary64)

inductive MathOp
  | add
  | sub
  | mul
  | div
  | mod
  deriving DecidableEq

/-- Products bind tighter than sums. -/
def MathOp.isProduct : MathOp → Bool
  | .mul | .div | .mod => true
  | .add | .sub => false

inductive Comparison
  | eq
  | ne
  | lt
  | le
  | gt
  | ge
  deriving DecidableEq

/-- The conjunction binds tighter than the disjunction. -/
inductive Connective
  | and
  | or
  deriving DecidableEq

mutual

/-- A term with its filters, negated or not. -/
inductive Expr
  | mk (term : Term) (negated : Bool) (filters : List Call)

inductive Term
  | int (n : Int)
  | real (x : Binary64)
  | string (s : String)
  | bool (b : Bool)
  /-- A name, with dots and brackets when it leads into a value. -/
  | path (name : String)
  | array (items : List Expr)
  /-- Texts, numbers, names and calls joined with `~`. -/
  | concat (parts : List Term)
  | call (call : Call)
  | math (op : MathOp) (lhs rhs : Expr)
  | compare (op : Comparison) (lhs rhs : Expr)
  | connect (op : Connective) (lhs rhs : Expr)
  | membership (negated : Bool) (item container : Expr)
  /-- A test of what a name stands for. -/
  | test (name : String) (negated : Bool) (test : String) (args : List Expr)

/-- A function or filter with its named arguments. -/
inductive Call
  | mk (name : String) (args : List (String × Expr))

end

namespace Call

def name : Call → String
  | .mk name _ => name

def args : Call → List (String × Expr)
  | .mk _ args => args

end Call

namespace Expr

def term : Expr → Term
  | .mk t _ _ => t

def negated : Expr → Bool
  | .mk _ n _ => n

def filters : Expr → List Call
  | .mk _ _ fs => fs

/-- A term alone. -/
def ofTerm (t : Term) : Expr := .mk t false []

/-- The expression with its negation set. -/
def withNegation (e : Expr) (negated : Bool) : Expr := .mk e.term negated e.filters

end Expr

instance : Inhabited Term := ⟨.bool false⟩

instance : Inhabited Expr := ⟨.ofTerm (.bool false)⟩

end JobNotice.Layout
