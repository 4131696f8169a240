import JobNotice.Layout.Expr
import JobNotice.Text.Digits

/-!
# Reading expressions

The grammar is one of ordered choice: the first alternative that fits at a place is taken, and a
repetition goes on as long as it can. White space may stand between any two tokens, not within
one. Each reader gives what it read and the rest of the text, or nothing if it does not fit.

The words `true`, `false`, `is`, `in` and `not` after `is` are recognised by their letters alone,
whatever follows them; `and`, `or` and `not` before a value have to be followed by white space.

Calls of macros, a namespace and two colons before the name, are no expressions here.

## Main definitions

* `Layout.readLogic` — an expression of the whole grammar
* `Layout.readOperand` — a value of arithmetic with its filters
* `Layout.readArray` — an array with its filters
* `Layout.readIdent`, `Layout.readString` — names and texts
-/

namespace JobNotice.Layout

open Decimal (Binary64)

/-! ### Tokens -/

def isSpace (c : Char) : Bool := c = ' ' || c = '\t' || c = '\r' || c = '\n'

def skipSpace (s : List Char) : List Char := s.dropWhile isSpace

/-- A literal text at the head. -/
def readLit : List Char → List Char → Option (List Char)
  | [], s => some s
  | _ :: _, [] => none
  | e :: es, c :: s => if c = e then readLit es s else none

/-- A literal text after white space. -/
def readSym (lit s : List Char) : Option (List Char) := readLit lit (skipSpace s)

def isNameStart (c : Char) : Bool := c.isAlpha || c = '_'

def isNameChar (c : Char) : Bool := c.isAlphanum || c = '_'

/-- A name. -/
def readIdent (s : List Char) : Option (String × List Char) :=
  match s with
  | [] => none
  | c :: _ =>
    if isNameStart c then
      some (String.ofList (s.takeWhile isNameChar), s.dropWhile isNameChar)
    else none

/-- A text in quotes of one of three kinds, in which only its own quote cannot stand. -/
def readString (s : List Char) : Option (String × List Char) :=
  match s with
  | [] => none
  | q :: r =>
    if q = '"' ∨ q = '\'' ∨ q.toNat = 0x60 then
      match r.dropWhile (· != q) with
      | [] => none
      | _ :: rest => some (String.ofList (r.takeWhile (· != q)), rest)
    else none

/-- The digits of a whole number: a zero, or digits that do not begin with one. -/
def readWholeDigits (s : List Char) : Option (List Char × List Char) :=
  match s with
  | [] => none
  | c :: r =>
    if c = '0' then some (['0'], r)
    else if c.isDigit then some (s.takeWhile Char.isDigit, s.dropWhile Char.isDigit)
    else none

/-- Whether a number is negative, and what follows its sign. -/
def readSign : List Char → Bool × List Char
  | '-' :: r => (true, r)
  | s => (false, s)

/-- A number without a point, within 64 bits. -/
def readInt (s : List Char) : Option (Term × List Char) := do
  let (negative, r) := readSign s
  let (ds, r) ← readWholeDigits r
  let n : Int := if negative then -(Text.digitsNat 10 ds : Int) else Text.digitsNat 10 ds
  if -9223372036854775808 ≤ n ∧ n ≤ 9223372036854775807 then some (.int n, r) else none

/-- A number with a point and digits on both sides. -/
def readReal (s : List Char) : Option (Term × List Char) := do
  let (negative, r) := readSign s
  let (ds, r) ← readWholeDigits r
  match r with
  | '.' :: r =>
    let fs := r.takeWhile Char.isDigit
    if fs.isEmpty then none
    else
      some (.real (Binary64.ofDecimal negative (Text.digitsNat 10 (ds ++ fs)) (-(fs.length : Int))),
        r.dropWhile Char.isDigit)
  | _ => none

/-- `true` or `false`, the first letter possibly a capital. -/
def readBool (s : List Char) : Option (Term × List Char) :=
  let word (lower upper : String) (b : Bool) : Option (Term × List Char) :=
    ((readLit lower.toList s).orElse fun _ => readLit upper.toList s).map (Term.bool b, ·)
  (word "true" "True" true).orElse fun _ => word "false" "False" false

/-! ### Paths -/

/-- Further parts of a path after dots. -/
def readDots : Nat → List Char → List Char × List Char
  | 0, s => ([], s)
  | fuel + 1, s =>
    match s with
    | '.' :: c :: r =>
      if isNameChar c then
        let part := (c :: r).takeWhile isNameChar
        let (more, rest) := readDots fuel ((c :: r).dropWhile isNameChar)
        ('.' :: part ++ more, rest)
      else ([], s)
    | _ => ([], s)

/-- What two readers took off a text. -/
def consumed (s rest : List Char) : List Char := s.take (s.length - rest.length)

mutual

/-- A name with dots and brackets, as it is written. -/
def readPath : Nat → List Char → Option (List Char × List Char)
  | 0, _ => none
  | fuel + 1, s =>
    match readIdent s with
    | none => none
    | some (name, r) =>
      let (dots, r) := readDots r.length r
      let (more, r) := readPathTail fuel r
      some (name.toList ++ dots ++ more, r)

/-- Parts of a path after dots and in brackets. -/
def readPathTail : Nat → List Char → List Char × List Char
  | 0, s => ([], s)
  | fuel + 1, s =>
    match readDots 1 s with
    | ([], _) =>
      match s with
      | '[' :: r =>
        match readIndex fuel r with
        | some (index, ']' :: r) =>
          let (more, rest) := readPathTail fuel r
          ('[' :: index ++ ']' :: more, rest)
        | _ => ([], s)
      | _ => ([], s)
    | (part, r) =>
      let (more, rest) := readPathTail fuel r
      (part ++ more, rest)

/-- What may stand between brackets: a whole number, a text or a path. -/
def readIndex : Nat → List Char → Option (List Char × List Char)
  | 0, _ => none
  | fuel + 1, s =>
    match readInt s with
    | some (_, r) => some (consumed s r, r)
    | none =>
      match readString s with
      | some (_, r) => some (consumed s r, r)
      | none => readPath fuel s

end

/-! ### Operators -/

def readMathOp (s : List Char) : Option (MathOp × List Char) :=
  match skipSpace s with
  | '+' :: r => some (.add, r)
  | '-' :: r => some (.sub, r)
  | '*' :: r => some (.mul, r)
  | '/' :: r => some (.div, r)
  | '%' :: r => some (.mod, r)
  | _ => none

def readComparison (s : List Char) : Option (Comparison × List Char) :=
  match skipSpace s with
  | '<' :: '=' :: r => some (.le, r)
  | '>' :: '=' :: r => some (.ge, r)
  | '<' :: r => some (.lt, r)
  | '>' :: r => some (.gt, r)
  | '=' :: '=' :: r => some (.eq, r)
  | '!' :: '=' :: r => some (.ne, r)
  | _ => none

/-- A word that must be followed by white space. -/
def readWord (word s : List Char) : Option (List Char) :=
  match readLit word s with
  | some (c :: r) => if isSpace c then some r else none
  | _ => none

def readConnective (s : List Char) : Option (Connective × List Char) :=
  let s := skipSpace s
  ((readWord "or".toList s).map (Connective.or, ·)).orElse fun _ =>
    (readWord "and".toList s).map (Connective.and, ·)

/-- Joins a first term and further ones, products before sums and otherwise from the left. The
sum so far waits in `sum` while a product grows. -/
def joinMath {α : Type} (join : MathOp → α → α → α) (sum : Option (α × MathOp)) (x : α) :
    List (MathOp × α) → α
  | [] =>
    match sum with
    | none => x
    | some (y, op) => join op y x
  | (op, y) :: rest =>
    if op.isProduct then joinMath join sum (join op x y) rest
    else
      let total := match sum with
        | none => x
        | some (z, o) => join o z x
      joinMath join (some (total, op)) y rest

/-- Joins a first condition and further ones, conjunctions before disjunctions. -/
def joinLogic (either : Option Expr) (x : Expr) : List (Connective × Expr) → Expr
  | [] =>
    match either with
    | none => x
    | some y => .ofTerm (.connect .or y x)
  | (.and, y) :: rest => joinLogic either (.ofTerm (.connect .and x y)) rest
  | (.or, y) :: rest =>
    let total := match either with
      | none => x
      | some z => Expr.ofTerm (.connect .or z x)
    joinLogic (some total) y rest

/-! ### Parts of a joined text -/

/-- Joins neighbouring texts; a joined text of texts alone is a text. -/
def joinTexts : List Term → List Term
  | [] => []
  | .string a :: rest =>
    match joinTexts rest with
    | .string b :: more => .string (a ++ b) :: more
    | more => .string a :: more
  | t :: rest => t :: joinTexts rest

def concatTerm (parts : List Term) : Term :=
  match joinTexts parts with
  | [.string s] => .string s
  | parts => .concat (parts.filter fun
    | .string s => !s.isEmpty
    | _ => true)

/-! ### The grammar -/

mutual

/-- A disjunction of conjunctions. -/
def readLogic : Nat → List Char → Option (Expr × List Char)
  | 0, _ => none
  | fuel + 1, s => do
    let (x, r) ← readCondition fuel s
    let (rest, r) := readConditions fuel r
    some (joinLogic none x rest, r)

/-- Further conditions after connectives. -/
def readConditions : Nat → List Char → List (Connective × Expr) × List Char
  | 0, s => ([], s)
  | fuel + 1, s =>
    match readConnective s with
    | none => ([], s)
    | some (op, r) =>
      match readCondition fuel (skipSpace r) with
      | none => ([], s)
      | some (x, r) =>
        let (rest, r) := readConditions fuel r
        ((op, x) :: rest, r)

/-- A condition, negated or not, or a disjunction in parentheses. -/
def readCondition : Nat → List Char → Option (Expr × List Char)
  | 0, _ => none
  | fuel + 1, s =>
    let (negated, r) := match readWord "not".toList s with
      | some r => (true, skipSpace r)
      | none => (false, s)
    match (readMembership fuel r).orElse fun _ => readComparisonExpr fuel r with
    | some (x, r) => some (x.withNegation negated, r)
    | none => do
      let r ← readLit ['('] s
      let (x, r) ← readLogic fuel (skipSpace r)
      let r ← readSym [')'] r
      some (x.withNegation false, r)

/-- Whether a value is within another. -/
def readMembership : Nat → List Char → Option (Expr × List Char)
  | 0, _ => none
  | fuel + 1, s => do
    let (item, r) ← (readText fuel s).orElse fun _ => readOperand fuel s
    let (negated, r) := match readWord "not".toList (skipSpace r) with
      | some r => (true, r)
      | none => (false, r)
    let r ← readSym "in".toList r
    let r := skipSpace r
    let (container, r) ← ((readText fuel r).orElse fun _ => readArray fuel r).orElse fun _ =>
      (readPath fuel r).map fun (p, r) => (Expr.ofTerm (.path (String.ofList p)), r)
    some (.ofTerm (.membership negated item container), r)

/-- A comparison, or a value alone. -/
def readComparisonExpr : Nat → List Char → Option (Expr × List Char)
  | 0, _ => none
  | fuel + 1, s => do
    let (x, r) ← (readText fuel s).orElse fun _ => readSum fuel s
    match readComparison r with
    | none => some (x, r)
    | some (op, after) =>
      let after := skipSpace after
      match (readText fuel after).orElse fun _ => readSum fuel after with
      | none => some (x, r)
      | some (y, r) => some (.ofTerm (.compare op x y), r)

/-- Arithmetic on values with filters. -/
def readSum : Nat → List Char → Option (Expr × List Char)
  | 0, _ => none
  | fuel + 1, s => do
    let (x, r) ← readOperand fuel s
    let (rest, r) := readOperands fuel r
    some (joinMath (fun op a b => .ofTerm (.math op a b)) none x rest, r)

/-- Further values with filters after operators. -/
def readOperands : Nat → List Char → List (MathOp × Expr) × List Char
  | 0, s => ([], s)
  | fuel + 1, s =>
    match readMathOp s with
    | none => ([], s)
    | some (op, r) =>
      match readOperand fuel (skipSpace r) with
      | none => ([], s)
      | some (x, r) =>
        let (rest, r) := readOperands fuel r
        ((op, x) :: rest, r)

/-- Arithmetic without filters inside, and filters of its result. -/
def readOperand : Nat → List Char → Option (Expr × List Char)
  | 0, _ => none
  | fuel + 1, s => do
    let (t, r) ← readArithmetic fuel s
    let (filters, r) := readFilters fuel r
    some (.mk t false filters, r)

/-- Arithmetic on simple values and parentheses. -/
def readArithmetic : Nat → List Char → Option (Term × List Char)
  | 0, _ => none
  | fuel + 1, s => do
    let (t, r) ← readFactor fuel s
    let (rest, r) := readFactors fuel r
    some (joinMath (fun op a b => .math op (.ofTerm a) (.ofTerm b)) none t rest, r)

/-- Further simple values after operators. -/
def readFactors : Nat → List Char → List (MathOp × Term) × List Char
  | 0, s => ([], s)
  | fuel + 1, s =>
    match readMathOp s with
    | none => ([], s)
    | some (op, r) =>
      match readFactor fuel (skipSpace r) with
      | none => ([], s)
      | some (t, r) =>
        let (rest, r) := readFactors fuel r
        ((op, t) :: rest, r)

/-- A simple value or arithmetic in parentheses. -/
def readFactor : Nat → List Char → Option (Term × List Char)
  | 0, _ => none
  | fuel + 1, s =>
    match readLit ['('] s with
    | some r => do
      let (t, r) ← readArithmetic fuel (skipSpace r)
      let r ← readSym [')'] r
      some (t, r)
    | none =>
      (readBool s).orElse fun _ => (readTest fuel s).orElse fun _ =>
        ((readCall fuel s).map fun (c, r) => (Term.call c, r)).orElse fun _ =>
          ((readPath fuel s).map fun (p, r) => (Term.path (String.ofList p), r)).orElse fun _ =>
            (readReal s).orElse fun _ => readInt s

/-- A test of a name. -/
def readTest : Nat → List Char → Option (Term × List Char)
  | 0, _ => none
  | fuel + 1, s => do
    let (name, r) ← readPath fuel s
    let r ← readSym "is".toList r
    let negative : Option (Term × List Char) := do
      let r ← readSym "not".toList r
      let (test, args, r) ← readTestCall fuel (skipSpace r)
      some (.test (String.ofList name) true test args, r)
    negative.orElse fun _ => do
      let (test, args, r) ← readTestCall fuel (skipSpace r)
      some (.test (String.ofList name) false test args, r)

/-- The name of a test and its arguments. -/
def readTestCall : Nat → List Char → Option (String × List Expr × List Char)
  | 0, _ => none
  | fuel + 1, s => do
    let (name, r) ← readIdent s
    let args : Option (List Expr × List Char) := do
      let r ← readSym ['('] r
      let (x, r) ← readArg fuel (skipSpace r)
      let (xs, r) := readArgs fuel r
      let r ← readSym [')'] r
      some (x :: xs, r)
    match args with
    | some (xs, r) => some (name, xs, r)
    | none => some (name, [], r)

/-- An argument: an expression or an array. -/
def readArg : Nat → List Char → Option (Expr × List Char)
  | 0, _ => none
  | fuel + 1, s => (readLogic fuel s).orElse fun _ => readArray fuel s

/-- Further arguments after commas. -/
def readArgs : Nat → List Char → List Expr × List Char
  | 0, s => ([], s)
  | fuel + 1, s =>
    match readSym [','] s with
    | none => ([], s)
    | some r =>
      match readArg fuel (skipSpace r) with
      | none => ([], s)
      | some (x, r) =>
        let (xs, r) := readArgs fuel r
        (x :: xs, r)

/-- A function with named arguments in parentheses. -/
def readCall : Nat → List Char → Option (Call × List Char)
  | 0, _ => none
  | fuel + 1, s => do
    let (name, r) ← readIdent s
    let r ← readSym ['('] r
    let (args, r) := match readNamed fuel (skipSpace r) with
      | none => ([], r)
      | some (arg, r) =>
        let (args, r) := readNameds fuel r
        (arg :: args, (readSym [','] r).getD r)
    let r ← readSym [')'] r
    some (.mk name args, r)

/-- A named argument. -/
def readNamed : Nat → List Char → Option ((String × Expr) × List Char)
  | 0, _ => none
  | fuel + 1, s => do
    let (name, r) ← readIdent s
    let r ← readSym ['='] r
    let (x, r) ← readArg fuel (skipSpace r)
    some ((name, x), r)

/-- Further named arguments after commas. -/
def readNameds : Nat → List Char → List (String × Expr) × List Char
  | 0, s => ([], s)
  | fuel + 1, s =>
    match readSym [','] s with
    | none => ([], s)
    | some r =>
      match readNamed fuel (skipSpace r) with
      | none => ([], s)
      | some (arg, r) =>
        let (args, r) := readNameds fuel r
        (arg :: args, r)

/-- Filters after vertical bars. -/
def readFilters : Nat → List Char → List Call × List Char
  | 0, s => ([], s)
  | fuel + 1, s =>
    match readSym ['|'] s with
    | none => ([], s)
    | some r =>
      let r := skipSpace r
      let call := (readCall fuel r).orElse fun _ =>
        (readIdent r).map fun (name, r) => (Call.mk name [], r)
      match call with
      | none => ([], s)
      | some (c, r) =>
        let (cs, r) := readFilters fuel r
        (c :: cs, r)

/-- A text, joined or not, with filters. -/
def readText : Nat → List Char → Option (Expr × List Char)
  | 0, _ => none
  | fuel + 1, s => do
    let (t, r) ← (readConcat fuel s).orElse fun _ =>
      (readString s).map fun (t, r) => (Term.string t, r)
    let (filters, r) := readFilters fuel r
    some (.mk t false filters, r)

/-- At least two parts joined with `~`. -/
def readConcat : Nat → List Char → Option (Term × List Char)
  | 0, _ => none
  | fuel + 1, s => do
    let (x, r) ← readConcatPart fuel s
    match readConcatParts fuel r with
    | ([], _) => none
    | (xs, r) => some (concatTerm (x :: xs), r)

/-- Further parts after `~`. -/
def readConcatParts : Nat → List Char → List Term × List Char
  | 0, s => ([], s)
  | fuel + 1, s =>
    match readSym ['~'] s with
    | none => ([], s)
    | some r =>
      match readConcatPart fuel (skipSpace r) with
      | none => ([], s)
      | some (x, r) =>
        let (xs, r) := readConcatParts fuel r
        (x :: xs, r)

/-- A part of a joined text. -/
def readConcatPart : Nat → List Char → Option (Term × List Char)
  | 0, _ => none
  | fuel + 1, s =>
    ((readCall fuel s).map fun (c, r) => (Term.call c, r)).orElse fun _ =>
      (readReal s).orElse fun _ => (readInt s).orElse fun _ =>
        ((readString s).map fun (t, r) => (Term.string t, r)).orElse fun _ =>
          (readPath fuel s).map fun (p, r) => (Term.path (String.ofList p), r)

/-- An array with filters; a comma may follow its last item. -/
def readArray : Nat → List Char → Option (Expr × List Char)
  | 0, _ => none
  | fuel + 1, s => do
    let r ← readLit ['['] s
    let (items, r) := readItems fuel r
    let r ← readSym [']'] r
    let (filters, r) := readFilters fuel r
    some (.mk (.array items) false filters, r)

/-- Items of an array, all but the last followed by commas. -/
def readItems : Nat → List Char → List Expr × List Char
  | 0, s => ([], s)
  | fuel + 1, s =>
    match readCondition fuel (skipSpace s) with
    | none => ([], s)
    | some (x, r) =>
      match readSym [','] r with
      | none => ([x], r)
      | some r =>
        let (xs, r) := readItems fuel r
        (x :: xs, r)

end

/-- Steps that suffice to read an expression of a given length. -/
def stepsFor (length : Nat) : Nat := 16 * length + 32

end JobNotice.Layout
