import JobNotice.Layout.Filter
import JobNotice.Layout.Scope
import JobNotice.Layout.Source

/-!
# Filling layouts

The text of a layout is kept and its tags are replaced by what they print. A name that stands for
nothing stops the filling where it is printed; as a condition it counts as false. Values are
printed as they are and never read as layouts.

## Main definitions

* `Layout.evalExpr`, `Layout.evalBool` — values and conditions
* `Layout.fillNodes` — what nodes print
-/

namespace JobNotice.Layout

open Json (Value Number)

/-! ### Names -/

/-- A path without brackets. -/
def lookUp (s : Scope) (name : String) : Except Failure Value :=
  match s.find name with
  | some v => .ok v
  | none => .error (.unknownName name s.layout)

/-- The name that shows all values there are. -/
def dumpName : String := "__tera_context"

/-- A part of a path with brackets as it is looked up: what stands in brackets is written after a
dot, names in brackets by what they stand for. -/
def bracketParts (s : Scope) (path : String) : Nat → List Char → Except Failure (List Char)
  | 0, _ => .ok []
  | _ + 1, [] => .ok []
  | fuel + 1, '[' :: r =>
    let inside := r.takeWhile (· != ']')
    let rest := r.drop (inside.length + 1)
    let part : Except Failure (List Char) :=
      match inside with
      | [] => .ok []
      | c :: more =>
        if c = '"' ∨ c.toNat = 0x27 then .ok ('"' :: (more.dropLast ++ ['"']))
        else if (c :: more).all Char.isDigit then .ok (c :: more)
        else
          match lookUp s (String.ofList inside) with
          | .error e => .error (.indexFailed path e)
          | .ok (.string t) => .ok ('"' :: (t.toList ++ ['"']))
          | .ok (.number n) => .ok n.text.toList
          | .ok _ => .error (.unusableIndex (String.ofList inside) path)
    match part with
    | .error e => .error e
    | .ok p => (bracketParts s path fuel rest).map fun t => '.' :: (p ++ t)
  | fuel + 1, c :: r => (bracketParts s path fuel r).map (c :: ·)

/-- The parts of an evaluated path, quotes around a part taken off. -/
def unquoted (path : List Char) : String := String.ofList (path.filter (· != '"'))

/-- What a path stands for. -/
def lookUpPath (s : Scope) (path : String) : Except Failure Value :=
  if path = dumpName then .ok (.string (Value.object s.members).indented)
  else if path.toList.contains '[' then
    match bracketParts s path path.length path.toList with
    | .error e => .error e
    | .ok evaluated =>
      match s.find (unquoted evaluated) with
      | some v => .ok v
      | none => .error (.badIndex path s.layout (String.ofList evaluated))
  else lookUp s path

/-! ### Expressions -/

/-- A misuse as a failure with the filter, test or function in which it happened. -/
def wrapMisuse {α : Type} (wrap : Failure → Failure) : Except Misuse α → Except Failure α
  | .ok a => .ok a
  | .error m => .error (wrap (.misuse m))

/-- A failure within arguments. -/
def wrapFailure {α : Type} (wrap : Failure → Failure) : Except Failure α → Except Failure α
  | .ok a => .ok a
  | .error e => .error (wrap e)

/-- Whether the first filter gives a value to names that stand for nothing. -/
def hasDefault : List Call → Bool
  | c :: _ => c.name == "default"
  | [] => false

/-- Filters that do not change values. -/
def isMarker (name : String) : Bool := name = "safe" || name = "default"

/-- A number when a value is one. -/
def asNumber : Value → Option Number
  | .number n => some n
  | _ => none

/-- What a string or number contributes to a joined text. -/
def joined : Value → Option (List Char)
  | .string t => some t.toList
  | .number n => some n.text.toList
  | _ => none

/-- The parts of a joined text as a message shows them. -/
def partsShown (parts : List Term) : String :=
  " ~ ".intercalate (parts.map fun
    | .string s => "'" ++ s ++ "'"
    | .path p => p
    | _ => "unknown")

/-- The value of a term. A number is neither equal nor unequal to anything but numbers, and
negation does not change that: then the value is `settled`. -/
structure TermValue where
  value : Value
  settled : Bool

def TermValue.ofBool (b : Bool) : TermValue := ⟨.bool b, false⟩

/-- A condition's truth under a possible negation. -/
def TermValue.holds (v : TermValue) (negated : Bool) : Bool :=
  if v.settled then isTruthy v.value else isTruthy v.value != negated

/-- A comparison of values for equality. -/
def decideEqual (equal : Bool) (a b : Value) : TermValue :=
  match asNumber a, asNumber b with
  | some x, some y => .ofBool (((toReal x).compare? (toReal y) == some .eq) == equal)
  | none, none => .ofBool (sameValue a b == equal)
  | _, _ => ⟨.bool false, true⟩

/-- A comparison of numbers for order. -/
def decideOrder (op : Comparison) : Option Number → Option Number → Except Failure TermValue
  | some x, some y => .ok (.ofBool (op.holds (toReal x) (toReal y)))
  | _, _ => .error .incomparable

/-- Whether a value is within a container. -/
def decideWithin (item container : Value) : Except Failure Bool :=
  match container, item with
  | .array items, v => .ok (items.any (sameValue v))
  | .string s, .string t => .ok (Text.isInfix t.toList s.toList)
  | .string _, v => .error (.notInString (shown v))
  | _, _ => .error .noMembership

/-- The result of an operation; none when it is not a number. -/
def computeMath (op : MathOp) (lhs rhs : Expr) :
    Option Number → Option Number → Except Failure (Option Number)
  | some x, some y => compute op (exprShown lhs) (exprShown rhs) x y
  | _, _ => .ok none

/-- Whether a term is a condition made of others, the negation of which is already counted when
its truth is asked for. -/
def isCondition : Term → Bool
  | .connect .. | .compare .. => true
  | _ => false

mutual

/-- The value of an expression. -/
def evalExpr (s : Scope) : Expr → Except Failure Value
  | .mk (.path name) negated filters =>
    match lookUpPath s name with
    | .ok v =>
      if v.isNull && hasDefault filters then do
        let v ← evalDefault s filters
        evalFiltered s negated v filters
      else evalFiltered s negated v filters
    | .error e =>
      if hasDefault filters then do
        let v ← evalDefault s filters
        evalFiltered s negated v filters
      else if negated then .ok (.bool true)
      else .error e
  | .mk term negated filters => do
    let v ← evalTerm s term
    evalFiltered s negated (if isCondition term then .bool (v.holds negated) else v.value) filters

/-- Filters one after the other, and then the negation. -/
def evalFiltered (s : Scope) (negated : Bool) (v : Value) : List Call → Except Failure Value
  | [] => .ok (if negated then .bool (!isTruthy v) else v)
  | .mk name args :: rest =>
    if isMarker name then evalFiltered s negated v rest
    else
      match applyFilter name v [] with
      | none => .error (.unknownFilter name)
      | some _ => do
        let args ← wrapFailure (.filterFailed name) (evalNamed s args)
        match applyFilter name v args with
        | none => .error (.unknownFilter name)
        | some result => do
          let w ← wrapMisuse (.filterFailed name) result
          evalFiltered s negated w rest

/-- The value that the first filter gives to names that stand for nothing. -/
def evalDefault (s : Scope) : List Call → Except Failure Value
  | .mk _ args :: _ => evalDefaultArg s args
  | [] => .error .defaultWithoutValue

def evalDefaultArg (s : Scope) : List (String × Expr) → Except Failure Value
  | [] => .error .defaultWithoutValue
  | (name, e) :: rest => if name = "value" then evalExpr s e else evalDefaultArg s rest

/-- Named arguments. -/
def evalNamed (s : Scope) : List (String × Expr) → Except Failure Args
  | [] => .ok []
  | (name, e) :: rest => do
    let v ← evalExpr s e
    let vs ← evalNamed s rest
    .ok ((name, v) :: vs)

def evalList (s : Scope) : List Expr → Except Failure (List Value)
  | [] => .ok []
  | e :: rest => do
    let v ← evalExpr s e
    let vs ← evalList s rest
    .ok (v :: vs)

/-- The value of a function. -/
def evalCall (s : Scope) : Call → Except Failure Value
  | .mk name args =>
    match applyFunction s.environment name [] with
    | none => .error (.unknownFunction name)
    | some _ => do
      let args ← wrapFailure (.functionFailed name) (evalNamed s args)
      match applyFunction s.environment name args with
      | none => .error (.unknownFunction name)
      | some result => wrapMisuse (.functionFailed name) result

/-- The value of a term without filters. -/
def evalTerm (s : Scope) : Term → Except Failure TermValue
  | .int n => .ok ⟨.number (.whole n), false⟩
  | .real x => .ok ⟨.number (.real x), false⟩
  | .string t => .ok ⟨.string t, false⟩
  | .bool b => .ok ⟨.bool b, false⟩
  | .path name => (lookUpPath s name).map (⟨·, false⟩)
  | .array items => (evalList s items).map fun vs => ⟨.array vs, false⟩
  | .concat parts => (evalParts s parts).map fun cs => ⟨.string (String.ofList cs), false⟩
  | .call c => (evalCall s c).map (⟨·, false⟩)
  | .math op lhs rhs => do
    let x ← evalNumber s lhs
    let y ← evalNumber s rhs
    match ← computeMath op lhs rhs x y with
    | some n => .ok ⟨.number n, false⟩
    | none => .ok ⟨.string "NaN", false⟩
  | .compare .eq lhs rhs => do
    let a ← evalExpr s lhs
    let b ← evalExpr s rhs
    .ok (decideEqual true a b)
  | .compare .ne lhs rhs => do
    let a ← evalExpr s lhs
    let b ← evalExpr s rhs
    .ok (decideEqual false a b)
  | .compare op lhs rhs => do
    let x ← evalNumber s lhs
    let y ← evalNumber s rhs
    decideOrder op x y
  | .connect .and lhs rhs => do
    if ← evalBool s lhs then (evalBool s rhs).map TermValue.ofBool else .ok (.ofBool false)
  | .connect .or lhs rhs => do
    if ← evalBool s lhs then .ok (.ofBool true) else (evalBool s rhs).map TermValue.ofBool
  | .membership negated item container => do
    let a ← evalExpr s item
    let b ← evalExpr s container
    (decideWithin a b).map fun within => .ofBool (within != negated)
  | .test name negated test args =>
    match applyTest test none [] with
    | none => .error (.unknownTest test)
    | some _ => do
      let vs ← wrapFailure (.testFailed test) (evalList s args)
      match applyTest test (lookUpPath s name).toOption vs with
      | none => .error (.unknownTest test)
      | some result =>
        (wrapMisuse (.testFailed test) result).map fun b => .ofBool (b != negated)

/-- The parts of a joined text. -/
def evalParts (s : Scope) : List Term → Except Failure (List Char)
  | [] => .ok []
  | .string t :: rest => (evalParts s rest).map (t.toList ++ ·)
  | .int n :: rest => (evalParts s rest).map ((Decimal.intText n).toList ++ ·)
  | .real x :: rest => (evalParts s rest).map (x.plainText.toList ++ ·)
  | .path name :: rest => do
    let v ← lookUpPath s name
    match joined v with
    | none => .error (.notConcatenable name)
    | some cs => (evalParts s rest).map (cs ++ ·)
  | .call c :: rest => do
    let v ← evalCall s c
    match joined v with
    | none => .error (.callNotConcatenable c.name)
    | some cs => (evalParts s rest).map (cs ++ ·)
  | _ :: rest => evalParts s rest

/-- A number in arithmetic or in a comparison. -/
def evalNumber (s : Scope) : Expr → Except Failure (Option Number)
  | .mk term _ [] => evalTermNumber s term
  | .mk term negated (f :: fs) => do
    let v ← evalTerm s term
    match asNumber (← evalFiltered s negated v.value (f :: fs)) with
    | some n => .ok (some n)
    | none => .error .notNumeric

/-- A term as a number. -/
def evalTermNumber (s : Scope) : Term → Except Failure (Option Number)
  | .int n => .ok (some (.whole n))
  | .real x => .ok (some (.real x))
  | .path name => do
    match asNumber (← lookUpPath s name) with
    | some n => .ok (some n)
    | none => .error (.notNumber name)
  | .math op lhs rhs => do
    let x ← evalNumber s lhs
    let y ← evalNumber s rhs
    computeMath op lhs rhs x y
  | .call c => do
    match asNumber (← evalCall s c) with
    | some n => .ok (some n)
    | none => .error (.functionNotNumber c.name)
  | .string t => .error (.mathOnString t)
  | .bool b => .error (.mathOnBool b)
  | .concat parts => .error (.mathOnConcat (partsShown parts))
  | .test _ _ test _ => .error (.mathOnTest test)
  | _ => .error .mathOnOther

/-- Whether an expression counts as true. A name that stands for nothing counts as false. -/
def evalBool (s : Scope) : Expr → Except Failure Bool
  | .mk (.path name) negated filters =>
    let v : Except Failure Value :=
      match lookUpPath s name with
      | .ok v =>
        if v.isNull && hasDefault filters then do
          let v ← evalDefault s filters
          evalFiltered s false v filters
        else evalFiltered s false v filters
      | .error e =>
        if hasDefault filters then do
          let v ← evalDefault s filters
          evalFiltered s false v filters
        else if negated then .ok (.bool false)
        else .error e
    match v with
    | .ok v => .ok (isTruthy v != negated)
    | .error _ => .ok false
  | .mk (.call c) negated _ => do
    match ← evalCall s c with
    | .bool b => .ok (b != negated)
    | _ => .error (.functionNotBool c.name)
  | .mk (.concat parts) negated filters => do
    let cs ← evalParts s parts
    let v ← evalFiltered s negated (.string (String.ofList cs)) filters
    .ok (isTruthy v != negated)
  | .mk (.math op lhs rhs) negated _ => do
    let x ← evalNumber s lhs
    let y ← evalNumber s rhs
    match ← computeMath op lhs rhs x y with
    | some n => .ok ((!(toReal n).isZero) != negated)
    | none => .ok negated
  | .mk term negated _ => (evalTerm s term).map fun v => v.holds negated

end

/-! ### Nodes -/

/-- The name of what a loop goes over, none when it cannot be gone over. -/
def containerName? (e : Expr) : Option String :=
  match e.term with
  | .path name => some name
  | .call c => some c.name
  | .array _ => some "an array literal"
  | _ => none

/-- The items of a loop: those of an array, or the user-perceived characters of a string. -/
def loopItems (e : Expr) (keyed : Bool) (v : Value) : Except Failure (List Value) :=
  match containerName? e with
  | none => .error (.badContainer (termShown e.term))
  | some name =>
    match v with
    | .array items => if keyed then .error (.keyedLoop name) else .ok items
    | .string t =>
      if keyed then .error (.keyedLoop name)
      else .ok ((Text.graphemes t.toList).map fun g => .string (String.ofList g))
    | _ => .error (.notIterable name)

/-- What a layout is filled from: all layouts by their names. -/
abbrev Library := List (String × Source)

/-- The first of some names that is the name of a layout. -/
def Library.firstOf (l : Library) (names : List String) : Option (String × Source) :=
  names.findSome? fun n => (l.lookup n).map (n, ·)

/-- What nodes print, and the scope after them. The `depth` bounds how deep nodes are nested, those
of embedded layouts included. -/
abbrev Filling := Except Failure (List Char × Scope)

/-- Prints items one after the other, each in a scope of its own. -/
def fillItems (fill : Scope → Filling) (item : String) (count : Nat) :
    Scope → Nat → List Value → Filling
  | s, _, [] => .ok ([], s)
  | s, index, v :: rest => do
    let (a, t) ← fill (s.push ⟨[], some ⟨item, v, index, count⟩, s.layout⟩)
    let (b, u) ← fillItems fill item count t.pop (index + 1) rest
    .ok (a ++ b, u)

mutual

/-- What nodes print one after the other. -/
def fillNodes (l : Library) : Nat → Scope → List Node → Filling
  | _, s, [] => .ok ([], s)
  | 0, _, _ :: _ => .error .tooDeep
  | depth + 1, s, node :: rest => do
    let (a, t) ← fillNode l depth s node
    let (b, u) ← fillNodes l (depth + 1) t rest
    .ok (a ++ b, u)

/-- What a node prints. -/
def fillNode (l : Library) : Nat → Scope → Node → Filling
  | _, s, .text t => .ok (t, s)
  | _, s, .verbatim _ t _ => .ok (t, s)
  | _, s, .comment _ => .ok ([], s)
  | _, s, .print _ e => (evalExpr s e).map fun v => (printed v, s)
  | _, s, .assign _ outer name e => (evalExpr s e).map fun v => ([], s.assign outer name v)
  | 0, _, _ => .error .tooDeep
  | depth + 1, s, .embed _ names mayMiss =>
    match l.firstOf names with
    | none => if mayMiss then .ok ([], s) else .error (.layoutNotFound names)
    | some (name, source) =>
      match source.base with
      | some base => .error (.nestedBase base)
      | none => do
        let (a, t) ← fillNodes l depth (s.push ⟨[], none, name⟩) source.nodes
        .ok (a, t.pop)
  | depth + 1, s, .loop _ key item container body otherwise _ => do
    if (containerName? container).isNone then .error (.badContainer (termShown container.term))
    let v ← evalExpr s container
    match ← loopItems container key.isSome v with
    | [] =>
      match otherwise with
      | none => .ok ([], s)
      | some nodes => fillNodes l depth s nodes
    | items => fillItems (fun t => fillNodes l depth t body) item items.length s 0 items
  | depth + 1, s, .branch conditions otherwise _ => fillBranch l depth s otherwise conditions

/-- The first branch whose condition holds. -/
def fillBranch (l : Library) : Nat → Scope → Option (Trim × List Node) →
    List (Trim × Expr × List Node) → Filling
  | 0, _, _, _ => .error .tooDeep
  | _ + 1, s, none, [] => .ok ([], s)
  | depth + 1, s, some (_, nodes), [] => fillNodes l depth s nodes
  | depth + 1, s, otherwise, (_, e, body) :: rest => do
    if ← evalBool s e then fillNodes l depth s body
    else fillBranch l depth s otherwise rest

end

/-- The text of a layout filled with values in an environment. -/
def fill (l : Library) (depth : Nat) (name : String) (values : List (String × Value))
    (environment : Environment) : Except Failure (List Char) :=
  match l.lookup name with
  | none => .error (.layoutNotFound [name])
  | some source =>
    let root := (source.base.bind fun b => l.lookup b).getD source
    (fillNodes l depth ⟨[⟨[], none, name⟩], values, environment⟩ root.nodes).map Prod.fst

end JobNotice.Layout
