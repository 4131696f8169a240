import JobNotice.Json.Printer

/-!
# Why a layout cannot be filled

## Main definitions

* `Layout.Misuse` — wrong arguments of filters, tests and functions
* `Layout.Failure` — what stops the filling of a layout, with its message
-/

namespace JobNotice.Layout

/-- What a filter, test or function was given wrongly. -/
inductive Misuse
  /-- A filter lacks an argument. -/
  | missingArg (filter arg : String)
  | wrongValue (filter : String) (got : Json.Value) (expected : String)
  | wrongArg (filter arg : String) (got : Json.Value) (expected : String)
  | notMeasurable
  | notReversible (got : Json.Value)
  | takesNoArgs (test : String)
  | tooManyArgs (test : String) (count limit : Nat)
  | undefinedSubject (test : String)
  /-- A test was given something else than a string, in a place named in words. -/
  | notString (test place : String)
  | notContainer
  | thrown (message : String)
  | throwNotString (got : Json.Value)
  | throwEmpty
  /-- An environment variable was asked for without its name. -/
  | unnamedVariable
  | variableNotString (got : Json.Value)
  | noVariable (name : String)

inductive Failure
  | unknownName (name layout : String)
  | badIndex (name layout evaluated : String)
  | unusableIndex (index name : String)
  | indexFailed (name : String) (why : Failure)
  | unknownFilter (name : String)
  | unknownFunction (name : String)
  | unknownTest (name : String)
  | layoutNotFound (names : List String)
  | nestedBase (name : String)
  | misuse (m : Misuse)
  | filterFailed (name : String) (why : Failure)
  | functionFailed (name : String) (why : Failure)
  | testFailed (name : String) (why : Failure)
  | notNumber (name : String)
  | functionNotNumber (name : String)
  | functionNotBool (name : String)
  | mathOnString (s : String)
  | mathOnBool (b : Bool)
  | mathOnConcat (parts : String)
  | mathOnTest (name : String)
  | mathOnOther
  | notNumeric
  | incomparable
  | moduloByZero (lhs rhs : String)
  | overflow (lhs op rhs word : String)
  | notConcatenable (name : String)
  | callNotConcatenable (name : String)
  | notInString (shown : String)
  | noMembership
  | keyedLoop (container : String)
  | notIterable (container : String)
  | badContainer (shown : String)
  | defaultWithoutValue
  | tooDeep
  /-- What stops an engine of another kind, in its own words. -/
  | other (message : String)

namespace Misuse

def message : Misuse → String
  | .missingArg filter arg => "Filter `" ++ filter ++ "` expected an arg called `" ++ arg ++ "`"
  | .wrongValue filter got expected =>
    "Filter `" ++ filter ++ "` was called on an incorrect value: got `" ++ got.compact ++
      "` but expected a " ++ expected
  | .wrongArg filter arg got expected =>
    "Filter `" ++ filter ++ "` received an incorrect type for arg `" ++ arg ++ "`: got `" ++
      got.compact ++ "` but expected a " ++ expected
  | .notMeasurable =>
    "Filter `length` was used on a value that isn't an array, an object, or a string."
  | .notReversible got =>
    "Filter `reverse` received an incorrect type for arg `value`: got `" ++ got.compact ++
      "` but expected Array|String"
  | .takesNoArgs test =>
    "Tester `" ++ test ++ "` was called with some args but this test doesn't take args"
  | .tooManyArgs test count limit =>
    "Tester `" ++ test ++ "` was called with " ++ Decimal.natText count ++
      " args, the max number is " ++ Decimal.natText limit
  | .undefinedSubject test => "Tester `" ++ test ++ "` was called on an undefined variable"
  | .notString test place =>
    "Tester `" ++ test ++ "` was called " ++ place ++ " that isn't a string"
  | .notContainer => "Tester `containing` can only be used on string, array or map"
  | .thrown message => message
  | .throwNotString got =>
    "Function `throw` received message=" ++ got.compact ++ " but `message` can only be a string"
  | .throwEmpty => "Function `throw` was called without a `message` argument"
  | .unnamedVariable => "Function `get_env` didn't receive a `name` argument"
  | .variableNotString got =>
    "Function `get_env` received name=" ++ got.compact ++ " but `name` can only be a string"
  | .noVariable name => "Environment variable `" ++ name ++ "` not found"

end Misuse

namespace Failure

/-- The message, causes after a colon. -/
def message : Failure → String
  | .unknownName name layout =>
    "Variable `" ++ name ++ "` not found in context while rendering '" ++ layout ++ "'"
  | .badIndex name layout evaluated =>
    "Variable `" ++ name ++ "` not found in context while rendering '" ++ layout ++
      "': the evaluated version was `" ++ evaluated ++ "`. Maybe the index is out of bounds?"
  | .unusableIndex index name =>
    "Only variables evaluating to String or Number can be used as index (`" ++ index ++ "` of `" ++
      name ++ "`)"
  | .indexFailed name why =>
    "Variable " ++ name ++ " can not be evaluated because: " ++ why.message
  | .unknownFilter name => "Filter '" ++ name ++ "' not found"
  | .unknownFunction name => "Function '" ++ name ++ "' not found"
  | .unknownTest name => "Test '" ++ name ++ "' not found"
  | .layoutNotFound names => "Template '[" ++ ", ".intercalate names ++ "]' not found"
  | .nestedBase name =>
    "Inheritance in included templates is currently not supported: extended `" ++ name ++ "`"
  | .misuse m => m.message
  | .filterFailed name why => "Filter call '" ++ name ++ "' failed: " ++ why.message
  | .functionFailed name why => "Function call '" ++ name ++ "' failed: " ++ why.message
  | .testFailed name why => "Test call '" ++ name ++ "' failed: " ++ why.message
  | .notNumber name =>
    "Variable `" ++ name ++ "` was used in a math operation but is not a number"
  | .functionNotNumber name =>
    "Function `" ++ name ++ "` was used in a math operation but is not returning a number"
  | .functionNotBool name =>
    "Function `" ++ name ++ "` was used in a logic expression but is not returning a boolean"
  | .mathOnString s => "Tried to do math with a string: `" ++ s ++ "`"
  | .mathOnBool b => "Tried to do math with a boolean: `" ++ (if b then "true" else "false") ++ "`"
  | .mathOnConcat parts => "Tried to do math with a string concatenation: " ++ parts
  | .mathOnTest name => "Tried to do math with a test: " ++ name
  | .mathOnOther => "unimplemented math expression"
  | .notNumeric => "Tried to do math with an expression not resulting in a number"
  | .incomparable => "Comparison to NaN"
  | .moduloByZero lhs rhs => "Tried to do a modulo by zero: " ++ lhs ++ "/" ++ rhs
  | .overflow lhs op rhs word =>
    lhs ++ " " ++ op ++ " " ++ rhs ++ " results in an out of bounds " ++ word
  | .notConcatenable name =>
    "Tried to concat a value that is not a string or a number from ident " ++ name
  | .callNotConcatenable name =>
    "Tried to concat a value that is not a string or a number from function call " ++ name
  | .notInString shown =>
    "Tried to check if " ++ shown ++ " is in a string, but it isn't a string"
  | .noMembership => "The `in` operator only supports strings, arrays and objects."
  | .keyedLoop container =>
    "Tried to iterate using key value on variable `" ++ container ++
      "`, but it isn't an object/map"
  | .notIterable container =>
    "Tried to iterate on a container (`" ++ container ++ "`) that has a unsupported type"
  | .badContainer shown =>
    "Forloop containers have to be an ident or a function call (tried to iterate on '" ++ shown ++
      "')"
  | .defaultWithoutValue => "The `default` filter requires a `value` argument."
  | .tooDeep => "layouts are embedded without end"
  | .other message => message

end Failure

end JobNotice.Layout
