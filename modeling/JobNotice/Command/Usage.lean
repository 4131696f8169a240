import JobNotice.Text.CodePoints

/-!
# Options and arguments

A level of a command line has options, at most one argument and commands, which begin levels of
their own. An option with a value takes it from its own word, after an equals sign, or is the next
word; what it takes is judged only when something else has been recognised after it. After two
hyphens no word is an option or a command.

## Main definitions

* `Command.Stop` — why a command line is not carried out
* `Command.Choice`, `Command.Level` — what a level knows
* `Command.Level.scan` — the words of a level
-/

namespace JobNotice.Command

/-- Why a command line is not carried out. -/
inductive Stop
  | help
  | version
  /-- There are no words at all. -/
  | nothing
  | noCommand
  | unknownCommand
  | unknownOption
  | badValue
  | repeated
  /-- An option without a value is given one. -/
  | needlessValue
  | noArgument
  deriving DecidableEq

/-- Being asked for help or the version is no failure. -/
def Stop.exitCode : Stop → Nat
  | .help => 0
  | .version => 0
  | _ => 2

/-- What an option does. -/
inductive Action
  /-- It takes a value that a judgement allows. -/
  | value (allows : String → Bool)
  | switch
  | stop (s : Stop)

structure Choice where
  name : String
  letter : Option Char
  action : Action

/-- What may stand on a level. -/
structure Level where
  options : List Choice
  /-- The name and the judgement of the argument. -/
  argument : Option (String × (String → Bool))
  commands : List String

/-- Values by the names of their options and arguments. -/
abbrev Values := List (String × String)

/-- An option or argument whose value has not been judged. -/
structure Pending where
  name : String
  allows : String → Bool
  value : Option String

structure Scan where
  found : Values
  pending : Option Pending

namespace Scan

def has (s : Scan) (name : String) : Bool := s.found.any fun p => p.1 = name

/-- Takes a value over, once for each name. -/
def take (s : Scan) (name value : String) (allowed : Bool) : Except Stop Scan :=
  if s.has name then .error .repeated
  else if allowed then .ok { s with found := s.found ++ [(name, value)] }
  else .error .badValue

/-- Judges what has been pending. -/
def settle (s : Scan) : Except Stop Scan :=
  match s.pending with
  | none => .ok s
  | some p =>
    match p.value with
    | none => .error .badValue
    | some v => { s with pending := none }.take p.name v (p.allows v)

/-- Whether the next word is the value of an option. -/
def awaitsValue (s : Scan) : Bool :=
  match s.pending with
  | some p => p.value.isNone
  | none => false

/-- Carries out an option, with the value that its word holds. -/
def apply (s : Scan) (o : Choice) (held : Option String) : Except Stop Scan :=
  match o.action, held with
  | .value allows, some v => do (← s.settle).take o.name v (allows v)
  | .value allows, none => do
    let s ← s.settle
    .ok { s with pending := some ⟨o.name, allows, none⟩ }
  | .switch, none => do (← s.settle).take o.name "" true
  | .stop stop, none => do
    let _ ← s.settle
    .error stop
  | _, some _ => .error .needlessValue

end Scan

namespace Level

/-- An option with two hyphens, with a value after an equals sign. -/
def applyLong (l : Level) (s : Scan) (word : List Char) : Except Stop Scan :=
  let name := String.ofList (word.takeWhile (· ≠ '='))
  let held :=
    match word.dropWhile (· ≠ '=') with
    | _ :: value => some (String.ofList value)
    | [] => none
  match l.options.find? fun o => o.name = name with
  | some o => s.apply o held
  | none => .error .unknownOption

/-- Options with one hyphen; the first that takes a value takes what follows it. -/
def applyLetters (l : Level) (s : Scan) : List Char → Except Stop Scan
  | [] => .ok s
  | c :: r =>
    match l.options.find? fun o => o.letter = some c with
    | none => .error .unknownOption
    | some o =>
      match o.action, r with
      | .value _, [] => s.apply o none
      | .value _, '=' :: v => s.apply o (some (String.ofList v))
      | .value _, v => s.apply o (some (String.ofList v))
      | _, r => do
        let s ← s.apply o none
        l.applyLetters s r

/-- A word that is no option: the argument, if the level has one and it has not been given. -/
def applyArgument (l : Level) (s : Scan) (afterHyphens : Bool) (word : String) :
    Except Stop Scan :=
  let given (name : String) : Bool :=
    s.has name ||
      match s.pending with
      | some p => p.name = name
      | none => false
  match l.argument with
  | some (name, allows) =>
    if given name then .error .unknownOption
    else do
      let s ← s.settle
      .ok { s with pending := some ⟨name, allows, some word⟩ }
  | none =>
    if l.commands.isEmpty || (afterHyphens && l.commands.contains word) then
      .error .unknownOption
    else .error .unknownCommand

/-- The words of a level up to a command, and the words after it. -/
def scan (l : Level) (afterHyphens : Bool) (s : Scan) :
    List String → Except Stop (Scan × Option (String × List String))
  | [] => .ok (s, none)
  | word :: rest =>
    if afterHyphens then do
      let s ← l.applyArgument s true word
      l.scan true s rest
    else if !s.awaitsValue && l.commands.contains word then .ok (s, some (word, rest))
    else
      match word.toList with
      | ['-', '-'] => l.scan true s rest
      | '-' :: '-' :: long => do
        let s ← l.applyLong s long
        l.scan false s rest
      | '-' :: c :: r => do
        let s ← l.applyLetters s (c :: r)
        l.scan false s rest
      | _ =>
        match s.pending with
        | some ⟨name, allows, none⟩ =>
          l.scan false { s with pending := some ⟨name, allows, some word⟩ } rest
        | _ => do
          let s ← l.applyArgument s false word
          l.scan false s rest

end Level

end JobNotice.Command
