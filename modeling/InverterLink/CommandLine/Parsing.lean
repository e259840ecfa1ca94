import InverterLink.Text.Digits

/-!
# Command lines

The arguments of a program: options with one or two hyphens, the values that some of them take, and
operands. An option may be given once. The value of an option is looked at when the next option or
operand comes, or when the arguments end, so an unknown option is reported before a bad value in
front of it.

## Main definitions

* `Flag`: an option, with what it does to the settings of a program.
* `Parsing.step`: takes up one argument.
* `parseArguments`: the settings and the operands that arguments stand for.
-/

namespace InverterLink

/-- Why arguments do not start a program. -/
inductive UsageError where
  /-- An option is given twice, or together with one that excludes it. -/
  | conflict
  /-- An option lacks its value, or the value is none of those that it knows. -/
  | invalidValue
  /-- An option that takes no value is given one. -/
  | unexpectedValue
  /-- A value is not of the form that the option asks for. -/
  | malformedValue
  | unknownArgument
  | missingArgument
  /-- The program is asked to explain itself. -/
  | help
  /-- The program is asked for its version. -/
  | version
deriving DecidableEq

namespace UsageError

/-- The exit code of a program that does not start: zero if it did what it was asked for. -/
def exitCode : UsageError → Nat
  | help | version => 0
  | _ => 2

/-- What a program that does not start says about it: nothing if it did what it was asked for. -/
def message? : UsageError → Option String
  | conflict => some "an option is given twice, or together with one that excludes it"
  | invalidValue => some "an option lacks its value, or does not know it"
  | unexpectedValue => some "an option that takes no value is given one"
  | malformedValue => some "the value of an option is malformed"
  | unknownArgument => some "an argument is not known"
  | missingArgument => some "an argument is missing"
  | help | version => none

end UsageError

/-- What an option does to the settings of a program. -/
inductive FlagEffect (σ : Type) where
  /-- The option takes no value. -/
  | switch (set : σ → σ)
  /-- The option takes a value, and may refuse it. -/
  | value (set : String → σ → Except UsageError σ)
  /-- The program does not go on. -/
  | stop (reason : UsageError)

/-- An option of a program. -/
structure Flag (σ : Type) where
  /-- The letter behind one hyphen. -/
  letter? : Option Char := none
  /-- The name behind two hyphens. -/
  name : String
  effect : FlagEffect σ

/-- How an option is given. -/
def Flag.usage {σ : Type} (flag : Flag σ) : String :=
  let letter := match flag.letter? with
    | some c => s!"-{c}, "
    | none => "    "
  let value := match flag.effect with
    | .value _ => " <VALUE>"
    | _ => ""
  s!"  {letter}--{flag.name}{value}\n"

/-- The options that every program has. -/
def commonFlags (σ : Type) : List (Flag σ) := [
  ⟨some 'h', "help", .stop .help⟩,
  ⟨some 'V', "version", .stop .version⟩]

/-- Arguments that have been taken up. -/
structure Parsing (σ : Type) where
  settings : σ
  /-- The names of the options that have been given. -/
  given : List String := []
  /-- The option whose value has not been looked at, with the value if it has come. -/
  pending? : Option (Flag σ × Option String) := none
  operands : List String := []
  /-- Only operands follow. -/
  isTrailing : Bool := false

namespace Parsing

variable {σ : Type}

/-- Notes that an option is given, for the first time. -/
def mark (p : Parsing σ) (flag : Flag σ) : Except UsageError (Parsing σ) :=
  if p.given.contains flag.name then .error .conflict
  else .ok { p with given := flag.name :: p.given }

/-- Gives an option its value. -/
def assign (p : Parsing σ) (flag : Flag σ) (value : String) : Except UsageError (Parsing σ) :=
  match flag.effect with
  | .value set => do
    let p ← p.mark flag
    return { p with settings := ← set value p.settings }
  | _ => .error .unexpectedValue

/-- Looks at the value of the last option. -/
def resolve (p : Parsing σ) : Except UsageError (Parsing σ) :=
  match p.pending? with
  | none => .ok p
  | some (_, none) => .error .invalidValue
  | some (flag, some value) => { p with pending? := none }.assign flag value

/-- Gives an option without a value. -/
def turnOn (p : Parsing σ) (flag : Flag σ) : Except UsageError (Parsing σ) := do
  let p ← p.resolve
  match flag.effect with
  | .switch set =>
    let p ← p.mark flag
    return { p with settings := set p.settings }
  | .value _ => return { p with pending? := some (flag, none) }
  | .stop reason => .error reason

/-- Takes up an operand, if the program knows any. -/
def addOperand (p : Parsing σ) (hasOperands : Bool) (arg : String) :
    Except UsageError (Parsing σ) :=
  if hasOperands then do
    let p ← p.resolve
    return { p with operands := p.operands ++ [arg] }
  else .error .unknownArgument

/-- The name behind two hyphens and the value behind the first equals sign, if there is one. -/
def splitName (cs : List Char) : String × Option String :=
  let name := cs.takeWhile (· ≠ '=')
  match cs.drop name.length with
  | _ :: value => (String.ofList name, some (String.ofList value))
  | [] => (String.ofList name, none)

/-- Takes up an option that is given by its name. -/
def long (p : Parsing σ) (flags : List (Flag σ)) (cs : List Char) : Except UsageError (Parsing σ) :=
  let (name, value?) := splitName cs
  match flags.find? (·.name == name), value? with
  | none, _ => .error .unknownArgument
  | some flag, none => p.turnOn flag
  | some flag, some value =>
    match flag.effect with
    | .value _ => do (← p.resolve).assign flag value
    | _ => .error .unexpectedValue

/-- Takes up options that are given by their letters. What follows the letter of an option with a
value is the value, with or without an equals sign in front. -/
def letters (flags : List (Flag σ)) : List Char → Parsing σ → Except UsageError (Parsing σ)
  | [], p => .ok p
  | c :: cs, p =>
    match flags.find? (·.letter? == some c) with
    | none => .error .unknownArgument
    | some flag =>
      match flag.effect, cs with
      | .value _, '=' :: value => do (← p.resolve).assign flag (String.ofList value)
      | .value _, _ :: _ => do (← p.resolve).assign flag (String.ofList cs)
      | _, _ => do letters flags cs (← p.turnOn flag)

/-- Takes up a word as the value of the last option, or as an operand. -/
def word (p : Parsing σ) (hasOperands : Bool) (arg : String) : Except UsageError (Parsing σ) :=
  match p.pending? with
  | some (flag, none) => .ok { p with pending? := some (flag, some arg) }
  | _ => p.addOperand hasOperands arg

/-- Takes up one argument. -/
def step (flags : List (Flag σ)) (hasOperands : Bool) (p : Parsing σ) (arg : String) :
    Except UsageError (Parsing σ) :=
  if p.isTrailing then p.addOperand hasOperands arg
  else
    match arg.toList with
    | ['-', '-'] => .ok { p with isTrailing := true }
    | '-' :: '-' :: cs => p.long flags cs
    | '-' :: c :: cs => letters flags (c :: cs) p
    | _ => p.word hasOperands arg

end Parsing

/-- The settings and the operands that arguments stand for. -/
def parseArguments {σ : Type} (flags : List (Flag σ)) (hasOperands : Bool) (settings : σ)
    (args : List String) : Except UsageError (σ × List String) := do
  let flags := flags ++ commonFlags σ
  let p ← args.foldlM (Parsing.step flags hasOperands) { settings }
  let p ← p.resolve
  return (p.settings, p.operands)

/-! ### Values -/

namespace FlagEffect

variable {σ α : Type}

/-- An option whose value is any text. -/
def text (set : String → σ → σ) : FlagEffect σ :=
  .value fun value s => .ok (set value s)

/-- An option whose value is read by a function. -/
def form (read : String → Option α) (set : α → σ → σ) : FlagEffect σ :=
  .value fun value s =>
    match read value with
    | some a => .ok (set a s)
    | none => .error .malformedValue

/-- An option whose value is one of a list of names. -/
def choice (all : List α) (name : α → String) (set : α → σ → σ) : FlagEffect σ :=
  .value fun value s =>
    match all.find? (name · == value) with
    | some a => .ok (set a s)
    | none => .error .invalidValue

end FlagEffect

end InverterLink
