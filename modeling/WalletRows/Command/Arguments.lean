import WalletRows.Text.Decimal
import WalletRows.Text.Terminal

/-!
# Command line arguments

Arguments are read from left to right.  A parameter is given by a long name
behind two dashes or by a letter behind one, and letters may share a dash.  A
value follows as the next argument, or in the same one: behind an equals sign,
or directly behind a letter.  What is no option is taken by the parameter
without a name.

A value in an argument of its own is looked at only when the next parameter is
met or the arguments end, so an unknown argument behind it is reported first.
Behind two dashes alone nothing is an option.
-/

namespace WalletRows

/-- Why arguments are refused. -/
inductive UsageError where
  | unexpectedArgument (argument : String)
  | unrecognizedCommand (name : String)
  | missingValue (parameter : String)
  /-- A parameter takes no value but has one. -/
  | unexpectedValue (value parameter : String)
  | repeated (parameter : String)
  /-- A value does not fit; there may be a sentence that says why. -/
  | invalidValue (value parameter : String) (reason : Option String)
  /-- A parameter that has to be given is not. -/
  | missingParameters
deriving DecidableEq

namespace UsageError

/-- The sentence for refused arguments, with what was given and the parameters
in a style of their own. -/
def parts : UsageError → List MessagePart
  | .unexpectedArgument argument =>
      [.plain "unexpected argument '", .styled argument, .plain "' found"]
  | .unrecognizedCommand name =>
      [.plain "unrecognized subcommand '", .styled name, .plain "'"]
  | .missingValue parameter =>
      [.plain "a value is required for '", .styled parameter,
        .plain "' but none was supplied"]
  | .unexpectedValue value parameter =>
      [.plain "unexpected value '", .styled value, .plain "' for '",
        .styled parameter, .plain "' found; no more were expected"]
  | .repeated parameter =>
      [.plain "the argument '", .styled parameter,
        .plain "' cannot be used multiple times"]
  | .invalidValue value parameter reason =>
      [.plain "invalid value '", .styled value, .plain "' for '",
        .styled parameter, .plain ("'" ++ (reason.map (": " ++ ·)).getD "")]
  | .missingParameters =>
      [.plain "the following required arguments were not provided:"]

def hint : List MessagePart :=
  [.plain "\n\nFor more information, try '", .styled "--help", .plain "'."]

def message (error : UsageError) : String :=
  MessagePart.shownText
    (.styled "error:" :: .plain " " :: (error.parts ++ hint))

end UsageError

/-- Why no command is run. -/
inductive Refusal where
  | usage (error : UsageError)
  | help
  | version
  | nothingAsked
deriving DecidableEq

/-- What a parameter does with its value.  `D` is what was chosen so far. -/
inductive Taking (D : Type) where
  /-- The parameter takes no value. -/
  | nothing (store : D → D)
  /-- The parameter takes a value, which may be refused. -/
  | value (store : String → Except UsageError (D → D))
  /-- The parameter takes no value and ends the reading. -/
  | stop (refusal : Refusal)

/-- Something that can be given on the command line. -/
structure Parameter (D : Type) where
  /-- How the parameter is shown in messages. -/
  usage : String
  /-- The name behind two dashes; none for a value without a name. -/
  long : Option String := none
  /-- The letter behind one dash. -/
  letter : Option Char := none
  taking : Taking D
  required : Bool := false

/-- The reading of a command line so far. -/
structure Reading (D : Type) where
  chosen : D
  /-- The parameters that were given, as they are shown. -/
  given : List String := []
  /-- A parameter that was met last, with its value if that was met too. -/
  pending : Option (Parameter D × Option String) := none

namespace Reading

variable {D : Type}

/-- Record that a parameter is given, which may happen once. -/
def give (reading : Reading D) (parameter : Parameter D) (store : D → D) :
    Reading D :=
  { reading with
    chosen := store reading.chosen
    given := parameter.usage :: reading.given }

/-- Give a parameter, with its value if it has one. -/
def apply (reading : Reading D) (parameter : Parameter D)
    (value : Option String) : Except Refusal (Reading D) :=
  let repeated := reading.given.contains parameter.usage
  match parameter.taking, value with
  | .stop refusal, _ => .error refusal
  | .nothing store, _ =>
      if repeated then .error (.usage (.repeated parameter.usage))
      else .ok (reading.give parameter store)
  | .value _, none => .error (.usage (.missingValue parameter.usage))
  | .value store, some value =>
      if repeated then
        .error (.usage (.repeated parameter.usage))
      else
        match store value with
        | .error error => .error (.usage error)
        | .ok store => .ok (reading.give parameter store)

/-- Give the parameter that was met last. -/
def settle (reading : Reading D) : Except Refusal (Reading D) :=
  match reading.pending with
  | none => .ok reading
  | some (parameter, value) =>
      { reading with pending := none }.apply parameter value

/-- Go on with a parameter that is met; `attached` is a value in the same
argument. -/
def meet (reading : Reading D) (parameter : Parameter D)
    (attached : Option String) : Except Refusal (Reading D) := do
  let reading ← reading.settle
  match parameter.taking, attached with
  | .value _, none => return { reading with pending := some (parameter, none) }
  | _, _ => reading.apply parameter attached

/-- Whether the parameter that was met last waits for its value. -/
def awaitsValue (reading : Reading D) : Bool :=
  match reading.pending with
  | some (_, none) => true
  | _ => false

/-- Take an argument as the value that the last parameter waits for. -/
def takeValue (reading : Reading D) (argument : String) : Reading D :=
  { reading with
    pending := reading.pending.map fun (parameter, _) =>
      (parameter, some argument) }

end Reading

inductive ArgumentForm where
  /-- Two dashes alone. -/
  | separator
  /-- A long name, with a value if there is an equals sign. -/
  | long (name : List Char) (value : Option (List Char))
  /-- Letters behind a dash. -/
  | letters (letters : List Char)
  | plain

/-- The form of an argument.  A dash alone is an ordinary argument. -/
def ArgumentForm.of (argument : List Char) : ArgumentForm :=
  match argument with
  | ['-', '-'] => .separator
  | '-' :: '-' :: rest =>
      let name := rest.takeWhile (· ≠ '=')
      match rest.dropWhile (· ≠ '=') with
      | [] => .long name none
      | _ :: value => .long name (some value)
  | '-' :: letter :: rest => .letters (letter :: rest)
  | _ => .plain

section Parameters

variable {D : Type}

def readLong (parameters : List (Parameter D)) (reading : Reading D)
    (name : List Char) (value : Option (List Char)) :
    Except Refusal (Reading D) :=
  let long := String.ofList name
  match parameters.find? (·.long = some long), value.map String.ofList with
  | none, _ => .error (.usage (.unexpectedArgument ("--" ++ long)))
  | some parameter, none => reading.meet parameter none
  | some parameter, some value =>
      match parameter.taking with
      | .value _ => reading.meet parameter (some value)
      | .nothing _ | .stop _ =>
          .error (.usage (.unexpectedValue value parameter.usage))

/-- Read letters that share a dash.  What follows the letter of a parameter with
a value is the value. -/
def readLetters (parameters : List (Parameter D)) :
    Reading D → List Char → Except Refusal (Reading D)
  | reading, [] => .ok reading
  | reading, letter :: rest =>
      match parameters.find? (·.letter = some letter) with
      | none =>
          .error (.usage (.unexpectedArgument (.ofList ['-', letter])))
      | some parameter =>
          match parameter.taking, rest with
          | .value _, '=' :: value =>
              reading.meet parameter (some (.ofList value))
          | .value _, first :: others =>
              reading.meet parameter (some (.ofList (first :: others)))
          | .value _, [] => reading.meet parameter none
          | _, _ => do
              let reading ← reading.meet parameter none
              readLetters parameters reading rest

/-- Read an argument that is no option.  It goes to the first parameter without
a name that is still free. -/
def readPlain (parameters : List (Parameter D)) (reading : Reading D)
    (argument : String) : Except Refusal (Reading D) :=
  let pending := reading.pending.map fun (parameter, _) => parameter.usage
  let free (parameter : Parameter D) : Bool :=
    parameter.long.isNone && !reading.given.contains parameter.usage &&
      pending ≠ some parameter.usage
  match parameters.find? free with
  | none => .error (.usage (.unexpectedArgument argument))
  | some parameter => do
      let reading ← reading.settle
      return { reading with pending := some (parameter, some argument) }

/-- Read arguments; `plain` says that no further one is an option. -/
def readArguments (parameters : List (Parameter D)) (plain : Bool) :
    Reading D → List String → Except Refusal (Reading D)
  | reading, [] => reading.settle
  | reading, argument :: rest =>
      if plain then do
        let reading ← readPlain parameters reading argument
        readArguments parameters true reading rest
      else
        match ArgumentForm.of argument.toList with
        | .separator => readArguments parameters true reading rest
        | .long name value => do
            let reading ← readLong parameters reading name value
            readArguments parameters false reading rest
        | .letters letters => do
            let reading ← readLetters parameters reading letters
            readArguments parameters false reading rest
        | .plain =>
            if reading.awaitsValue then
              readArguments parameters false (reading.takeValue argument) rest
            else do
              let reading ← readPlain parameters reading argument
              readArguments parameters false reading rest

/-- What is chosen by arguments, from `start` on.  Every parameter that has to
be given is given. -/
def choose (parameters : List (Parameter D)) (start : D)
    (arguments : List String) : Except Refusal D := do
  let reading ← readArguments parameters false ⟨start, [], none⟩ arguments
  if parameters.all fun parameter =>
      !parameter.required || reading.given.contains parameter.usage then
    return reading.chosen
  else
    .error (.usage .missingParameters)

end Parameters

end WalletRows
