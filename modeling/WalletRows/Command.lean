import WalletRows.Command.Arguments
import WalletRows.Filter
import WalletRows.Row

/-!
# Commands

The program shows the rows of a snapshot, or its staking overview, or the
entries of the filter dropdown, or where its settings are kept.
-/

namespace WalletRows

/-- What the program is asked to do. -/
inductive Command where
  /-- Show the rows of a snapshot, as text or as JSON. -/
  | rows (snapshot : String) (layout : Option Layout) (json : Bool)
  /-- Count the tickets of a snapshot. -/
  | overview (snapshot : String)
  /-- List the entries of the dropdown on a tab. -/
  | filters (asset : Asset) (tab : Nat)
  /-- Show where the settings are kept. -/
  | settingsPath
deriving DecidableEq

def Command.snapshotFile? : Command → Option String
  | .rows snapshot _ _ | .overview snapshot => some snapshot
  | .filters .. | .settingsPath => none

/-- The values of the parameters of every command. -/
structure Choices where
  snapshot : String := ""
  layout : Option Layout := none
  json : Bool := false
  asset : Asset := .btc
  tab : Nat := 0

namespace Choices

/-- The name of a layout on the command line. -/
def layoutName : Layout → String
  | .overview => "overview"
  | .transactionsPage => "tx-page"

/-- The value for a path, which may not be empty. -/
def pathValue (usage value : String) : Except UsageError String :=
  if value = "" then .error (.missingValue usage) else .ok value

def layoutValue (usage value : String) : Except UsageError Layout :=
  match (Named.all : List Layout).find? fun layout =>
      layoutName layout = value with
  | some layout => .ok layout
  | none =>
      if value = "" then .error (.missingValue usage)
      else .error (.invalidValue value usage none)

def assetValue (usage value : String) : Except UsageError Asset :=
  match Asset.ofSymbol? value with
  | some asset => .ok asset
  | none =>
      .error
        (.invalidValue value usage
          (some ("unknown asset '" ++ value ++ "', expected btc, dcr or ltc")))

def tabValue (usage value : String) : Except UsageError Nat :=
  match Decimal.read 10 Decimal.maxUInt64 value.toList with
  | .ok tab => .ok tab
  | .error fault => .error (.invalidValue value usage (some fault.message))

def parameter {α : Type} (usage : String) (long : Option String)
    (letter : Option Char) (required : Bool)
    (value : String → String → Except UsageError α)
    (store : α → Choices → Choices) : Parameter Choices where
  usage := usage
  long := long
  letter := letter
  required := required
  taking := .value fun text => (value usage text).map store

def snapshotParameter : Parameter Choices :=
  parameter "<SNAPSHOT>" none none true pathValue
    fun value choices => { choices with snapshot := value }

def layoutParameter : Parameter Choices :=
  parameter "--layout <LAYOUT>" (some "layout") (some 'l') false layoutValue
    fun value choices => { choices with layout := some value }

/-- Whether rows are shown as JSON. -/
def jsonParameter : Parameter Choices where
  usage := "--json"
  long := some "json"
  taking := .nothing fun choices => { choices with json := true }

def assetParameter : Parameter Choices :=
  parameter "--asset <ASSET>" (some "asset") (some 'a') true assetValue
    fun value choices => { choices with asset := value }

def tabParameter : Parameter Choices :=
  parameter "--tab <TAB>" (some "tab") (some 't') false tabValue
    fun value choices => { choices with tab := value }

def helpParameter : Parameter Choices where
  usage := "--help"
  long := some "help"
  letter := some 'h'
  taking := .stop .help

def versionParameter : Parameter Choices where
  usage := "--version"
  long := some "version"
  letter := some 'V'
  taking := .stop .version

end Choices

structure CommandForm where
  name : String
  parameters : List (Parameter Choices)
  command : Choices → Command

namespace Command

open Choices

def forms : List CommandForm :=
  [{ name := "rows"
     parameters :=
      [snapshotParameter, layoutParameter, jsonParameter, helpParameter]
     command := fun choices =>
      .rows choices.snapshot choices.layout choices.json },
    { name := "overview"
      parameters := [snapshotParameter, helpParameter]
      command := fun choices => .overview choices.snapshot },
    { name := "filters"
      parameters := [assetParameter, tabParameter, helpParameter]
      command := fun choices => .filters choices.asset choices.tab },
    { name := "config-path"
      parameters := [helpParameter]
      command := fun _ => .settingsPath }]

/-- The command that shows help. -/
def helpName : String := "help"

def form? (name : String) : Option CommandForm :=
  forms.find? (·.name = name)

/-- What is asked for behind the command that shows help. -/
def ofHelpArguments : List String → Refusal
  | [] => .help
  | name :: rest =>
      if name = helpName then
        match rest with
        | [] => .help
        | other :: _ => .usage (.unrecognizedCommand other)
      else
        match form? name, rest with
        | none, _ => .usage (.unrecognizedCommand name)
        | some _, [] => .help
        | some _, other :: _ => .usage (.unrecognizedCommand other)

/-- Behind two dashes no argument names a command. -/
def ofPlainArguments : List String → Refusal
  | [] => .nothingAsked
  | name :: _ =>
      if name = helpName || (form? name).isSome then
        .usage (.unexpectedArgument name)
      else
        .usage (.unrecognizedCommand name)

/-- What is asked for in front of any command: help or the version. -/
def ofOptions (options : Except Refusal (Reading Choices)) : Refusal :=
  match options with
  | .error refusal => refusal
  | .ok _ => .nothingAsked

/-- The command that arguments ask for. -/
def ofArguments : List String → Except Refusal Command
  | [] => .error .nothingAsked
  | first :: rest =>
      let options := [helpParameter, versionParameter]
      match ArgumentForm.of first.toList with
      | .separator => .error (ofPlainArguments rest)
      | .long name value =>
          .error (ofOptions (readLong options ⟨{}, [], none⟩ name value))
      | .letters letters =>
          .error (ofOptions (readLetters options ⟨{}, [], none⟩ letters))
      | .plain =>
          if first = helpName then
            .error (ofHelpArguments rest)
          else
            match form? first with
            | none => .error (.usage (.unrecognizedCommand first))
            | some form => do
                let choices ← choose form.parameters {} rest
                return form.command choices

end Command

end WalletRows
