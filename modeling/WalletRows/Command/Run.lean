import WalletRows.Command
import WalletRows.Overview
import WalletRows.Row.Format
import WalletRows.Row.Lines
import WalletRows.Settings.File
import WalletRows.Snapshot.File

/-!
# Running a command

A command is run in surroundings that hold all that was read for it.  It leaves
an outcome: what is printed, what is reported, and the exit code.
-/

namespace WalletRows

/-- What a command is run with. -/
structure Surroundings where
  settingsPath : Except SettingsError String
  settings : Logged Settings
  /-- The content of the file that the command reads. -/
  content : Except FileError String
  /-- The present time in seconds since the start of 1970. -/
  now : Int
  /-- How many seconds the time of the user is ahead of UTC. -/
  offset : Zone := .fixed 0

/-- What a run of the program leaves. -/
structure Outcome where
  code : Nat
  output : String := ""
  /-- The reported error and what caused it. -/
  errors : List String := []
  /-- What is wrong with the arguments. -/
  usage : Option String := none
  events : List Event := []

namespace Outcome

def printed (output : Logged String) : Outcome where
  code := 0
  output := output.value
  events := output.events

/-- A run that failed with an error and what caused it. -/
def failed (errors : List String) : Outcome where
  code := 1
  errors := errors

def versionText : String := "txlens 0.1.0"

def helpText : String :=
  String.join
    ["txlens - classify and format wallet transactions\n\n",
      "Usage: txlens <COMMAND>\n\n",
      "Commands:\n",
      "  rows         Print the rows of every transaction in a wallet snapshot\n",
      "  overview     Count tickets per lifecycle stage in a wallet snapshot\n",
      "  filters      List the transaction filter dropdown for an asset and tab\n",
      "  config-path  Print the configuration file location\n",
      "  help         Print this message or the help of the given ",
      "subcommand(s)\n\n",
      "Options:\n",
      "  -h, --help     Print help\n",
      "  -V, --version  Print version\n"]

def refused : Refusal → Outcome
  | .usage error => { code := 2, usage := some error.message }
  | .help => { code := 0, output := helpText }
  | .version => { code := 0, output := versionText ++ "\n" }
  | .nothingAsked => { code := 2 }

end Outcome

namespace Command

/-- The text of a row: its lines, and an empty one. -/
def rowText (palette : Palette) (row : Row) : String :=
  let lines := (row.lines palette).map fun line => String.ofList line.text
  String.join (lines.map (· ++ "\n")) ++ "\n"

/-- The rows as text in the colors of the settings, or as JSON. -/
def rowsText (settings : Settings) (json : Bool) (rows : List Row) :
    Logged String :=
  if json then
    return (Json.Value.list (rows.map Row.toJson)).pretty ++ "\n"
  else do
    let palette ← settings.colors
    return String.join (rows.map (rowText palette))

def showRows (settings : Settings) (layout : Option Layout) (json : Bool)
    (now : Int) (offset : Zone) (snapshot : Snapshot) : Logged String := do
  let view : View :=
    { locale := settings.locale
      layout := layout.getD settings.layout
      now := now
      offset := offset }
  let rows ← snapshot.wallet.formatRows snapshot.transactions view
  let text ← rowsText settings json rows
  Logged.note (.rowsFormatted rows.length snapshot.name)
  return text

def showOverview (snapshot : Snapshot) : Logged String := do
  let overview ← snapshot.wallet.overview snapshot.transactions
  return overview.toJson.pretty ++ "\ntotal: " ++
    .ofList (Decimal.digits overview.total) ++ "\n"

def showFilters (settings : Settings) (asset : Asset) (tab : Tab) : String :=
  let lines := (dropdown asset tab).map fun (label, filter) =>
    settings.locale.text label ++ "\t" ++ Named.name filter ++ "\n"
  String.join lines

/-- Run a command on the snapshot that it reads. -/
def onSnapshot (path : String) (surroundings : Surroundings)
    (run : Snapshot → Logged String) : Outcome :=
  match Snapshot.load path surroundings.content with
  | .error error => .failed [error.message, error.cause]
  | .ok snapshot => .printed (do run (← snapshot))

/-- Run a command with the settings that were loaded. -/
def runWith (command : Command) (surroundings : Surroundings)
    (settings : Settings) : Outcome :=
  match command with
  | .rows path layout json =>
      onSnapshot path surroundings
        (showRows settings layout json surroundings.now surroundings.offset)
  | .overview path => onSnapshot path surroundings showOverview
  | .filters asset tab =>
      match Tab.ofIndex? tab with
      | none =>
          .failed ["unknown tab index " ++ .ofList (Decimal.digits tab)]
      | some tab => .printed (return showFilters settings asset tab)
  | .settingsPath =>
      match surroundings.settingsPath with
      | .error error => .failed [error.message]
      | .ok path => .printed (return path ++ "\n")

/-- Run a command.  The settings are loaded first. -/
def run (command : Command) (surroundings : Surroundings) : Outcome :=
  let settings := surroundings.settings
  let outcome := command.runWith surroundings settings.value
  { outcome with events := settings.events ++ outcome.events }

/-- Run the program in a file tree, in which relative paths start from the
directory `here`. -/
def runIn (tree : FileTree) (directories : Directories) (here : String)
    (now : Int) (arguments : List String) : Outcome :=
  match ofArguments arguments with
  | .error refusal => .refused refusal
  | .ok command =>
      let loaded := Settings.load tree directories
      command.run
        { settingsPath := (Settings.path tree directories).2
          settings := loaded.2
          content := loaded.1.readFrom here (command.snapshotFile?.getD "")
          now := now }

end Command

end WalletRows
