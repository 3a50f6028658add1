import Std.Time.DateTime.Timestamp
import WalletRows.Command.Run

/-!
# The program

The outer layer: it reads the surroundings of a command, runs it, and prints its
outcome.
-/

namespace WalletRows

namespace Program

/-- The number of the failure to read a directory as a file. -/
def directoryCode : UInt32 := 21

/-- A failure of the system as a failure of an operation on files. -/
def fileError : IO.Error → FileError
  | .noFileOrDirectory .. => .notFound
  | .alreadyExists .. => .alreadyExists
  | .inappropriateType _ code _ =>
      if code = directoryCode then .isADirectory else .notADirectory
  | error => .refused (toString error)

def onFiles {α : Type} (operation : IO α) : IO (Except FileError α) := do
  match ← operation.toBaseIO with
  | .ok value => return .ok value
  | .error error => return .error (fileError error)

def readText (path : String) : IO (Except FileError String) := do
  match ← onFiles (IO.FS.readBinFile path) with
  | .error error => return .error error
  | .ok bytes =>
      match String.fromUTF8? bytes with
      | some text => return .ok text
      | none => return .error .invalidText

/-- The path of the settings file, whose directory is made. -/
def settingsPath : IO (Except SettingsError String) := do
  let directories : Directories :=
    { settings := ← IO.getEnv "XDG_CONFIG_HOME", home := ← IO.getEnv "HOME" }
  match directories.ownSettings with
  | .error error => return .error error
  | .ok directory =>
      match ← onFiles (IO.FS.createDirAll directory) with
      | .error error => return .error (.file error)
      | .ok () => return .ok (Directories.settingsFile directory)

/-- Read what a command is run with. -/
def surroundings (command : Command) : IO Surroundings := do
  let path ← settingsPath
  let settings ←
    match path with
    | .error error => pure (.error error)
    | .ok file => pure (Settings.ofContent (← readText file))
  let content ←
    match command.snapshotFile? with
    | some file => readText file
    | none => pure (.error .notFound)
  let now ← Std.Time.Timestamp.now
  return {
    settingsPath := path
    settings := Settings.orDefault settings
    content := content
    now := now.toSecondsSinceUnixEpoch.val }

def report (outcome : Outcome) : IO Unit := do
  IO.print outcome.output
  for event in outcome.events do
    if event.isReported then
      IO.eprintln event.sourceLine
  if let some usage := outcome.usage then
    IO.eprintln usage
  for error in outcome.errors do
    IO.eprintln ("Error: " ++ error)

end Program

end WalletRows

open WalletRows in
def main (arguments : List String) : IO UInt32 := do
  let outcome ←
    match Command.ofArguments arguments with
    | .error refusal =>
        if refusal = .nothingAsked then
          IO.eprint Outcome.helpText
        pure (Outcome.refused refusal)
    | .ok command => pure (command.run (← Program.surroundings command))
  Program.report outcome
  return outcome.code.toUInt32
