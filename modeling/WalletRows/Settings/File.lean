import WalletRows.FileTree
import WalletRows.Settings

/-!
# Settings files

Settings are kept in one file in the directory for the settings of programs.
Whoever starts the program may name that directory by an absolute path; else it
lies in the home directory.  The program has a directory of its own in it, which
is made when the path of the file is asked for.
-/

namespace WalletRows

/-- Why settings are not loaded or saved. -/
inductive SettingsError where
  | noDirectory
  | file (cause : FileError)
  | invalid (cause : Json.Error)
deriving DecidableEq

def SettingsError.message : SettingsError → String
  | .noDirectory =>
      "Could not determine config directory. Expected XDG_CONFIG_HOME or " ++
        "~/.config on Linux, ~/Library/Application Support on macOS, " ++
        "%APPDATA% on Windows"
  | .file cause => cause.message
  | .invalid cause => cause.message

/-- The directories that whoever starts the program names. -/
structure Directories where
  /-- The directory for the settings of programs. -/
  settings : Option String
  home : Option String

namespace Directories

/-- The directory for the settings of programs.  A relative path is ignored. -/
def forSettings? (directories : Directories) : Option String :=
  match directories.settings.filter fun path => path.startsWith "/" with
  | some path => some path
  | none => directories.home.map (· ++ "/.config")

/-- The directory for the settings of this program. -/
def ownSettings (directories : Directories) : Except SettingsError String :=
  match directories.forSettings? with
  | some directory => .ok (directory ++ "/txlens")
  | none => .error .noDirectory

def settingsFile (directory : String) : String :=
  directory ++ "/config.json"

end Directories

namespace Settings

/-- The path of the settings file, and the tree with its directory. -/
def path (tree : FileTree) (directories : Directories) :
    FileTree × Except SettingsError String :=
  match directories.ownSettings with
  | .error error => (tree, .error error)
  | .ok directory =>
      match tree.makeDirectories directory with
      | (made, .error error) => (made, .error (.file error))
      | (made, .ok ()) => (made, .ok (Directories.settingsFile directory))

/-- Read settings from the content of a file, or from the failure to read it. -/
def ofContent (content : Except FileError String) :
    Except SettingsError Settings := do
  let text ← content.mapError .file
  (ofText text).mapError .invalid

def loadFrom (tree : FileTree) (path : String) : Except SettingsError Settings :=
  ofContent (tree.read path)

/-- Settings that were loaded, or the default ones with the reason noticed. -/
def orDefault : Except SettingsError Settings → Logged Settings
  | .ok settings => ⟨settings, []⟩
  | .error error => ⟨{}, [.settingsNotLoaded error.message]⟩

/-- Load settings from their own file, whose directory is made. -/
def load (tree : FileTree) (directories : Directories) :
    FileTree × Logged Settings :=
  match path tree directories with
  | (made, .error error) => (made, orDefault (.error error))
  | (made, .ok file) => (made, orDefault (loadFrom made file))

/-- Save settings to a file, with their texts written in a given order. -/
def saveOrdered (settings : Settings) (strings : List (Phrase × String))
    (palette : List (ColorRole × String)) (tree : FileTree) (path : String) :
    Except SettingsError FileTree :=
  (tree.write path (settings.toJsonOrdered strings palette).pretty).mapError
    .file

/-- Save settings to a file, with their texts in their listed order. -/
def saveTo (settings : Settings) (tree : FileTree) (path : String) :
    Except SettingsError FileTree :=
  settings.saveOrdered (replacedTexts settings.strings)
    (replacedTexts settings.palette) tree path

/-- Save settings to their own file, whose directory is made. -/
def save (settings : Settings) (tree : FileTree) (directories : Directories) :
    FileTree × Except SettingsError Unit :=
  match path tree directories with
  | (made, .error error) => (made, .error error)
  | (made, .ok file) =>
      match settings.saveTo made file with
      | .error error => (made, .error error)
      | .ok saved => (saved, .ok ())

end Settings

end WalletRows
