import WalletRows.Json.Decode
import WalletRows.Locale
import WalletRows.Palette
import WalletRows.Row

/-!
# Settings

The settings replace the wording of phrases and the colors of roles, and choose
the layout of rows.  Colors are kept as texts; those that cannot be read are
noticed when a palette is made of them.
-/

namespace WalletRows

/-- What a user has chosen. -/
structure Settings where
  /-- The wording of the phrases that are replaced. -/
  strings : Phrase → Option String := fun _ => none
  /-- The texts of the colors that are replaced. -/
  palette : ColorRole → Option String := fun _ => none
  /-- The layout where none is asked for. -/
  layout : Layout := .overview

def replaceText {α : Type} [DecidableEq α] (texts : α → Option String)
    (choice : α) (text : String) : α → Option String :=
  fun other => if other = choice then some text else texts other

/-- The choices that have a text, in their listed order. -/
def replacedTexts {α : Type} [Named α] (texts : α → Option String) :
    List (α × String) :=
  (Named.all : List α).filterMap fun choice =>
    (texts choice).map (choice, ·)

/-- Decode texts of choices.  A choice that is given twice has the text given
last. -/
def textsReader {α : Type} [Named α] [DecidableEq α] :
    Json.Reader (α → Option String) :=
  Json.map Json.named Json.text (fun _ => none) replaceText

/-- The written form of texts of choices in a given order. -/
def textsToJson {α : Type} [Named α] (texts : List (α × String)) : Json.Value :=
  .object (texts.map fun (choice, text) => (Named.name choice, .string text))

namespace Settings

def locale (settings : Settings) : Locale where
  replaced := settings.strings

def colors (settings : Settings) : Logged Palette :=
  Palette.ofTexts (replacedTexts settings.palette)

def fields : List (Json.Field Settings) :=
  [.of "strings" textsReader fun value stored => { stored with strings := value },
    .of "palette" textsReader fun value stored => { stored with palette := value },
    .of "layout" Json.choice fun value stored => { stored with layout := value }]

def reader : Json.Reader Settings :=
  Json.record "AppConfig" fields {}

/-- Read settings from a JSON text. -/
def ofText (text : String) : Except Json.Error Settings :=
  Json.decode reader text

/-- The written form with the texts in a given order. -/
def toJsonOrdered (settings : Settings) (strings : List (Phrase × String))
    (palette : List (ColorRole × String)) : Json.Value :=
  .object
    [("strings", textsToJson strings), ("palette", textsToJson palette),
      ("layout", .ofNamed settings.layout)]

/-- The written form, with the texts in their listed order. -/
def toJson (settings : Settings) : Json.Value :=
  settings.toJsonOrdered (replacedTexts settings.strings)
    (replacedTexts settings.palette)

end Settings

end WalletRows
