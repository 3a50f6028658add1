import WalletRows.Phrase
import WalletRows.Template

/-!
# Locales

A locale is the English wording with some phrases replaced.
-/

namespace WalletRows

/-- The wording that rows use. -/
structure Locale where
  /-- The wording of the phrases that are replaced. -/
  replaced : Phrase → Option String := fun _ => none

namespace Locale

def english : Locale := {}

def text (locale : Locale) (phrase : Phrase) : String :=
  (locale.replaced phrase).getD phrase.english

/-- The wording of a phrase with its holes filled. -/
def fill (locale : Locale) (phrase : Phrase) (arguments : List String) : String :=
  .ofList <|
    Template.fill (locale.text phrase).toList (arguments.map String.toList)

end Locale

end WalletRows
