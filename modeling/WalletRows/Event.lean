import WalletRows.ColorRole
import WalletRows.Lookup
import WalletRows.Text.Terminal

/-!
# Events

What the program notices on its way is returned as a list of events next to the
result.  Events keep what they are about; their sentences are written here only.
-/

namespace WalletRows

/-- How much an event matters. -/
inductive Level where
  | debug
  | info
  | warn
deriving DecidableEq

def Level.name : Level → String
  | .debug => "DEBUG"
  | .info => "INFO"
  | .warn => "WARN"

inductive Event where
  /-- A staking ticket is in no stage and was not spent. -/
  | strayTicket (hash : String)
  | statusLookupFailed (hash : String) (error : LookupError)
  | markerLookupFailed (hash : String) (error : LookupError)
  | rewardLookupFailed (hash : String) (error : LookupError)
  | invalidColor (text : String) (role : ColorRole)
  | settingsNotLoaded (message : String)
  | snapshotLoaded (name : String) (transactions : Nat)
  | rowsFormatted (count : Nat) (wallet : String)
deriving DecidableEq

namespace Event

def level : Event → Level
  | .statusLookupFailed .. | .invalidColor .. => .warn
  | .rowsFormatted .. => .info
  | .strayTicket .. | .markerLookupFailed .. | .rewardLookupFailed ..
  | .settingsNotLoaded .. | .snapshotLoaded .. => .debug

/-- Whether the user of the program is told of an event. -/
def isReported (event : Event) : Bool :=
  event.level ≠ .debug

/-- The part of the program that an event comes from. -/
def source : Event → String
  | .strayTicket .. | .statusLookupFailed .. => "txlens::status"
  | .markerLookupFailed .. | .rewardLookupFailed .. => "txlens::row"
  | .invalidColor .. => "txlens::theme"
  | .settingsNotLoaded .. => "txlens::config"
  | .snapshotLoaded .. => "txlens::snapshot"
  | .rowsFormatted .. => "txlens"

private def countText (count : Nat) : String :=
  .ofList (Decimal.digits count)

def message : Event → String
  | .strayTicket hash =>
      "Ticket " ++ hash ++ " matches no lifecycle filter and has no spender"
  | .statusLookupFailed hash error =>
      "Ticket spender lookup for " ++ hash ++ " failed: " ++ error.message
  | .markerLookupFailed hash error =>
      "Voted/revoked check for " ++ hash ++ " failed: " ++ error.message
  | .rewardLookupFailed hash error =>
      "Spender lookup for " ++ hash ++ " failed: " ++ error.message
  | .invalidColor text role =>
      "Ignoring invalid color '" ++ text ++ "' for " ++ role.label
  | .settingsNotLoaded message =>
      "Config load failed, using defaults: " ++ message
  | .snapshotLoaded name transactions =>
      "Loaded snapshot '" ++ name ++ "' with " ++ countText transactions ++
        " transactions"
  | .rowsFormatted count wallet =>
      "Formatted " ++ countText count ++ " rows for '" ++ wallet ++ "'"

/-- The sentence behind the level. -/
def line (event : Event) : String :=
  event.level.name ++ " " ++ event.message

/-- The sentence behind the level and the source, as a log shows it. -/
def sourceLine (event : Event) : String :=
  event.level.name ++ " " ++ event.source ++ ": " ++
    loggedText event.message

end Event

/-- A result together with what was noticed on the way to it, in order. -/
structure Logged (α : Type) where
  value : α
  events : List Event

namespace Logged

protected def pure {α : Type} (value : α) : Logged α :=
  ⟨value, []⟩

/-- Go on from a result; later events follow earlier ones. -/
protected def bind {α β : Type} (first : Logged α) (next : α → Logged β) :
    Logged β :=
  let second := next first.value
  ⟨second.value, first.events ++ second.events⟩

instance : Monad Logged where
  pure := Logged.pure
  bind := Logged.bind

def note (event : Event) : Logged Unit :=
  ⟨(), [event]⟩

/-- The answer of a lookup; a failed one is noticed and counts as `fallback`. -/
def answerOr {α : Type} (fallback : α) (failed : LookupError → Event) :
    Except LookupError α → Logged α
  | .ok answer => ⟨answer, []⟩
  | .error error => ⟨fallback, [failed error]⟩

/-- Apply a function that may notice something to each element, in order. -/
def mapList {α β : Type} (function : α → Logged β) : List α → Logged (List β)
  | [] => ⟨[], []⟩
  | element :: rest =>
      let first := function element
      let others := mapList function rest
      ⟨first.value :: others.value, first.events ++ others.events⟩

end Logged

end WalletRows
