import WalletRows.Transaction

/-!
# Lookups and cancellation

A wallet may fail to answer a question about a ticket.  A lookup is asked with a
handle on which its caller may have requested to stop; handles that were cloned
from one another share the request.
-/

namespace WalletRows

/-- Why a wallet did not answer. -/
inductive LookupError where
  /-- The wallet failed. -/
  | backend (message : String)
  /-- The wallet does not know what it was asked about. -/
  | notFound (entity id : String)
  /-- The caller requested to stop. -/
  | cancelled
deriving DecidableEq

def LookupError.message : LookupError → String
  | .backend message => "Wallet backend error: " ++ message
  | .notFound entity id => entity ++ " '" ++ id ++ "' not found"
  | .cancelled => "Lookup cancelled"

/-- Ask a question, unless the caller has requested to stop. -/
def askUnlessCancelled {α : Type} (ask : String → Except LookupError α)
    (hash : String) (cancelled : Bool) : Except LookupError α :=
  if cancelled then .error .cancelled else ask hash

/-- The handles given out so far.  Each belongs to a group, and a group is
cancelled as a whole. -/
structure Handles where
  /-- The group of each handle, in the order in which they were given out. -/
  groups : List Nat := []
  /-- The groups that are cancelled. -/
  cancelled : List Nat := []

namespace Handles

/-- Give out a handle with a group of its own. -/
def issue (handles : Handles) : Handles :=
  { handles with groups := handles.groups ++ [handles.groups.length] }

def group? (handles : Handles) (handle : Nat) : Option Nat :=
  handles.groups[handle]?

/-- Give out another handle of the same group. -/
def clone (handles : Handles) (handle : Nat) : Handles :=
  match handles.group? handle with
  | some group => { handles with groups := handles.groups ++ [group] }
  | none => handles

/-- Request to stop through a handle. -/
def cancel (handles : Handles) (handle : Nat) : Handles :=
  match handles.group? handle with
  | some group => { handles with cancelled := group :: handles.cancelled }
  | none => handles

/-- Whether a stop was requested through a handle or one that shares its group. -/
def isCancelled (handles : Handles) (handle : Nat) : Bool :=
  match handles.group? handle with
  | some group => handles.cancelled.contains group
  | none => false

/-- Whether each handle is cancelled. -/
def states (handles : Handles) : List Bool :=
  handles.groups.map fun group => handles.cancelled.contains group

end Handles

end WalletRows
