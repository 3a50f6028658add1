import WalletRows.Event
import WalletRows.FileTree
import WalletRows.Snapshot.Record

/-!
# Snapshot files

A snapshot is loaded from a text file.  Loading fails if the file cannot be
read, or if its text is no snapshot.
-/

namespace WalletRows

inductive SnapshotError where
  | unreadable (path : String) (cause : FileError)
  | invalid (cause : Json.Error)
deriving DecidableEq

namespace SnapshotError

def cause : SnapshotError → String
  | .unreadable _ cause => cause.message
  | .invalid cause => cause.message

def message : SnapshotError → String
  | .unreadable path cause =>
      "Failed to read snapshot '" ++ path ++ "': " ++ cause.message
  | .invalid cause => "Invalid snapshot: " ++ cause.message

end SnapshotError

namespace Snapshot

/-- Load a snapshot from the content of a file, or from the failure to read
it. -/
def load (path : String) (content : Except FileError String) :
    Except SnapshotError (Logged Snapshot) := do
  let text ← content.mapError (.unreadable path)
  let snapshot ← (ofText text).mapError .invalid
  return ⟨snapshot,
    [.snapshotLoaded snapshot.name snapshot.transactions.length]⟩

end Snapshot

end WalletRows
