import WalletRows.Text.Break
import WalletRows.Text.Conjunct
import WalletRows.Text.Picture

/-!
# Clusters

A cluster is what a reader takes for one character: a letter with its accents, a
Korean syllable, linked consonants, a flag, or joined pictures.  A text is split
into clusters from left to right.  Whether a character goes on with the cluster
before it depends on the class of both, and where pictures or consonants are
linked or letters make a flag, on how the cluster ends.
-/

namespace WalletRows

/-- How far the end of a cluster has come to be linked with a character that
starts like it. -/
inductive LinkState where
  /-- The cluster ends in nothing that can be linked. -/
  | closed
  /-- The cluster ends in something that can be linked. -/
  | opened
  /-- The link is there as well. -/
  | linked
deriving DecidableEq

namespace LinkState

/-- The state after one more character for the link between pictures: a joiner,
directly behind a picture and what is drawn on top of it. -/
def ofPictures (before : LinkState) (character : Char) : LinkState :=
  if pictographs.contains character then
    .opened
  else
    match before, BreakClass.of character with
    | .opened, .combining => .opened
    | .opened, .joiner => .linked
    | _, _ => .closed

/-- A character that keeps two letters from being joined. -/
def zeroWidthNonJoiner : Char := '\u200c'

/-- The state after one more character for the link between consonants: at least
one linking sign among what is drawn on top of the first one. -/
def ofConsonants (before : LinkState) (character : Char) : LinkState :=
  if linkedConsonants.contains character then
    .opened
  else if consonantLinks.contains character then
    match before with
    | .closed => .closed
    | .opened | .linked => .linked
  else
    match BreakClass.of character with
    | .combining | .joiner =>
        if character = zeroWidthNonJoiner then .closed else before
    | _ => .closed

end LinkState

/-- What the end of a cluster says about how it can go on. -/
structure ClusterEnd where
  last : BreakClass
  /-- The link to another picture. -/
  pictures : LinkState
  /-- The link to another consonant. -/
  consonants : LinkState
  /-- Whether the last character is a letter of a flag that lacks the other
  one. -/
  halfFlag : Bool
deriving DecidableEq

namespace ClusterEnd

/-- The end of a cluster that is a single character. -/
def ofFirst (character : Char) : ClusterEnd where
  last := .of character
  pictures := LinkState.closed.ofPictures character
  consonants := LinkState.closed.ofConsonants character
  halfFlag := BreakClass.of character = .flagLetter

/-- The end of a cluster to which a character is added. -/
def add (ending : ClusterEnd) (character : Char) : ClusterEnd where
  last := .of character
  pictures := ending.pictures.ofPictures character
  consonants := ending.consonants.ofConsonants character
  halfFlag := BreakClass.of character = .flagLetter && !ending.halfFlag

/-- Whether a character completes a link that the cluster ends in. -/
def completesLink (ending : ClusterEnd) (character : Char) : Bool :=
  (ending.consonants = .linked && linkedConsonants.contains character) ||
    (ending.pictures = .linked && pictographs.contains character)

/-- Whether a character goes on with the cluster. -/
def takes (ending : ClusterEnd) (character : Char) : Bool :=
  let next := BreakClass.of character
  if ending.last.isAlone || next.isAlone then
    ending.last = .carriageReturn && next = .lineFeed
  else if next.isAttached || ending.last = .preceding then
    true
  else
    match ending.last, next with
    | .jamo first, .jamo second => first.joins second
    | .flagLetter, .flagLetter => ending.halfFlag
    | _, _ => ending.completesLink character

end ClusterEnd

/-- Split what follows a cluster into what still belongs to it and the later
clusters. -/
def clustersBehind (ending : ClusterEnd) :
    List Char → List Char × List (List Char)
  | [] => ([], [])
  | character :: rest =>
      if ending.takes character then
        let (own, later) := clustersBehind (ending.add character) rest
        (character :: own, later)
      else
        let (own, later) := clustersBehind (.ofFirst character) rest
        ([], (character :: own) :: later)

def clusters : List Char → List (List Char)
  | [] => []
  | character :: rest =>
      let (own, later) := clustersBehind (.ofFirst character) rest
      (character :: own) :: later

end WalletRows
