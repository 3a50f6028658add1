import WalletRows.Text.Break
import WalletRows.Text.Picture
import WalletRows.Text.Unspaced
import WalletRows.Text.Wide

/-!
# Widths of clusters

A cluster takes as many cells of a screen as its characters together, with a few
exceptions: joined pictures take the place of one, a picture with a skin tone
that of the picture, the selector of the colored form makes a picture wide and
that of the plain form makes it narrow, and a letter below a Khmer consonant
takes no place.  These depend on what follows a character, so a cluster is
measured from its end.
-/

namespace WalletRows

/-- The character that selects the plain form of the picture before it. -/
def plainSelector : Char := '\ufe0e'

/-- The character that selects the colored form of the picture before it. -/
def coloredSelector : Char := '\ufe0f'

/-- The frame of a key, drawn around the character before it. -/
def keyFrame : Char := '\u20e3'

/-- The sign that puts a Khmer letter below the one before it. -/
def subscriptSign : Char := '\u17d2'

/-- The black flag that tags turn into the flag of a region. -/
def blackFlag : Char := Char.ofNat 0x1F3F4

/-- The tag that ends the name of a region. -/
def lastTag : Char := Char.ofNat 0xE007F

def isLetterTag (character : Char) : Bool :=
  0xE0061 ≤ character.toNat && character.toNat ≤ 0xE007A

def isDigitTag (character : Char) : Bool :=
  0xE0030 ≤ character.toNat && character.toNat ≤ 0xE0039

/-- The Khmer letters that can stand below another one. -/
def subscriptLetters : CharacterTable where
  ranges := [
    (0x1780, 0x1782), (0x1784, 0x1787), (0x1789, 0x178C), (0x178E, 0x1793),
    (0x1795, 0x1798), (0x179B, 0x179D), (0x17A0, 0x17A0), (0x17A2, 0x17A2),
    (0x17A7, 0x17A7), (0x17AB, 0x17AC), (0x17AF, 0x17AF)]

/-- The last character that needs no table: up to it all characters take one
cell. -/
def lastSimple : Char := '\u00a0'

/-- The Khmer sign that is three letters wide. -/
def wideSign : Char := '\u17d8'

/-- The number of cells that a character takes on its own. -/
def characterWidth (character : Char) : Nat :=
  if character ≤ lastSimple then 1
  else if unspacedCharacters.contains character then 0
  else if character = wideSign then 3
  else if wideCharacters.contains character then 2
  else 1

/-- What a character finds behind it, as far as it matters for its width. -/
inductive Following where
  /-- Nothing that matters. -/
  | plain
  | lineFeed
  | plainSelector
  /-- The selector of the colored form, and whether a joined picture follows
  it. -/
  | coloredSelector (joined : Bool)
  | picture
  | skinTone
  | joinedPicture
  /-- The frame of a key in front of those. -/
  | joinedKey
  /-- The tags of a flag in front of a joiner and a picture: how many letters,
  and how many digits before them. -/
  | joinedTags (letters digits : Nat)
  /-- A Khmer letter that can stand below another one. -/
  | subscriptLetter
deriving DecidableEq

namespace Following

/-- The width of a character that nothing behind it changes, and what it is for
the character before it. -/
def unchanged (character : Char) : Nat × Following :=
  let width := characterWidth character
  if character = '\n' then (width, .lineFeed)
  else if character = WalletRows.plainSelector then (width, .plainSelector)
  else if character = WalletRows.coloredSelector then
    (width, .coloredSelector false)
  else if isSkinTone character then (width, .skinTone)
  else if coloredPictures.contains character then (width, .picture)
  else if subscriptLetters.contains character then (width, .subscriptLetter)
  else (width, .plain)

/-- The width of a character in front of tags.  A region has three to six
letters, or up to four letters with three digits before them. -/
def beforeTags (letters digits : Nat) (character : Char) : Nat × Following :=
  if isLetterTag character && digits = 0 && letters < 6 then
    (0, .joinedTags (letters + 1) 0)
  else if isDigitTag character &&
      (if digits = 0 then letters ≤ 4 else digits < 3) then
    (0, .joinedTags letters (digits + 1))
  else if character = blackFlag &&
      (digits = 3 || (digits = 0 && 3 ≤ letters)) then
    (0, .picture)
  else
    unchanged character

/-- The width of a character in front of a joiner and a picture.  Whatever makes
one picture with them has no width of its own. -/
def beforeJoined (character : Char) : Nat × Following :=
  if character = WalletRows.coloredSelector then (0, .coloredSelector true)
  else if character = keyFrame then (0, .joinedKey)
  else if isSkinTone character then (0, .skinTone)
  else if character = lastTag then (0, .joinedTags 0 0)
  else if coloredPictures.contains character then (0, .picture)
  else unchanged character

/-- The width of a character in front of something, and what it is for the
character before it. -/
def measure (character : Char) (following : Following) : Nat × Following :=
  match following with
  | .plain => unchanged character
  | .lineFeed =>
      if character = '\r' then (0, .plain) else unchanged character
  | .plainSelector =>
      if plainablePictures.contains character then (1, .plain)
      else unchanged character
  | .coloredSelector joined =>
      if variablePictures.contains character then
        (if joined then 0 else 2, .picture)
      else
        unchanged character
  | .picture =>
      if character = zeroWidthJoiner then (0, .joinedPicture)
      else unchanged character
  | .skinTone =>
      if tonedPictures.contains character then (0, .picture)
      else if character = zeroWidthJoiner then (0, .joinedPicture)
      else unchanged character
  | .joinedPicture => beforeJoined character
  | .joinedKey =>
      if character = WalletRows.coloredSelector then (0, .coloredSelector true)
      else unchanged character
  | .joinedTags letters digits => beforeTags letters digits character
  | .subscriptLetter =>
      if character = zeroWidthJoiner || ignorableMarks.contains character then
        (0, .subscriptLetter)
      else
        unchanged character

end Following

/-- The number of cells of a character and all that is behind it, and what they
are for the character before them.  The sign that puts a letter below another
one takes back the cell of that letter. -/
def measureOnto (character : Char) : Nat × Following → Nat × Following
  | (cells, following) =>
      if following = .subscriptLetter && character = subscriptSign then
        (cells - 1, .plain)
      else
        let (width, before) := following.measure character
        (width + cells, before)

def clusterWidth (cluster : List Char) : Nat :=
  (cluster.foldr measureOnto (0, .plain)).1

end WalletRows
