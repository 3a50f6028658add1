/-!
# Text on a terminal

Some characters are not shown on a terminal but steer it, alone or in a sequence
that the escape character opens.  A log shows such characters by their codes.
Where a message is printed as plain text they are left out, and so is what
belongs to their sequences.

Sequences are made of bytes.  A character that has several bytes in UTF-8 belongs
to none, but one of its bytes may end a hidden text.
-/

namespace WalletRows

/-- The character that opens a sequence. -/
def escapeCharacter : Char := '\x1b'

/-- The characters that steer a terminal and are written with two digits. -/
def steeringCharacters : List Char :=
  ['\x07', '\x08', '\x0c', escapeCharacter, '\x7f']

def loggedCharacter (character : Char) : List Char :=
  let digits := Nat.toDigits 16 character.toNat
  if character ∈ steeringCharacters then
    '\\' :: 'x' :: (List.replicate (2 - digits.length) '0' ++ digits)
  else if '\x80' ≤ character ∧ character ≤ '\x9f' then
    ['\\', 'u', '{'] ++ digits ++ ['}']
  else
    [character]

def loggedText (text : String) : String :=
  .ofList (text.toList.flatMap loggedCharacter)

/-- Where in a sequence a character stands. -/
inductive SequenceState where
  | outside
  /-- Behind the escape character. -/
  | opened
  /-- Behind marks that follow the escape character. -/
  | marked
  /-- Among the numbers that a bracket opens and a letter ends. -/
  | numbered
  /-- Directly behind the letter that announces a hidden text. -/
  | announced
  /-- Among the numbers in front of a hidden text. -/
  | counted
  /-- Behind marks in front of a hidden text. -/
  | designated
  /-- In a hidden text, which its last byte ends. -/
  | hidden
  /-- In a title, which a bell ends. -/
  | titled
  /-- In a sequence that a blank interrupts: what follows is shown until a
  character cannot be. -/
  | paused (interrupted : SequenceState)
deriving DecidableEq

namespace SequenceState

/-- Whether a character is white space that is shown even in a sequence. -/
def isBlank (character : Char) : Bool :=
  character ∈ ['\t', '\n', '\x0c', '\r']

/-- Whether a character outside of any sequence is kept. -/
def isKept (character : Char) : Bool :=
  isBlank character || (' ' ≤ character && character ≠ '\x7f')

def isSingleByte (character : Char) : Bool :=
  character ≤ '\x7f'

/-- Whether a character is one of the marks in front of a final one. -/
def isMark (character : Char) : Bool :=
  ' ' ≤ character && character ≤ '/'

/-- Whether a character stands for a digit or separates numbers. -/
def isCount (character : Char) : Bool :=
  '0' ≤ character && character ≤ ';'

/-- Whether a character is a sign in front of numbers. -/
def isSign (character : Char) : Bool :=
  '<' ≤ character && character ≤ '?'

/-- Whether a character is a letter or sign that ends numbers. -/
def isFinal (character : Char) : Bool :=
  '@' ≤ character && character ≤ '~'

/-- The byte that ends a hidden text. -/
def lastByte : UInt8 := 0x9C

/-- Whether a character contains the byte that ends a hidden text. -/
def endsHidden (character : Char) : Bool :=
  (String.utf8EncodeChar character).contains lastByte

/-- The state behind a character that follows the escape character. -/
def ofOpening (character : Char) : SequenceState :=
  if character = '[' then .numbered
  else if character = ']' then .titled
  else if character = 'P' then .announced
  else if character ∈ ['X', '^', '_'] then .hidden
  else if isMark character then .marked
  else if '0' ≤ character && character ≤ '~' then .outside
  else .opened

/-- The state behind a character that follows the announcement of a hidden
text. -/
def ofAnnouncement (character : Char) : SequenceState :=
  if isMark character then .designated
  else if isCount character || isSign character then .counted
  else if isFinal character then .hidden
  else .announced

/-- The state behind a character that follows numbers in front of a hidden
text. -/
def ofCount (character : Char) : SequenceState :=
  if isMark character then .designated
  else if isSign character || isFinal character then .hidden
  else .counted

/-- The state behind a character that follows marks in front of a hidden
text. -/
def ofDesignation (character : Char) : SequenceState :=
  if isCount character || isSign character || isFinal character then .hidden
  else .designated

/-- The state behind a character that does not open or break off a sequence. -/
def after (state : SequenceState) (character : Char) : SequenceState :=
  match state with
  | .outside | .paused _ => .outside
  | .opened => ofOpening character
  | .marked =>
      if '0' ≤ character && character ≤ '~' then .outside else .marked
  | .numbered => if isFinal character then .outside else .numbered
  | .announced => ofAnnouncement character
  | .counted => ofCount character
  | .designated => ofDesignation character
  | .hidden => if endsHidden character then .outside else .hidden
  | .titled => if character = '\x07' then .outside else .titled

def showsBlanks : SequenceState → Bool
  | .outside | .opened | .marked | .numbered | .paused _ => true
  | .announced | .counted | .designated | .hidden | .titled => false

/-- The state behind a character outside of a pause, and whether the character
is shown. -/
def stepUnpaused (state : SequenceState) (character : Char) :
    SequenceState × Bool :=
  if character = escapeCharacter then (.opened, false)
  else if character = '\x18' ∨ character = '\x1a' then (.outside, false)
  else if state = .outside then (.outside, isKept character)
  else if isBlank character && state.showsBlanks then (.paused state, true)
  else (state.after character, false)

/-- The state behind a character, and whether the character is shown. -/
def step (state : SequenceState) (character : Char) : SequenceState × Bool :=
  match state with
  | .paused interrupted =>
      if isKept character then
        (if isSingleByte character then .paused interrupted else .outside, true)
      else
        interrupted.stepUnpaused character
  | state => state.stepUnpaused character

def shown (state : SequenceState) : List Char → List Char
  | [] => []
  | character :: rest =>
      let (next, isShown) := state.step character
      let later := next.shown rest
      if isShown then character :: later else later

def behind (state : SequenceState) (text : List Char) : SequenceState :=
  text.foldl (fun state character => (state.step character).1) state

end SequenceState

inductive MessagePart where
  | plain (text : String)
  /-- A part in a style of its own.  It stands between two sequences, so one that
  was left open in front of it or in it ends there. -/
  | styled (text : String)
deriving DecidableEq

namespace MessagePart

/-- What is shown of the parts of a message. -/
def shownFrom (state : SequenceState) : List MessagePart → List Char
  | [] => []
  | .plain text :: rest =>
      state.shown text.toList ++ shownFrom (state.behind text.toList) rest
  | .styled text :: rest =>
      SequenceState.outside.shown text.toList ++
        shownFrom .outside rest

def shownText (parts : List MessagePart) : String :=
  .ofList (shownFrom .outside parts)

end MessagePart

end WalletRows
