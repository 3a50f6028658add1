import WalletRows.Text.Decimal

/-!
# Terminal colors

A color is one of the sixteen named ones, an index into a table of 256, or a
mixture of red, green and blue.  Names are read in any case, with or without
separators, and under several spellings.
-/

namespace WalletRows

inductive Color where
  /-- The color that the terminal has by itself. -/
  | reset
  | black
  | red
  | green
  | yellow
  | blue
  | magenta
  | cyan
  | gray
  | darkGray
  | lightRed
  | lightGreen
  | lightYellow
  | lightBlue
  | lightMagenta
  | lightCyan
  | white
  | indexed (index : UInt8)
  | rgb (red green blue : UInt8)
deriving DecidableEq

namespace Color

def namedColors : List (String × Color) :=
  [("Reset", .reset), ("Black", .black), ("Red", .red), ("Green", .green),
    ("Yellow", .yellow), ("Blue", .blue), ("Magenta", .magenta),
    ("Cyan", .cyan), ("Gray", .gray), ("DarkGray", .darkGray),
    ("LightRed", .lightRed), ("LightGreen", .lightGreen),
    ("LightYellow", .lightYellow), ("LightBlue", .lightBlue),
    ("LightMagenta", .lightMagenta), ("LightCyan", .lightCyan),
    ("White", .white)]

/-- Two upper-case hexadecimal digits. -/
def hexByte (byte : UInt8) : List Char :=
  let digit (number : Nat) : Char :=
    if number < 10 then Decimal.digitChar number
    else Char.ofNat ('A'.toNat + (number - 10))
  [digit (byte.toNat / 16), digit (byte.toNat % 16)]

/-- The text of a color: its name, its index, or its mixture. -/
def text : Color → String
  | .indexed index => .ofList (Decimal.digits index.toNat)
  | .rgb redPart greenPart bluePart =>
      .ofList
        ('#' :: (hexByte redPart ++ hexByte greenPart ++ hexByte bluePart))
  | color =>
      match namedColors.find? fun entry => entry.2 = color with
      | some (name, _) => name
      | none => ""

/-- A character in lower case.  Besides the capital letters the sign for kelvin
has a lower case among the letters `a` to `z`. -/
def lower (character : Char) : Char :=
  if character = '\u212a' then 'k' else character.toLower

/-- Replace a word wherever it stands, from left to right. -/
def replaceWord (word replacement : List Char) (text : List Char) : List Char :=
  match text with
  | [] => []
  | character :: rest =>
      if word.isPrefixOf (character :: rest) then
        replacement ++ replaceWord word replacement (rest.drop (word.length - 1))
      else
        character :: replaceWord word replacement rest
termination_by text.length

/-- Words and what is read in their place, in the order of replacement. -/
def spellings : List (String × String) :=
  [("bright", "light"), ("grey", "gray"), ("silver", "gray"),
    ("lightblack", "darkgray"), ("lightwhite", "white"),
    ("lightgray", "white")]

/-- A name in the one spelling that is looked up. -/
def normalized (name : List Char) : List Char :=
  let plain :=
    (name.map lower).filter fun character =>
      character ≠ ' ' && character ≠ '-' && character ≠ '_'
  spellings.foldl
    (fun text (word, replacement) =>
      replaceWord word.toList replacement.toList text)
    plain

def ofName? (name : List Char) : Option Color :=
  let wanted := normalized name
  (namedColors.find? fun entry => entry.1.toList.map lower = wanted).map
    Prod.snd

/-- A byte of two hexadecimal digits, or of a plus sign and one. -/
def byte? (first second : Char) : Option UInt8 :=
  match Decimal.read 16 255 [first, second] with
  | .ok number => some (UInt8.ofNat number)
  | .error _ => none

/-- The color of a text such as `#ff8800`. -/
def ofMixture? : List Char → Option Color
  | ['#', a, b, c, d, e, f] => do
      let redPart ← byte? a b
      let greenPart ← byte? c d
      let bluePart ← byte? e f
      some (.rgb redPart greenPart bluePart)
  | _ => none

def ofIndex? (text : List Char) : Option Color :=
  match Decimal.read 10 255 text with
  | .ok number => some (.indexed (UInt8.ofNat number))
  | .error _ => none

/-- Read a color: a name, else an index, else a mixture. -/
def parse? (text : String) : Option Color :=
  let characters := text.toList
  ofName? characters <|> ofIndex? characters <|> ofMixture? characters

end Color

end WalletRows
