import WalletRows.Json.Reader

/-!
# JSON strings

A string stands between double quotes.  A backslash starts an escape: a letter
for one of eight characters, or `u` and four hexadecimal digits for a UTF-16
unit, two of which make a character beyond the first 65536.  Strings that are
only skipped have their escapes checked one by one, without pairing the units.
-/

namespace WalletRows

namespace Json

/-- The character that a letter behind a backslash stands for. -/
def escaped? : Char → Option Char
  | '"' => some '"'
  | '\\' => some '\\'
  | '/' => some '/'
  | 'b' => some '\x08'
  | 'f' => some '\x0c'
  | 'n' => some '\n'
  | 'r' => some '\r'
  | 't' => some '\t'
  | _ => none

/-- Read the four hexadecimal digits of a UTF-16 unit.  The text has ended too
early only if fewer than four bytes are left of it. -/
def hexUnit : Reader Nat
  | first :: second :: third :: fourth :: rest =>
      match Decimal.digit? 16 first, Decimal.digit? 16 second,
          Decimal.digit? 16 third, Decimal.digit? 16 fourth with
      | some a, some b, some c, some d =>
          .ok (((a * 16 + b) * 16 + c) * 16 + d,
            ⟨rest, by simp; omega⟩)
      | _, _, _, _ => .error (.malformed .invalidEscape)
  | text =>
      if 4 ≤ (String.ofList text).utf8ByteSize then
        .error (.malformed .invalidEscape)
      else
        .error (.unfinished .string)

/-- Whether a unit is the first half of a pair. -/
def isLeadUnit (unit : Nat) : Bool :=
  0xD800 ≤ unit && unit ≤ 0xDBFF

/-- Whether a unit is the second half of a pair. -/
def isTrailUnit (unit : Nat) : Bool :=
  0xDC00 ≤ unit && unit ≤ 0xDFFF

def joinUnits (lead trail : Nat) : Char :=
  Char.ofNat (0x10000 + (lead - 0xD800) * 0x400 + (trail - 0xDC00))

/-- Read the second half of a pair, from the backslash of its escape on. -/
def trailUnit (lead : Nat) : Reader Char
  | '\\' :: 'u' :: rest =>
      match hexUnit rest with
      | .error error => .error error
      | .ok (unit, ⟨final, within⟩) =>
          if isTrailUnit unit then
            .ok (joinUnits lead unit, ⟨final, by simp; omega⟩)
          else
            .error (.malformed .loneSurrogate)
  | [] => .error (.unfinished .string)
  | ['\\'] => .error (.unfinished .string)
  | _ => .error (.malformed .endOfEscape)

def escape : Reader Char
  | [] => .error (.unfinished .string)
  | 'u' :: rest =>
      match hexUnit rest with
      | .error error => .error error
      | .ok (unit, ⟨final, within⟩) =>
          if isTrailUnit unit then
            .error (.malformed .loneSurrogate)
          else if isLeadUnit unit then
            widen (by simp; omega) (trailUnit unit final)
          else
            .ok (Char.ofNat unit, ⟨final, by simp; omega⟩)
  | letter :: rest =>
      match escaped? letter with
      | none => .error (.malformed .invalidEscape)
      | some character => .ok (character, .behind letter rest)

/-- Check an escape behind its backslash without giving it a meaning. -/
def skipEscape : Reader Unit
  | [] => .error (.unfinished .string)
  | 'u' :: rest => behind (mapValue (fun _ => ()) (hexUnit rest))
  | letter :: rest =>
      match escaped? letter with
      | none => .error (.malformed .invalidEscape)
      | some _ => .ok ((), .behind letter rest)

/-- Read a string behind its opening quote. -/
def stringBody : Reader (List Char)
  | [] => .error (.unfinished .string)
  | '"' :: rest => .ok ([], .behind '"' rest)
  | '\\' :: rest =>
      match escape rest with
      | .error error => .error error
      | .ok (character, ⟨final, within⟩) =>
          widen (by simp; omega)
            (mapValue (character :: ·) (stringBody final))
  | character :: rest =>
      if character < ' ' then
        .error (.malformed .controlCharacter)
      else
        behind (mapValue (character :: ·) (stringBody rest))
termination_by text => text.length

def skipString : Reader Unit
  | [] => .error (.unfinished .string)
  | '"' :: rest => .ok ((), .behind '"' rest)
  | '\\' :: rest =>
      match skipEscape rest with
      | .error error => .error error
      | .ok ((), ⟨final, within⟩) =>
          widen (by simp; omega) (skipString final)
  | character :: rest =>
      if character < ' ' then
        .error (.malformed .controlCharacter)
      else
        behind (skipString rest)
termination_by text => text.length

/-- The letter behind the backslash where a character is written with one. -/
def escapeLetter? : Char → Option Char
  | '"' => some '"'
  | '\\' => some '\\'
  | '\x08' => some 'b'
  | '\x0c' => some 'f'
  | '\n' => some 'n'
  | '\r' => some 'r'
  | '\t' => some 't'
  | _ => none

def hexDigit (digit : Nat) : Char :=
  if digit < 10 then Decimal.digitChar digit
  else Char.ofNat ('a'.toNat + (digit - 10))

/-- A character as it is written in a string: with a letter where there is one,
with its code if it is another control character, and else as it is. -/
def writtenCharacter (character : Char) : List Char :=
  match escapeLetter? character with
  | some letter => ['\\', letter]
  | none =>
      if character < ' ' then
        ['\\', 'u', '0', '0', hexDigit (character.toNat / 16),
          hexDigit (character.toNat % 16)]
      else
        [character]

/-- A string as it is written, with its quotes. -/
def writtenString (characters : List Char) : List Char :=
  '"' :: characters.flatMap writtenCharacter ++ ['"']

end Json

end WalletRows
