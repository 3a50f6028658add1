import WalletRows.Binary64.Shortest
import WalletRows.Text.Quoted

/-!
# Reading errors

A JSON text is refused for one of three reasons: it is malformed, it ends too
early, or it is well formed up to some value that does not fit what was asked
for.  The errors keep their causes; the sentences are written here only.
-/

namespace WalletRows

namespace Json

/-- What is wrong with a malformed text. -/
inductive Malformed where
  | expectedValue
  | expectedLiteral
  | keyMustBeString
  | expectedColon
  | expectedCommaOrBrace
  | expectedCommaOrBracket
  | trailingComma
  | trailingCharacters
  | invalidNumber
  | numberOutOfRange
  | invalidEscape
  | endOfEscape
  | loneSurrogate
  | controlCharacter
deriving DecidableEq

/-- What was open when a text ended too early. -/
inductive Unfinished where
  | value
  | list
  | object
  | string
deriving DecidableEq

/-- A value that stands where another kind of value was asked for. -/
inductive Found where
  | null
  | boolean (value : Bool)
  | integer (value : Int)
  | float (value : Binary64)
  | string (value : List Char)
  | sequence
  | map
deriving DecidableEq

/-- How a well-formed value fails to fit. -/
inductive Mismatch where
  /-- The value is of another kind than the one named. -/
  | invalidType (found : Found) (expected : String)
  /-- The value is of the right kind but out of its range. -/
  | invalidValue (found : Found) (expected : String)
  /-- The name is none of the allowed ones. -/
  | unknownVariant (name : String) (allowed : List String)
  /-- A member of the object is given a second time. -/
  | duplicateField (name : String)
deriving DecidableEq

/-- Why a JSON text is refused. -/
inductive Error where
  | malformed (cause : Malformed)
  | unfinished (part : Unfinished)
  | mismatched (mismatch : Mismatch)
deriving DecidableEq

def Malformed.message : Malformed → String
  | .expectedValue => "expected value"
  | .expectedLiteral => "expected ident"
  | .keyMustBeString => "key must be a string"
  | .expectedColon => "expected `:`"
  | .expectedCommaOrBrace => "expected `,` or `\x7d`"
  | .expectedCommaOrBracket => "expected `,` or `]`"
  | .trailingComma => "trailing comma"
  | .trailingCharacters => "trailing characters"
  | .invalidNumber => "invalid number"
  | .numberOutOfRange => "number out of range"
  | .invalidEscape => "invalid escape"
  | .endOfEscape => "unexpected end of hex escape"
  | .loneSurrogate => "lone leading surrogate in hex escape"
  | .controlCharacter =>
      "control character (\\u0000-\\u001F) found while parsing a string"

def Unfinished.message : Unfinished → String
  | .value => "EOF while parsing a value"
  | .list => "EOF while parsing a list"
  | .object => "EOF while parsing an object"
  | .string => "EOF while parsing a string"

def Found.message : Found → String
  | .null => "null"
  | .boolean true => "boolean `true`"
  | .boolean false => "boolean `false`"
  | .integer value => "integer `" ++ .ofList (Decimal.signed value) ++ "`"
  | .float value => "floating point `" ++ .ofList value.quotedText ++ "`"
  | .string value => "string " ++ .ofList (quoted value)
  | .sequence => "sequence"
  | .map => "map"

/-- A name between backquotes. -/
def backquoted (name : String) : String :=
  "`" ++ name ++ "`"

/-- The words for a choice of names. -/
def oneOf : List String → String
  | [] => "there are no variants"
  | [only] => "expected " ++ backquoted only
  | [first, second] =>
      "expected " ++ backquoted first ++ " or " ++ backquoted second
  | names => "expected one of " ++ ", ".intercalate (names.map backquoted)

def Mismatch.message : Mismatch → String
  | .invalidType found expected =>
      "invalid type: " ++ found.message ++ ", expected " ++ expected
  | .invalidValue found expected =>
      "invalid value: " ++ found.message ++ ", expected " ++ expected
  | .unknownVariant name allowed =>
      "unknown variant " ++ backquoted name ++ ", " ++ oneOf allowed
  | .duplicateField name => "duplicate field " ++ backquoted name

def Error.message : Error → String
  | .malformed cause => cause.message
  | .unfinished part => part.message
  | .mismatched mismatch => mismatch.message

end Json

end WalletRows
