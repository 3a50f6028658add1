import WalletRows.Json.Bracket
import WalletRows.Json.Number
import WalletRows.Named

/-!
# Decoding of JSON text

Each type that is stored has a decoder, a reader that knows what it asks for.
A text is read once from front to back, so the first mistake in reading order is
the one that is reported, whether it is a mistake of the text or of a value.
-/

namespace WalletRows

namespace Json

/-- The error for a value that is none of the kind asked for.  Scalars are read
to the end first, and a mistake inside one comes before the wrong kind. -/
def unexpected (expected : String) (text : List Char) : Error :=
  let wrong (found : Found) : Error :=
    .mismatched (.invalidType found expected)
  let keyword (rest : List Char) (letters : List Char) (found : Found) : Error :=
    match literal rest letters with
    | .error error => error
    | .ok _ => wrong found
  match text with
  | [] => .unfinished .value
  | 'n' :: rest => keyword rest ['u', 'l', 'l'] .null
  | 't' :: rest => keyword rest ['r', 'u', 'e'] (.boolean true)
  | 'f' :: rest => keyword rest ['a', 'l', 's', 'e'] (.boolean false)
  | '"' :: rest =>
      match stringBody rest with
      | .error error => error
      | .ok (characters, _) => wrong (.string characters)
  | '[' :: _ => wrong .sequence
  | '{' :: _ => wrong .map
  | character :: rest =>
      if character = '-' || character.isDigit then
        match readNumber (character :: rest) with
        | .error error => error
        | .ok (.integer value, _) => wrong (.integer value)
        | .ok (.float value, _) => wrong (.float value)
      else
        .malformed .expectedValue

def text : Reader String :=
  afterBlank fun
    | '"' :: rest => behind (mapValue String.ofList (stringBody rest))
    | other => .error (unexpected "a string" other)

def boolean : Reader Bool :=
  afterBlank fun
    | 't' :: rest => keyword ['r', 'u', 'e'] true rest
    | 'f' :: rest => keyword ['a', 'l', 's', 'e'] false rest
    | other => .error (unexpected "a boolean" other)

/-- Decode the value that carries nothing. -/
def unit : Reader Unit :=
  afterBlank fun
    | 'n' :: rest => keyword ['u', 'l', 'l'] () rest
    | other => .error (unexpected "unit" other)

/-- The integer of a number in a type that may not hold every integer. -/
def integerValue {α : Type} (expected : String) (ofInt? : Int → Option α) :
    Number → Except Error α
  | .float value => .error (.mismatched (.invalidType (.float value) expected))
  | .integer value =>
      match ofInt? value with
      | some result => .ok result
      | none => .error (.mismatched (.invalidValue (.integer value) expected))

def integer {α : Type} (expected : String) (ofInt? : Int → Option α) :
    Reader α :=
  afterBlank fun
    | [] => .error (.unfinished .value)
    | character :: rest =>
        if character = '-' || character.isDigit then
          checkValue (integerValue expected ofInt?)
            (readNumber (character :: rest))
        else
          .error (unexpected expected (character :: rest))

def int32OfInt? (value : Int) : Option Int32 :=
  if Int32.minValue.toInt ≤ value ∧ value ≤ Int32.maxValue.toInt then
    some (Int32.ofInt value)
  else
    none

def int64OfInt? (value : Int) : Option Int64 :=
  if Int64.minValue.toInt ≤ value ∧ value ≤ Int64.maxValue.toInt then
    some (Int64.ofInt value)
  else
    none

def int32 : Reader Int32 := integer "i32" int32OfInt?

def int64 : Reader Int64 := integer "i64" int64OfInt?

def optional {α : Type} (reader : Reader α) : Reader (Option α) :=
  afterBlank fun
    | 'n' :: rest => keyword ['u', 'l', 'l'] none rest
    | other => mapValue some (reader other)

/-- The value of a name, or the error that lists the allowed names. -/
def named {α : Type} [Named α] (name : List Char) : Except Error α :=
  match Named.ofName? (.ofList name) with
  | some value => .ok value
  | none =>
      .error (.mismatched (.unknownVariant (.ofList name) (Named.names α)))

/-- Read a name behind its opening quote. -/
def nameBody {α : Type} [Named α] : Reader α :=
  fun text => checkValue named (stringBody text)

/-- Read the name in an object that has the name as its only key.  The object
may not be empty. -/
def nameKey {α : Type} [Named α] : Reader α :=
  afterBlank fun
    | [] => .error (.unfinished .object)
    | '"' :: rest => behind (nameBody rest)
    | '}' :: _ => .error (.malformed .expectedValue)
    | _ => .error (.malformed .keyMustBeString)

/-- Read the end of an object that may have no further member. -/
def onlyMember : Reader Unit :=
  afterBlank fun
    | [] => .error (.unfinished .object)
    | '}' :: rest => .ok ((), .behind '}' rest)
    | _ :: _ => .error (.malformed .expectedValue)

/-- Read a name in an object behind the opening brace: the name is the only key
and its value carries nothing. -/
def nameObject {α : Type} [Named α] : Reader α :=
  fun text =>
    andThen (nameKey text) fun value afterName =>
      andThen (colon afterName) fun () afterColon =>
        andThen (unit afterColon) fun () afterValue =>
          mapValue (fun () => value) (onlyMember afterValue)

/-- Decode a choice: its name as a string, or an object with the name as its
only key. -/
def choice {α : Type} [Named α] : Reader α :=
  afterBlank fun
    | [] => .error (.unfinished .value)
    | '"' :: rest => behind (nameBody rest)
    | '{' :: rest => behind (nameObject rest)
    | _ => .error (.malformed .expectedValue)

def list {α : Type} (item : Reader α) : Reader (List α) :=
  afterBlank fun
    | '[' :: rest => behind (elements .kept item true rest)
    | other => .error (unexpected "a sequence" other)

/-- Read one entry of a map from behind the opening quote of its key on. -/
def entry {κ α : Type} (key : List Char → Except Error κ) (value : Reader α) :
    Reader (κ × α) :=
  fun text =>
    andThen (checkValue key (stringBody text)) fun found afterKey =>
      andThen (colon afterKey) fun () afterColon =>
        mapValue (found, ·) (value afterColon)

/-- Decode a map.  Its entries are put into a collection in reading order, so
that of two entries with one key the later one can prevail. -/
def map {κ α σ : Type} (key : List Char → Except Error κ) (value : Reader α)
    (empty : σ) (insert : σ → κ → α → σ) : Reader σ :=
  afterBlank fun
    | '{' :: rest =>
        behind
          (members .kept
            (fun entries text =>
              mapValue (fun (key, value) => insert entries key value)
                (entry key value text))
            empty true rest)
    | other => .error (unexpected "a map" other)

/-- Pass over a value that is nested at most `depth` deep. -/
def skipNested : Nat → Reader Unit
  | 0 => fun _ => .error (.unfinished .value)
  | depth + 1 =>
      let member : Unit → Reader Unit := fun () text =>
        andThen (skipString text) fun () afterKey =>
          andThen (colon afterKey) fun () => skipNested depth
      afterBlank fun
        | [] => .error (.unfinished .value)
        | '[' :: rest =>
            behind
              (mapValue (fun _ => ())
                (elements .skipped (skipNested depth) true rest))
        | '{' :: rest => behind (members .skipped member () true rest)
        | '"' :: rest => behind (skipString rest)
        | 'n' :: rest => keyword ['u', 'l', 'l'] () rest
        | 't' :: rest => keyword ['r', 'u', 'e'] () rest
        | 'f' :: rest => keyword ['a', 'l', 's', 'e'] () rest
        | character :: rest =>
            if character = '-' || character.isDigit then
              mapValue (fun _ => ())
                (numberLiteral (.malformed .invalidNumber) (character :: rest))
            else
              .error (.malformed .expectedValue)

/-- Pass over a value.  A text nests at most as deep as it is long. -/
def skipValue : Reader Unit :=
  fun text => skipNested text.length text

/-- A member of a stored record: its name, and how its value updates the
record. -/
structure Field (R : Type) where
  /-- The key of the member. -/
  name : String
  /-- The decoder of the value, as an update of the record. -/
  update : Reader (R → R)

/-- A member with a decoder and a function that stores the value. -/
def Field.of {R α : Type} (name : String) (reader : Reader α)
    (store : α → R → R) : Field R :=
  ⟨name, fun text => mapValue store (reader text)⟩

/-- A record that is being read, with the names of the members it was given. -/
structure Draft (R : Type) where
  /-- The members read so far. -/
  given : List String
  /-- The record with these members. -/
  record : R

/-- Read the value of a member behind its key. -/
def Draft.give {R : Type} (draft : Draft R) (field : Field R) :
    Reader (Draft R) :=
  fun text =>
    andThen (colon text) fun () afterColon =>
      mapValue
        (fun update => ⟨field.name :: draft.given, update draft.record⟩)
        (field.update afterColon)

/-- Read a member from behind the opening quote of its key on.  A member of the
record may be given once; a member with another name is passed over. -/
def Draft.member {R : Type} (fields : List (Field R)) (draft : Draft R) :
    Reader (Draft R) :=
  fun text =>
    andThen (stringBody text) fun key =>
      match fields.find? fun field => field.name = String.ofList key with
      | some field =>
          if field.name ∈ draft.given then
            fun _ => .error (.mismatched (.duplicateField field.name))
          else
            draft.give field
      | none =>
          fun afterKey =>
            andThen (colon afterKey) fun () afterColon =>
              mapValue (fun () => draft) (skipValue afterColon)

/-- Read the end of a list that may have no further element. -/
def noElement : Reader Unit :=
  afterBlank fun
    | [] => .error (.unfinished .list)
    | ']' :: rest => .ok ((), .behind ']' rest)
    | ',' :: rest =>
        match skipBlank rest with
        | ']' :: _ => .error (.malformed .trailingComma)
        | _ => .error (.malformed .trailingCharacters)
    | _ :: _ => .error (.malformed .trailingCharacters)

/-- Read the members of a record that is written as a list: the values alone,
in the order of the fields.  The last ones may be left out. -/
def positions {R : Type} : List (Field R) → R → Bool → Reader R
  | [], record, _ => fun text => mapValue (fun () => record) (noElement text)
  | field :: fields, record, first =>
      fun text =>
        match nextElement .kept first text with
        | .error error => .error error
        | .ok (.close rest) => .ok (record, rest)
        | .ok (.part ⟨start, within⟩) =>
            widen within
              (andThen (field.update start) fun update =>
                positions fields (update record) false)

/-- Decode a record: an object with any of its members in any order, or a list
of its first members.  Members that are not given keep their defaults. -/
def record {R : Type} (kind : String) (fields : List (Field R)) (default : R) :
    Reader R :=
  afterBlank fun
    | '[' :: rest => behind (positions fields default true rest)
    | '{' :: rest =>
        behind
          (mapValue Draft.record
            (members .kept (Draft.member fields) ⟨[], default⟩ true rest))
    | other => .error (unexpected ("struct " ++ kind) other)

/-- Decode a whole text, behind which only blank characters may stand. -/
def decode {α : Type} (reader : Reader α) (text : String) : Except Error α :=
  match reader text.toList with
  | .error error => .error error
  | .ok (value, ⟨rest, _⟩) =>
      match skipBlank rest with
      | [] => .ok value
      | _ :: _ => .error (.malformed .trailingCharacters)

end Json

end WalletRows
