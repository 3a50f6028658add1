import WalletRows.Json.Text

/-!
# Lists and objects of a JSON text

A list or object is read part by part.  Between two parts stands a comma, and
none may stand before the closing bracket.  A value that is only passed over is
held to the same grammar, but meets a misplaced closing bracket only where the
next part should have started, and says so in other words.
-/

namespace WalletRows

namespace Json

/-- Whether what is read is wanted or only passed over. -/
inductive Care where
  | kept
  | skipped
deriving DecidableEq

/-- Where a reader stands between the parts of a list or object. -/
inductive Step (text : List Char) where
  /-- The closing bracket was read. -/
  | close (rest : Rest text)
  /-- Another part starts here. -/
  | part (start : Tail text)

/-- The error for a closing bracket that follows a comma in a list. -/
def Care.closedList : Care → Error
  | .kept => .malformed .trailingComma
  | .skipped => .malformed .expectedValue

/-- The error for a closing brace that follows a comma in an object. -/
def Care.closedObject : Care → Error
  | .kept => .malformed .trailingComma
  | .skipped => .malformed .keyMustBeString

/-- The error for a text that ends behind a comma in an object. -/
def Care.unfinishedObject : Care → Error
  | .kept => .unfinished .value
  | .skipped => .unfinished .object

/-- Go to the next element of a list, which is the first or follows another. -/
def nextElement (care : Care) (first : Bool) (text : List Char) :
    Except Error (Step text) :=
  match skipBlank text, length_skipBlank_le text with
  | [], _ => .error (.unfinished .list)
  | ']' :: rest, within => .ok (.close ⟨rest, within⟩)
  | character :: rest, within =>
      if first then
        .ok (.part ⟨character :: rest, within⟩)
      else if character = ',' then
        match skipBlank rest, length_skipBlank_le rest with
        | [], _ => .error (.unfinished .value)
        | ']' :: _, _ => .error care.closedList
        | start, within' =>
            .ok (.part ⟨start, by simp at within; omega⟩)
      else
        .error (.malformed .expectedCommaOrBracket)

/-- Go to the next member of an object, behind the opening quote of its key. -/
def nextMember (care : Care) (first : Bool) (text : List Char) :
    Except Error (Step text) :=
  match skipBlank text, length_skipBlank_le text with
  | [], _ => .error (.unfinished .object)
  | '}' :: rest, within => .ok (.close ⟨rest, within⟩)
  | character :: rest, within =>
      if first then
        if character = '"' then
          .ok (.part ⟨rest, Nat.le_of_succ_le within⟩)
        else
          .error (.malformed .keyMustBeString)
      else if character = ',' then
        match skipBlank rest, length_skipBlank_le rest with
        | [], _ => .error care.unfinishedObject
        | '"' :: start, within' =>
            .ok (.part ⟨start, by simp at within within'; omega⟩)
        | '}' :: _, _ => .error care.closedObject
        | _ :: _, _ => .error (.malformed .keyMustBeString)
      else
        .error (.malformed .expectedCommaOrBrace)

/-- Read the colon between a key and its value. -/
def colon : Reader Unit :=
  afterBlank fun
    | [] => .error (.unfinished .object)
    | ':' :: rest => .ok ((), .behind ':' rest)
    | _ :: _ => .error (.malformed .expectedColon)

/-- Read the elements of a list and its closing bracket. -/
def elements {α : Type} (care : Care) (item : Reader α) (first : Bool) :
    Reader (List α) :=
  fun text =>
    match nextElement care first text with
    | .error error => .error error
    | .ok (.close rest) => .ok ([], rest)
    | .ok (.part ⟨start, within⟩) =>
        match item start with
        | .error error => .error error
        | .ok (value, ⟨rest, shorter⟩) =>
            widen (by omega)
              (mapValue (value :: ·) (elements care item false rest))
termination_by text => text.length

/-- Read the members of an object and its closing brace.  Each member updates a
state; `member` reads it from behind the opening quote of its key on. -/
def members {σ : Type} (care : Care) (member : σ → Reader σ) (state : σ)
    (first : Bool) : Reader σ :=
  fun text =>
    match nextMember care first text with
    | .error error => .error error
    | .ok (.close rest) => .ok (state, rest)
    | .ok (.part ⟨start, within⟩) =>
        match member state start with
        | .error error => .error error
        | .ok (updated, ⟨rest, shorter⟩) =>
            widen (by omega) (members care member updated false rest)
termination_by text => text.length

end Json

end WalletRows
