import WalletRows.Proofs.Json.MembersThatCount

/-!
# Integers are decoded exactly

A number is decoded as an integer exactly if it is written as one and the type
holds it.  A fraction, an exponent or a minus sign in front of zero makes a
number of another kind, whatever its value, and an integer beyond the type is
refused rather than rounded or wrapped.
-/

namespace WalletRows

namespace Json

namespace NumberLiteral

/-- A literal writes an integer: it has neither a fraction nor an exponent, and
is no zero with a minus sign. -/
structure WritesInteger (literal : NumberLiteral) : Prop where
  whole : literal.fraction = []
  plain : literal.exponent = none
  signed : literal.negative = true → literal.integer ≠ 0

theorem isIntegral_and_fitsInteger_iff (literal : NumberLiteral) :
    (literal.isIntegral && literal.fitsInteger) = true ↔
      literal.WritesInteger ∧ Int64.minValue.toInt ≤ literal.integer ∧
        literal.integer < UInt64.size := by
  have integral : literal.isIntegral = true ↔
      literal.fraction = [] ∧ literal.exponent = none := by
    simp only [isIntegral, Bool.and_eq_true, List.isEmpty_iff,
      Option.isNone_iff_eq_none]
  -- The sign decides which of the two bounds can be missed.
  have fits : literal.fitsInteger = true ↔
      (literal.negative = true → literal.integer ≠ 0) ∧
        Int64.minValue.toInt ≤ literal.integer ∧
          literal.integer < UInt64.size := by
    have low : Int64.minValue.toInt ≤ 0 := by decide
    have high : (0 : Int) < UInt64.size := by decide
    unfold fitsInteger
    cases sign : literal.negative with
    | true =>
        have most : literal.integer ≤ 0 := by
          simp only [integer, sign, if_true]
          omega
        simp only [if_true, Bool.and_eq_true, decide_eq_true_eq, forall_const]
        omega
    | false =>
        have least : 0 ≤ literal.integer := by
          simp only [integer, sign, Bool.false_eq_true, if_false]
          omega
        simp only [Bool.false_eq_true, if_false, decide_eq_true_eq,
          IsEmpty.forall_iff, true_and]
        omega
  rw [Bool.and_eq_true, integral, fits]
  constructor
  · rintro ⟨⟨whole, plain⟩, signed, bounds⟩
    exact ⟨⟨whole, plain, signed⟩, bounds⟩
  · rintro ⟨⟨whole, plain, signed⟩, bounds⟩
    exact ⟨⟨whole, plain⟩, signed, bounds⟩

/-- A literal stands for an integer if it writes one that 64 bits hold, with or
without a sign. -/
theorem number_eq_integer_iff (literal : NumberLiteral) (value : Int) :
    literal.number = .ok (.integer value) ↔
      literal.WritesInteger ∧ Int64.minValue.toInt ≤ literal.integer ∧
        literal.integer < UInt64.size ∧ literal.integer = value := by
  have exact := literal.isIntegral_and_fitsInteger_iff
  unfold number
  split
  · rename_i held
    obtain ⟨writes, least, most⟩ := exact.mp held
    constructor
    · rintro ⟨⟩
      exact ⟨writes, least, most, rfl⟩
    · rintro ⟨-, -, -, rfl⟩
      rfl
  · rename_i other
    have foreign : ¬ (literal.WritesInteger ∧
        Int64.minValue.toInt ≤ literal.integer ∧
          literal.integer < UInt64.size) := fun held => other (exact.mpr held)
    constructor
    · intro float
      split at float <;> cases float
    · rintro ⟨writes, least, most, -⟩
      exact absurd ⟨writes, least, most⟩ foreign

end NumberLiteral

variable {α : Type} {expected : String} {ofInt? : Int → Option α}

theorem integerValue_eq_ok_iff (number : Number) (result : α) :
    integerValue expected ofInt? number = .ok result ↔
      ∃ value, number = .integer value ∧ ofInt? value = some result := by
  cases number with
  | float value =>
      simp [integerValue]
  | integer value =>
      rw [integerValue]
      cases held : ofInt? value with
      | none => simp [held]
      | some found => simp [held]

/-- A literal is decoded into a type within 64 bits if it writes an integer that
the type holds. -/
theorem IsLiteral.decode_integer_iff {text : List Char} {literal : NumberLiteral}
    (written : IsLiteral text literal)
    (within : ∀ {value result}, ofInt? value = some result →
      Int64.minValue.toInt ≤ value ∧ value < UInt64.size) (result : α) :
    decode (integer expected ofInt?) (String.ofList text) = .ok result ↔
      literal.WritesInteger ∧ ofInt? literal.integer = some result := by
  obtain ⟨first, later, rfl, starts⟩ := written.starts
  have number : (decide (first = '-') || first.isDigit) = true := by
    rcases starts with minus | digit <;> simp [*]
  have scanned : Reads (numberLiteral (.unfinished .value)) (first :: later)
      literal [] := by
    have ended : EndsNumber [] := by simp [EndsNumber]
    have reads := written.reads ended (.unfinished .value)
    rwa [List.append_nil] at reads
  have step (rest : List Char) :
      Reads (integer expected ofInt?) (first :: later) result rest ↔
        ∃ number, literal.number = .ok number ∧ [] = rest ∧
          integerValue expected ofInt? number = .ok result := by
    rw [integer, reads_afterBlank_iff,
      skipBlank_of_not_isBlank (isBlank_of_signed starts), Reads]
    simp only [number, if_true, gives_checkValue_iff, readNumber]
    constructor
    · rintro ⟨number, ⟨other, taken, meant⟩, held⟩
      obtain ⟨rfl, ended⟩ := Gives.unique scanned taken
      exact ⟨number, meant, ended, held⟩
    · rintro ⟨number, meant, rfl, held⟩
      exact ⟨number, ⟨literal, scanned, meant⟩, held⟩
  rw [decode_eq_ok_iff, String.toList_ofList]
  simp only [step, integerValue_eq_ok_iff]
  constructor
  · rintro ⟨rest, ⟨number, meant, -, value, rfl, held⟩, -⟩
    obtain ⟨writes, -, -, rfl⟩ :=
      (literal.number_eq_integer_iff value).mp meant
    exact ⟨writes, held⟩
  · rintro ⟨writes, held⟩
    obtain ⟨least, most⟩ := within held
    exact ⟨[], ⟨.integer literal.integer,
      (literal.number_eq_integer_iff _).mpr ⟨writes, least, most, rfl⟩, rfl,
      literal.integer, rfl, held⟩, rfl⟩

theorem int32OfInt?_eq_some_iff (value : Int) (result : Int32) :
    int32OfInt? value = some result ↔ result.toInt = value := by
  constructor
  · intro held
    unfold int32OfInt? at held
    split at held
    · rename_i bounds
      cases held
      exact Int32.toInt_ofInt_of_le bounds.1 (Int.lt_of_le_sub_one bounds.2)
    · cases held
  · rintro rfl
    exact int32OfInt?_toInt result

theorem int64OfInt?_eq_some_iff (value : Int) (result : Int64) :
    int64OfInt? value = some result ↔ result.toInt = value := by
  constructor
  · intro held
    unfold int64OfInt? at held
    split at held
    · rename_i bounds
      cases held
      exact Int64.toInt_ofInt_of_le bounds.1 (Int.lt_of_le_sub_one bounds.2)
    · cases held
  · rintro rfl
    exact int64OfInt?_toInt result

theorem IsLiteral.decode_int32_iff {text : List Char} {literal : NumberLiteral}
    (written : IsLiteral text literal) (result : Int32) :
    decode int32 (String.ofList text) = .ok result ↔
      literal.WritesInteger ∧ result.toInt = literal.integer := by
  have low : Int64.minValue.toInt ≤ Int32.minValue.toInt := by decide
  have high : Int32.maxValue.toInt < UInt64.size := by decide
  rw [int32, written.decode_integer_iff, int32OfInt?_eq_some_iff]
  intro value result held
  have least := Int32.minValue_le_toInt result
  have most := Int32.toInt_le result
  rw [(int32OfInt?_eq_some_iff value result).mp held] at least most
  omega

theorem IsLiteral.decode_int64_iff {text : List Char} {literal : NumberLiteral}
    (written : IsLiteral text literal) (result : Int64) :
    decode int64 (String.ofList text) = .ok result ↔
      literal.WritesInteger ∧ result.toInt = literal.integer := by
  have high : Int64.maxValue.toInt < UInt64.size := by decide
  rw [int64, written.decode_integer_iff, int64OfInt?_eq_some_iff]
  intro value result held
  have least := Int64.minValue_le_toInt result
  have most := Int64.toInt_le result
  rw [(int64OfInt?_eq_some_iff value result).mp held] at least most
  omega

/-- A type of the integers between two bounds, and its reader. -/
structure IntegerType (α : Type) where
  reader : Reader α
  least : Int
  most : Int
  toInt : α → Int
  ofInt : Int → α
  least_le : ∀ value, least ≤ toInt value
  le_most : ∀ value, toInt value ≤ most
  toInt_ofInt : ∀ {number}, least ≤ number → number ≤ most →
    toInt (ofInt number) = number
  ofInt_toInt : ∀ value, ofInt (toInt value) = value
  regular : Regular reader
  decode_iff : ∀ {text literal}, IsLiteral text literal → ∀ value,
    decode reader (String.ofList text) = .ok value ↔
      literal.WritesInteger ∧ toInt value = literal.integer

namespace IntegerType

def int32 : IntegerType Int32 where
  reader := Json.int32
  least := -2 ^ 31
  most := 2 ^ 31 - 1
  toInt := Int32.toInt
  ofInt := Int32.ofInt
  least_le := Int32.minValue_le_toInt
  le_most := Int32.toInt_le
  toInt_ofInt least most :=
    Int32.toInt_ofInt_of_le least (Int.lt_of_le_sub_one most)
  ofInt_toInt := Int32.ofInt_toInt
  regular := regular_int32
  decode_iff := IsLiteral.decode_int32_iff

def int64 : IntegerType Int64 where
  reader := Json.int64
  least := -2 ^ 63
  most := 2 ^ 63 - 1
  toInt := Int64.toInt
  ofInt := Int64.ofInt
  least_le := Int64.minValue_le_toInt
  le_most := Int64.toInt_le
  toInt_ofInt least most :=
    Int64.toInt_ofInt_of_le least (Int.lt_of_le_sub_one most)
  ofInt_toInt := Int64.ofInt_toInt
  regular := regular_int64
  decode_iff := IsLiteral.decode_int64_iff

end IntegerType

end Json

end WalletRows
