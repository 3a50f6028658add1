import WalletRows.Proofs.Json.Reading
import WalletRows.Proofs.Text.Numerals

/-!
# Integers read back

The written form of an integer is a literal without a fraction and without an
exponent, so it is read back as that integer as long as 64 bits hold it.  What
follows must not go on with the literal.
-/

namespace WalletRows

namespace Json

/-- A text does not go on with a number that ends in front of it. -/
def EndsNumber : List Char → Prop
  | [] => True
  | next :: _ =>
      next.isDigit = false ∧ next ≠ '.' ∧ next ≠ 'e' ∧ next ≠ 'E'

theorem EndsNumber.takeWhile_eq_nil {rest : List Char}
    (ended : EndsNumber rest) : rest.takeWhile Char.isDigit = [] := by
  cases rest with
  | nil => rfl
  | cons next later => rw [List.takeWhile_cons, ended.1]; rfl

theorem EndsNumber.dropWhile_eq_self {rest : List Char}
    (ended : EndsNumber rest) : rest.dropWhile Char.isDigit = rest := by
  cases rest with
  | nil => rfl
  | cons next later => rw [List.dropWhile_cons, ended.1]; rfl

/-- A run of digits ends where the text in front of it ended. -/
theorem digitRun_append {digits rest : List Char}
    (all : ∀ digit ∈ digits, digit.isDigit = true) (ended : EndsNumber rest) :
    digitRun (digits ++ rest) = (digits, rest) := by
  rw [digitRun, List.takeWhile_append_of_pos all,
    List.dropWhile_append_of_pos all, ended.takeWhile_eq_nil,
    ended.dropWhile_eq_self, List.append_nil]

section Literals

variable {rest : List Char} (ended : EndsNumber rest)

include ended

theorem reads_wholeDigits (early : Error) (number : Nat) :
    Reads (wholeDigits early) (Decimal.digits number ++ rest)
      (Decimal.digits number) rest := by
  obtain ⟨first, later, written, alone⟩ := Decimal.digits_eq_cons number
  have all : ∀ digit ∈ first :: later, digit.isDigit = true := fun _ member =>
    Decimal.isDigit_of_mem_digits (written ▸ member)
  have digit : first.isDigit = true := all first (by simp)
  have others : ∀ digit ∈ later, digit.isDigit = true := fun digit member =>
    all digit (by simp [member])
  by_cases zero : first = '0'
  · obtain ⟨-, rfl⟩ := alone zero
    subst first
    rw [written, List.singleton_append]
    cases rest with
    | nil => exact gives_ok
    | cons next behind => simp [Reads, wholeDigits, ended.1, Rest.behind]
  · rw [written, List.cons_append, Reads, wholeDigits]
    · rw [if_pos digit]
      have run := digitRun_append others ended
      exact gives_ok_iff.mpr
        ⟨congrArg (first :: ·) (congrArg Prod.fst run), congrArg Prod.snd run⟩
    · exact zero

theorem fractionDigits_of_ended (early : Error) :
    fractionDigits early rest = .ok ([], .all rest) := by
  cases rest with
  | nil => rfl
  | cons next later =>
      rw [fractionDigits]
      intro _ point
      exact ended.2.1 (List.cons.inj point).1

theorem exponentDigits_of_ended (early : Error) :
    exponentDigits early rest = .ok (none, .all rest) := by
  cases rest with
  | nil => rfl
  | cons next later =>
      simp [exponentDigits, ended.2.2.1, ended.2.2.2]

theorem reads_unsignedLiteral (early : Error) (negative : Bool)
    (number : Nat) :
    Reads (unsignedLiteral early negative) (Decimal.digits number ++ rest)
      ⟨negative, Decimal.digits number, [], none⟩ rest := by
  obtain ⟨shorter, whole⟩ := reads_wholeDigits ended early number
  simp only [Reads, unsignedLiteral, whole, fractionDigits_of_ended ended,
    Tail.all, exponentDigits_of_ended ended]
  exact gives_ok

end Literals

/-- The literal that an integer is written as. -/
def literalOf (value : Int) : NumberLiteral where
  negative := decide (value < 0)
  whole := Decimal.digits value.natAbs
  fraction := []
  exponent := none

theorem reads_numberLiteral {rest : List Char} (ended : EndsNumber rest)
    (early : Error) (value : Int) :
    Reads (numberLiteral early) (Decimal.signed value ++ rest)
      (literalOf value) rest := by
  cases value with
  | ofNat number =>
      have same : literalOf (.ofNat number) =
          ⟨false, Decimal.digits number, [], none⟩ := by
        simp [literalOf]
      have reads := reads_unsignedLiteral ended early false number
      rw [same, Decimal.signed, Reads, numberLiteral]
      · exact reads
      · exact Decimal.digits_append_ne_cons rfl number rest
  | negSucc number =>
      have same : literalOf (.negSucc number) =
          ⟨true, Decimal.digits (number + 1), [], none⟩ := by
        simp [literalOf]
      rw [same, Decimal.signed, List.cons_append, Reads, numberLiteral,
        gives_behind_iff]
      exact reads_unsignedLiteral ended early true (number + 1)

theorem integer_literalOf (value : Int) :
    (literalOf value).integer = value := by
  have whole : Decimal.value (Decimal.digits value.natAbs) = value.natAbs :=
    Decimal.value_digits _
  by_cases negative : value < 0
  · simp only [NumberLiteral.integer, literalOf, negative, decide_true, if_true,
      whole]
    omega
  · simp only [NumberLiteral.integer, literalOf, negative, decide_false,
      Bool.false_eq_true, if_false, whole]
    omega

theorem number_literalOf {value : Int}
    (least : Int64.minValue.toInt ≤ value) (most : value < UInt64.size) :
    (literalOf value).number = .ok (.integer value) := by
  have integral : (literalOf value).isIntegral = true := rfl
  have sign : (literalOf value).negative = decide (value < 0) := rfl
  have fits : (literalOf value).fitsInteger = true := by
    rw [NumberLiteral.fitsInteger, sign, integer_literalOf]
    by_cases negative : value < 0 <;> simp only [negative, least, most] <;> rfl
  rw [NumberLiteral.number, integral, fits, integer_literalOf]
  rfl

/-- An integer of 64 bits is read back from its written form. -/
theorem reads_readNumber {rest : List Char} (ended : EndsNumber rest)
    {value : Int} (least : Int64.minValue.toInt ≤ value)
    (most : value < UInt64.size) :
    Reads readNumber (Decimal.signed value ++ rest) (.integer value) rest :=
  Gives.checkValue (reads_numberLiteral ended _ value)
    (number_literalOf least most)

/-- The first character of a written integer. -/
theorem signed_eq_cons (value : Int) :
    ∃ first later, Decimal.signed value = first :: later ∧
      (first = '-' ∨ first.isDigit = true) := by
  cases value with
  | ofNat number =>
      obtain ⟨first, later, written, digit⟩ := Decimal.digits_eq_digit_cons number
      exact ⟨first, later, written, .inr digit⟩
  | negSucc number => exact ⟨_, _, rfl, .inl rfl⟩

theorem isBlank_of_signed {first : Char}
    (starts : first = '-' ∨ first.isDigit = true) : isBlank first = false := by
  rcases starts with rfl | digit
  · decide
  · simp only [isBlank, Bool.or_eq_false_iff, decide_eq_false_iff_not]
    refine ⟨⟨⟨?_, ?_⟩, ?_⟩, ?_⟩ <;> rintro rfl <;> simp at digit

/-- An integer that a type holds is decoded into it. -/
theorem reads_integer {α : Type} {expected : String} {ofInt? : Int → Option α}
    {value : Int} {result : α} {rest : List Char} (ended : EndsNumber rest)
    (least : Int64.minValue.toInt ≤ value) (most : value < UInt64.size)
    (held : ofInt? value = some result) :
    Reads (integer expected ofInt?) (Decimal.signed value ++ rest) result
      rest := by
  have reads := reads_readNumber ended least most
  obtain ⟨first, later, written, starts⟩ := signed_eq_cons value
  have number : (decide (first = '-') || first.isDigit) = true := by
    rcases starts with minus | digit <;> simp [*]
  rw [integer, reads_afterBlank_iff]
  rw [written, List.cons_append] at reads ⊢
  rw [skipBlank_of_not_isBlank (isBlank_of_signed starts), Reads]
  simp only [number, if_true]
  exact Gives.checkValue reads (by simp [integerValue, held])

theorem int32OfInt?_toInt (value : Int32) :
    int32OfInt? value.toInt = some value := by
  rw [int32OfInt?, if_pos ⟨Int32.minValue_le_toInt value,
    Int32.toInt_le value⟩, Int32.ofInt_toInt]

theorem int64OfInt?_toInt (value : Int64) :
    int64OfInt? value.toInt = some value := by
  rw [int64OfInt?, if_pos ⟨Int64.minValue_le_toInt value,
    Int64.toInt_le value⟩, Int64.ofInt_toInt]

theorem reads_int32 {rest : List Char} (ended : EndsNumber rest)
    (value : Int32) :
    Reads int32 (Decimal.signed value.toInt ++ rest) value rest := by
  have least := Int32.minValue_le_toInt value
  have most := Int32.toInt_le value
  have low : Int64.minValue.toInt ≤ Int32.minValue.toInt := by decide
  have high : Int32.maxValue.toInt < UInt64.size := by decide
  exact reads_integer ended (by omega) (by omega) (int32OfInt?_toInt value)

theorem reads_int64 {rest : List Char} (ended : EndsNumber rest)
    (value : Int64) :
    Reads int64 (Decimal.signed value.toInt ++ rest) value rest := by
  have least := Int64.minValue_le_toInt value
  have most := Int64.toInt_le value
  have high : Int64.maxValue.toInt < UInt64.size := by decide
  exact reads_integer ended least (by omega) (int64OfInt?_toInt value)

end Json

end WalletRows
