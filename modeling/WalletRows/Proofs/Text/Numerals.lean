import WalletRows.Text.Decimal

/-!
# Digits and the numbers they stand for

The digits of a number are digits, begin with a zero only if they are that zero
alone, and stand for the number.  So a number, or an integer with its sign, can
be told from a text that begins with it.  What is read as a number up to a limit is a
numeral that stands for it: an optional plus sign and digits, which may begin
with zeros.
-/

namespace WalletRows

/-- A part of a text whose characters are all of a kind ends where a character
of another kind follows, so it can be told from the text. -/
theorem append_inj_of_ends {kind : Char → Bool}
    {first second rest others : List Char}
    (all : ∀ character ∈ first, kind character = true)
    (every : ∀ character ∈ second, kind character = true)
    (ends : rest.takeWhile kind = []) (stops : others.takeWhile kind = [])
    (same : first ++ rest = second ++ others) :
    first = second ∧ rest = others := by
  have fronts := congrArg (List.takeWhile kind) same
  rw [List.takeWhile_append_of_pos all, List.takeWhile_append_of_pos every,
    ends, stops, List.append_nil, List.append_nil] at fronts
  subst second
  exact ⟨rfl, List.append_cancel_left same⟩

/-- A text that begins with digits begins with no other character. -/
theorem append_ne_cons_of_digits {digits : List Char} (filled : digits ≠ [])
    (all : ∀ digit ∈ digits, digit.isDigit = true) {other : Char}
    (noDigit : other.isDigit = false) (text rest : List Char) :
    digits ++ text ≠ other :: rest := by
  obtain ⟨first, later, rfl⟩ := List.exists_cons_of_ne_nil filled
  intro same
  have digit := all first List.mem_cons_self
  rw [(List.cons.inj same).1, noDigit] at digit
  cases digit

namespace Decimal

theorem digits_of_lt {number : Nat} (small : number < 10) :
    digits number = [digitChar number] := by
  rw [digits, if_pos small]

theorem digits_of_ge {number : Nat} (large : ¬ number < 10) :
    digits number = digits (number / 10) ++ [digitChar (number % 10)] := by
  rw [digits, if_neg large]

theorem isDigit_digitChar {digit : Nat} (small : digit < 10) :
    (digitChar digit).isDigit = true := by
  have all : ∀ digit < 10, (digitChar digit).isDigit = true := by decide
  exact all digit small

theorem digitValue_digitChar {digit : Nat} (small : digit < 10) :
    digitValue (digitChar digit) = digit := by
  have all : ∀ digit < 10, digitValue (digitChar digit) = digit := by decide
  exact all digit small

theorem digitChar_eq_zero {digit : Nat} (small : digit < 10)
    (zero : digitChar digit = '0') : digit = 0 := by
  have all : ∀ digit < 10, digitChar digit = '0' → digit = 0 := by decide
  exact all digit small zero

theorem isDigit_of_mem_digits {number : Nat} {character : Char}
    (member : character ∈ digits number) : character.isDigit = true := by
  induction number using digits.induct with
  | case1 number small =>
      rw [digits_of_lt small, List.mem_singleton] at member
      rw [member]
      exact isDigit_digitChar small
  | case2 number large ih =>
      rw [digits_of_ge large, List.mem_append, List.mem_singleton] at member
      rcases member with leading | last
      · exact ih leading
      · rw [last]
        exact isDigit_digitChar (by omega)

/-- A number has a first digit, which is a zero only where the number is. -/
theorem digits_eq_cons (number : Nat) :
    ∃ first rest, digits number = first :: rest ∧
      (first = '0' → number = 0 ∧ rest = []) := by
  induction number using digits.induct with
  | case1 number small =>
      refine ⟨_, _, digits_of_lt small, ?_⟩
      intro zero
      exact ⟨digitChar_eq_zero small zero, rfl⟩
  | case2 number large ih =>
      obtain ⟨first, rest, leading, positive⟩ := ih
      refine ⟨first, rest ++ [digitChar (number % 10)], ?_, ?_⟩
      · rw [digits_of_ge large, leading, List.cons_append]
      · intro zero
        have := (positive zero).1
        omega

theorem digits_eq_digit_cons (number : Nat) :
    ∃ first rest, digits number = first :: rest ∧ first.isDigit = true := by
  obtain ⟨first, rest, written, -⟩ := digits_eq_cons number
  have member : first ∈ digits number := by
    rw [written]
    exact List.mem_cons_self
  exact ⟨first, rest, written, isDigit_of_mem_digits member⟩

theorem digits_append_ne_cons {other : Char} (noDigit : other.isDigit = false)
    (number : Nat) (text rest : List Char) :
    digits number ++ text ≠ other :: rest := by
  obtain ⟨first, later, written, -⟩ := digits_eq_cons number
  have filled : digits number ≠ [] := by simp [written]
  exact append_ne_cons_of_digits filled (fun _ => isDigit_of_mem_digits) noDigit
    text rest

theorem digits_ne_minus_cons (number : Nat) (rest : List Char) :
    digits number ≠ '-' :: rest := by
  have begins := digits_append_ne_cons (show '-'.isDigit = false from rfl)
    number [] rest
  rwa [List.append_nil] at begins

theorem value_append (front : List Char) (last : Char) :
    value (front ++ [last]) = 10 * value front + digitValue last := by
  simp [value]

@[simp]
theorem value_digits (number : Nat) : value (digits number) = number := by
  induction number using digits.induct with
  | case1 number small =>
      rw [digits_of_lt small]
      simp [value, digitValue_digitChar small]
  | case2 number large ih =>
      rw [digits_of_ge large, value_append, ih,
        digitValue_digitChar (by omega)]
      omega

theorem digits_inj {first second : Nat} (same : digits first = digits second) :
    first = second := by
  rw [← value_digits first, same, value_digits]

theorem signed_of_nonneg {number : Int} (nonnegative : 0 ≤ number) :
    signed number = digits number.toNat := by
  obtain ⟨natural, rfl⟩ := Int.eq_ofNat_of_zero_le nonnegative
  rfl

/-! ## Written integers -/

/-- A character that stands in written integers. -/
def isDigitOrMinus (character : Char) : Bool :=
  character.isDigit || character == '-'

theorem isDigitOrMinus_of_mem_signed {number : Int} {character : Char}
    (member : character ∈ signed number) : isDigitOrMinus character = true := by
  rw [isDigitOrMinus, Bool.or_eq_true, beq_iff_eq]
  cases number with
  | ofNat number => exact .inl (isDigit_of_mem_digits member)
  | negSucc number =>
      rcases List.mem_cons.mp member with sign | digit
      · exact .inr sign
      · exact .inl (isDigit_of_mem_digits digit)

theorem signed_inj {first second : Int} (same : signed first = signed second) :
    first = second := by
  cases first with
  | ofNat first =>
      cases second with
      | ofNat second => rw [digits_inj same]
      | negSucc second => exact absurd same (digits_ne_minus_cons _ _)
  | negSucc first =>
      cases second with
      | ofNat second => exact absurd same.symm (digits_ne_minus_cons _ _)
      | negSucc second =>
          have next := digits_inj (List.cons.inj same).2
          rw [Nat.succ.inj next]

/-- An integer can be told from a text that begins with it, if none of its
characters follows. -/
theorem signed_append_inj {first second : Int} {rest others : List Char}
    (ends : rest.takeWhile isDigitOrMinus = [])
    (stops : others.takeWhile isDigitOrMinus = [])
    (same : signed first ++ rest = signed second ++ others) :
    first = second ∧ rest = others := by
  obtain ⟨numbers, behind⟩ := append_inj_of_ends
    (fun _ => isDigitOrMinus_of_mem_signed)
    (fun _ => isDigitOrMinus_of_mem_signed) ends stops same
  exact ⟨signed_inj numbers, behind⟩

/-! ## Numerals that are read -/

/-- A text is a numeral that stands for a number. -/
def IsNumeral (text : List Char) (number : Nat) : Prop :=
  ∃ digits, (text = digits ∨ text = '+' :: digits) ∧ digits ≠ [] ∧
    (∀ digit ∈ digits, digit.isDigit = true) ∧ value digits = number

theorem digit?_eq_some_iff {character : Char} {digit : Nat} :
    digit? 10 character = some digit ↔
      character.isDigit = true ∧ digitValue character = digit := by
  have bounds : character.isDigit = true ↔
      '0'.toNat ≤ character.toNat ∧ character.toNat ≤ '9'.toNat := by
    simp only [Char.isDigit, Bool.and_eq_true, decide_eq_true_eq]
    exact Iff.rfl
  rw [bounds]
  simp only [digit?, digitValue]
  by_cases decimal : '0'.toNat ≤ character.toNat ∧ character.toNat ≤ '9'.toNat
  · have nine : '9'.toNat = '0'.toNat + 9 := rfl
    have small : character.toNat - '0'.toNat < 10 := by omega
    rw [if_pos decimal, if_pos small, Option.some.injEq]
    exact ⟨fun same => ⟨decimal, same⟩, And.right⟩
  · rw [if_neg decimal]
    have large : ∀ lower upper : Nat, 10 ≤ lower → 10 ≤ upper →
        ¬ (if 'a'.toNat ≤ character.toNat ∧ character.toNat ≤ 'f'.toNat then
            lower
          else if 'A'.toNat ≤ character.toNat ∧
              character.toNat ≤ 'F'.toNat then
            upper
          else 10) < 10 := by
      intro lower upper _ _
      split
      · omega
      · split <;> omega
    rw [if_neg (large _ _ (by omega) (by omega))]
    constructor
    · intro impossible
      cases impossible
    · exact fun digit => absurd digit.1 decimal

/-- The digits behind others only add to what these stand for. -/
theorem le_foldl_digits (digits : List Char) (total : Nat) :
    total ≤ digits.foldl
      (fun total digit => 10 * total + digitValue digit) total := by
  induction digits generalizing total with
  | nil => exact Nat.le_refl _
  | cons digit digits ih =>
      have more := ih (10 * total + digitValue digit)
      exact Nat.le_trans (by omega) more

theorem readDigits_eq_ok_iff {limit total number : Nat} {text : List Char}
    (within : total ≤ limit) :
    readDigits 10 limit total text = .ok number ↔
      (∀ digit ∈ text, digit.isDigit = true) ∧
        text.foldl (fun total digit => 10 * total + digitValue digit) total =
          number ∧ number ≤ limit := by
  induction text generalizing total with
  | nil =>
      simp only [readDigits, Except.ok.injEq, List.foldl_nil]
      constructor
      · rintro rfl
        exact ⟨by simp, rfl, within⟩
      · exact fun found => found.2.1
  | cons character text ih =>
      rw [readDigits, List.foldl_cons, List.forall_mem_cons]
      cases known : digit? 10 character with
      | none =>
          have noDigit : ¬ character.isDigit = true := by
            intro digit
            rw [digit?_eq_some_iff.mpr ⟨digit, rfl⟩] at known
            cases known
          simp [noDigit]
      | some digit =>
          obtain ⟨isDigit, rfl⟩ := digit?_eq_some_iff.mp known
          have more := le_foldl_digits text (10 * total + digitValue character)
          by_cases above : limit < 10 * total + digitValue character
          · simp only [above, if_true]
            constructor
            · intro impossible
              cases impossible
            · rintro ⟨-, rfl, small⟩
              omega
          · simp only [above, if_false, isDigit, true_and]
            exact ih (by omega)

/-- A number up to a limit is read exactly from the numerals that stand for
it. -/
theorem read_eq_ok_iff {limit number : Nat} {text : List Char} :
    read 10 limit text = .ok number ↔
      IsNumeral text number ∧ number ≤ limit := by
  constructor
  · intro found
    unfold read at found
    split at found
    · cases found
    · cases found
    · rename_i rest some
      obtain ⟨digits, stands, within⟩ :=
        (readDigits_eq_ok_iff (Nat.zero_le _)).mp found
      have filled : rest ≠ [] := fun empty => some (by rw [empty])
      exact ⟨⟨rest, .inr rfl, filled, digits, stands⟩, within⟩
    · rename_i filled _ _
      obtain ⟨digits, stands, within⟩ :=
        (readDigits_eq_ok_iff (Nat.zero_le _)).mp found
      exact ⟨⟨text, .inl rfl, filled, digits, stands⟩, within⟩
  · rintro ⟨⟨digits, written, filled, all, stands⟩, within⟩
    have reads : readDigits 10 limit 0 digits = .ok number :=
      (readDigits_eq_ok_iff (Nat.zero_le _)).mpr ⟨all, stands, within⟩
    obtain ⟨first, rest, rfl⟩ := List.exists_cons_of_ne_nil filled
    rcases written with rfl | rfl
    · have digit : first.isDigit = true := all first List.mem_cons_self
      have unsigned : first ≠ '+' := by
        rintro rfl
        cases digit
      unfold read
      split
      · simp_all
      · simp_all
      · simp_all
      · exact reads
    · exact reads

end Decimal

end WalletRows
