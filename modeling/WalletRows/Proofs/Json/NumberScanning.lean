import Mathlib.Data.List.TakeWhile
import WalletRows.Proofs.Json.Scanning

/-!
# What numbers are read off a text

A number literal is read off the front of a text exactly in the form that the
grammar gives it, whatever its sign, fraction and exponent.  It is read in full
where the rest does not go on with it.
-/

namespace WalletRows

namespace Json

/-- A text does not go on with digits that end in front of it. -/
def EndsDigits : List Char → Prop
  | [] => True
  | next :: _ => next.isDigit = false

/-- A text goes on neither with digits nor with a fraction. -/
def EndsFraction : List Char → Prop
  | [] => True
  | next :: _ => next.isDigit = false ∧ next ≠ '.'

theorem EndsNumber.endsFraction {rest : List Char} (ended : EndsNumber rest) :
    EndsFraction rest := by
  cases rest with
  | nil => trivial
  | cons next later => exact ⟨ended.1, ended.2.1⟩

theorem EndsFraction.endsDigits {rest : List Char} (ended : EndsFraction rest) :
    EndsDigits rest := by
  cases rest with
  | nil => trivial
  | cons next later => exact ended.1

/-! ## Runs of digits -/

theorem digitRun_of_endsDigits {digits rest : List Char}
    (all : ∀ digit ∈ digits, digit.isDigit = true) (ended : EndsDigits rest) :
    digitRun (digits ++ rest) = (digits, rest) := by
  have stops : digitRun rest = ([], rest) := by
    cases rest with
    | nil => rfl
    | cons next later =>
        have noDigit : ¬ next.isDigit = true := by
          rw [EndsDigits] at ended
          simp [ended]
        rw [digitRun, List.takeWhile_cons_of_neg noDigit,
          List.dropWhile_cons_of_neg noDigit]
  have split := Prod.ext_iff.mp stops
  simp only [digitRun] at split
  rw [digitRun, List.takeWhile_append_of_pos all,
    List.dropWhile_append_of_pos all, split.1, split.2, List.append_nil]

theorem digitRun_append_self (text : List Char) :
    (digitRun text).1 ++ (digitRun text).2 = text :=
  List.takeWhile_append_dropWhile

theorem isDigit_of_mem_digitRun {text : List Char} {digit : Char}
    (member : digit ∈ (digitRun text).1) : digit.isDigit = true :=
  List.mem_takeWhile_imp member

theorem someDigits_eq_ok {early : Error} {text digits : List Char}
    {tail : Tail text} (found : someDigits early text = .ok (digits, tail)) :
    IsDigits digits ∧ text = digits ++ tail.1 := by
  have joined := digitRun_append_self text
  have all : ∀ digit ∈ (digitRun text).1, digit.isDigit = true :=
    fun _ member => isDigit_of_mem_digitRun member
  unfold someDigits at found
  split at found
  · cases found
  · cases found
  · rename_i run left within notEnd notOther same _
    rw [same] at joined all
    cases found
    refine ⟨⟨?_, all⟩, joined.symm⟩
    -- A run without digits is refused, whether the text ends there or goes on.
    rintro rfl
    cases left with
    | nil => exact notEnd _ HEq.rfl rfl rfl
    | cons next later => exact notOther _ _ _ HEq.rfl rfl rfl

theorem IsDigits.someDigits {digits rest : List Char} (filled : IsDigits digits)
    (ended : EndsDigits rest) (early : Error) :
    ∃ within,
      someDigits early (digits ++ rest) = .ok (digits, ⟨rest, within⟩) := by
  have run := digitRun_of_endsDigits filled.2 ended
  refine ⟨by simp, ?_⟩
  unfold Json.someDigits
  split
  · rename_i same _
    rw [run] at same
    exact absurd (congrArg Prod.fst same) filled.1
  · rename_i same _
    rw [run] at same
    exact absurd (congrArg Prod.fst same) filled.1
  · rename_i same _
    rw [run] at same
    cases same
    rfl

/-! ## The parts of a literal -/

theorem Reads.wholeDigits_text {early : Error} {text whole rest : List Char}
    (reads : Reads (wholeDigits early) text whole rest) :
    IsWhole whole ∧ text = whole ++ rest := by
  unfold Reads Json.wholeDigits at reads
  split at reads
  · exact absurd reads not_gives_error
  · split at reads
    · obtain ⟨rfl, rfl⟩ := gives_ok_iff.mp reads
      exact ⟨.inl rfl, rfl⟩
    · split at reads
      · exact absurd reads not_gives_error
      · obtain ⟨rfl, rfl⟩ := gives_ok_iff.mp reads
        exact ⟨.inl rfl, rfl⟩
  · rename_i digit later notZero
    split at reads
    · rename_i isDigit
      obtain ⟨rfl, rfl⟩ := gives_ok_iff.mp reads
      refine ⟨.inr ⟨⟨by simp, ?_⟩, by simpa using notZero⟩, ?_⟩
      · intro other member
        rcases List.mem_cons.mp member with rfl | later
        · exact isDigit
        · exact isDigit_of_mem_digitRun later
      · exact congrArg (digit :: ·) (digitRun_append_self later).symm
    · exact absurd reads not_gives_error

theorem IsWhole.reads {whole rest : List Char} (isWhole : IsWhole whole)
    (ended : EndsDigits rest) (early : Error) :
    Reads (wholeDigits early) (whole ++ rest) whole rest := by
  rcases isWhole with rfl | ⟨filled, notZero⟩
  · cases rest with
    | nil => exact gives_ok
    | cons next later =>
        rw [EndsDigits] at ended
        simp [Reads, wholeDigits, ended, Rest.behind]
  · obtain ⟨digit, later, rfl, isDigit⟩ := filled.eq_cons
    have others : ∀ other ∈ later, other.isDigit = true := fun other member =>
      filled.2 other (List.mem_cons_of_mem _ member)
    have run := digitRun_of_endsDigits others ended
    rw [List.cons_append, Reads, wholeDigits]
    · rw [if_pos isDigit]
      exact gives_ok_iff.mpr
        ⟨congrArg (digit :: ·) (congrArg Prod.fst run), congrArg Prod.snd run⟩
    · rintro rfl
      exact notZero rfl

theorem fractionDigits_eq_ok {early : Error} {text digits : List Char}
    {tail : Tail text} (found : fractionDigits early text = .ok (digits, tail)) :
    ∃ fraction, IsFraction fraction digits ∧ text = fraction ++ tail.1 := by
  unfold fractionDigits at found
  split at found
  · rename_i later
    cases taken : someDigits early later with
    | error error =>
        rw [taken] at found
        cases found
    | ok answer =>
        obtain ⟨run, final⟩ := answer
        rw [taken] at found
        cases found
        obtain ⟨filled, same⟩ := someDigits_eq_ok taken
        exact ⟨'.' :: digits, .digits filled, congrArg ('.' :: ·) same⟩
  · cases found
    exact ⟨[], .none, rfl⟩

theorem IsFraction.fractionDigits {fraction digits rest : List Char}
    (isFraction : IsFraction fraction digits) (ended : EndsFraction rest)
    (early : Error) :
    ∃ within, fractionDigits early (fraction ++ rest) =
      .ok (digits, ⟨rest, within⟩) := by
  cases isFraction with
  | none =>
      refine ⟨Nat.le_refl _, ?_⟩
      cases rest with
      | nil => rfl
      | cons next later =>
          have noPoint : ∀ behind, next :: later ≠ '.' :: behind :=
            fun _ point => ended.2 (List.cons.inj point).1
          exact Json.fractionDigits.eq_2 early (next :: later) noPoint
  | digits filled =>
      obtain ⟨within, taken⟩ := filled.someDigits ended.endsDigits early
      rw [List.cons_append]
      refine ⟨Nat.le_succ_of_le within, ?_⟩
      simp only [Json.fractionDigits, taken]
      rfl

theorem isExponentSign_exponentSign (text : List Char) :
    ∃ sign, IsExponentSign sign (exponentSign text).1 ∧
      text = sign ++ (exponentSign text).2 := by
  unfold exponentSign
  split
  · exact ⟨['+'], .plus, rfl⟩
  · exact ⟨['-'], .minus, rfl⟩
  · exact ⟨[], .none, rfl⟩

theorem IsExponentSign.exponentSign {sign digits : List Char} {negative : Bool}
    (signed : IsExponentSign sign negative) (filled : IsDigits digits)
    (rest : List Char) :
    exponentSign (sign ++ (digits ++ rest)) = (negative, digits ++ rest) := by
  cases signed with
  | plus => rfl
  | minus => rfl
  | none =>
      rw [List.nil_append, Json.exponentSign]
      · exact append_ne_cons_of_digits filled.1 filled.2 rfl rest
      · exact append_ne_cons_of_digits filled.1 filled.2 rfl rest

theorem exponentDigits_eq_ok {early : Error} {text : List Char}
    {exponent : Option (Bool × List Char)} {tail : Tail text}
    (found : exponentDigits early text = .ok (exponent, tail)) :
    ∃ written, IsExponent written exponent ∧ text = written ++ tail.1 := by
  unfold exponentDigits at found
  split at found
  · cases found
    exact ⟨[], .none, rfl⟩
  · rename_i mark later
    split at found
    · rename_i marked
      obtain ⟨sign, signed, same⟩ := isExponentSign_exponentSign later
      cases taken : someDigits early (exponentSign later).2 with
      | error error =>
          rw [taken] at found
          cases found
      | ok answer =>
          obtain ⟨digits, final, within⟩ := answer
          rw [taken] at found
          cases found
          obtain ⟨filled, same'⟩ := someDigits_eq_ok taken
          refine ⟨mark :: (sign ++ digits),
            .some (by simpa using marked) signed filled, ?_⟩
          rw [List.cons_append, List.append_assoc, ← same', ← same]
    · cases found
      exact ⟨[], .none, rfl⟩

theorem IsExponent.exponentDigits {written rest : List Char}
    {exponent : Option (Bool × List Char)}
    (isExponent : IsExponent written exponent) (ended : EndsNumber rest)
    (early : Error) :
    ∃ within, exponentDigits early (written ++ rest) =
      .ok (exponent, ⟨rest, within⟩) := by
  cases isExponent with
  | none => exact ⟨by simp, exponentDigits_of_ended ended early⟩
  | @some mark sign digits negative marked signed filled =>
      have split := signed.exponentSign filled rest
      have mark' : (decide (mark = 'e') || decide (mark = 'E')) = true := by
        simpa using marked
      have taken : ∃ within,
          someDigits early (exponentSign (sign ++ (digits ++ rest))).2 =
            .ok (digits, ⟨rest, within⟩) := by
        rw [split]
        exact filled.someDigits ended.endsFraction.endsDigits early
      obtain ⟨within, taken⟩ := taken
      have shorter := length_exponentSign_le (sign ++ (digits ++ rest))
      rw [List.cons_append, List.append_assoc]
      refine ⟨Nat.le_succ_of_le (Nat.le_trans within shorter), ?_⟩
      have sign' := congrArg Prod.fst split
      simp only [Json.exponentDigits, if_pos mark', taken, sign']

/-- Where a number ends, its fraction ends in front of its exponent. -/
theorem IsExponent.endsFraction {written rest : List Char}
    {exponent : Option (Bool × List Char)}
    (isExponent : IsExponent written exponent) (ended : EndsNumber rest) :
    EndsFraction (written ++ rest) := by
  cases isExponent with
  | none => exact ended.endsFraction
  | some marked signed filled =>
      rcases marked with rfl | rfl <;> exact ⟨by decide, by decide⟩

/-- Where its fraction ends, the digits in front of it do. -/
theorem IsFraction.endsDigits {fraction digits rest : List Char}
    (isFraction : IsFraction fraction digits) (ended : EndsFraction rest) :
    EndsDigits (fraction ++ rest) := by
  cases isFraction with
  | none => exact ended.endsDigits
  | digits filled => exact (by decide : '.'.isDigit = false)

/-! ## Whole literals -/

theorem Reads.unsignedLiteral_text {early : Error} {negative : Bool}
    {text rest : List Char} {literal : NumberLiteral}
    (reads : Reads (unsignedLiteral early negative) text literal rest) :
    ∃ unsigned, IsUnsigned unsigned literal ∧ text = unsigned ++ rest ∧
      literal.negative = negative := by
  unfold Reads Json.unsignedLiteral at reads
  split at reads
  · exact absurd reads not_gives_error
  · rename_i whole afterWhole within taken
    split at reads
    · exact absurd reads not_gives_error
    · rename_i digits afterFraction within' taken'
      split at reads
      · exact absurd reads not_gives_error
      · rename_i exponent final within'' taken''
        obtain ⟨rfl, rfl⟩ := gives_ok_iff.mp reads
        obtain ⟨isWhole, same⟩ := Reads.wholeDigits_text ⟨within, taken⟩
        obtain ⟨fraction, isFraction, same'⟩ := fractionDigits_eq_ok taken'
        obtain ⟨written, isExponent, same''⟩ := exponentDigits_eq_ok taken''
        refine ⟨whole ++ (fraction ++ written),
          ⟨⟨fraction, written, isFraction, isExponent, rfl⟩, isWhole⟩, ?_, rfl⟩
        simp only [same, same', same'', List.append_assoc]

theorem IsUnsigned.reads {unsigned rest : List Char} {literal : NumberLiteral}
    (isUnsigned : IsUnsigned unsigned literal) (ended : EndsNumber rest)
    (early : Error) :
    Reads (unsignedLiteral early literal.negative) (unsigned ++ rest) literal
      rest := by
  obtain ⟨⟨fraction, written, isFraction, isExponent, rfl⟩, isWhole⟩ := isUnsigned
  have endsFraction := isExponent.endsFraction ended
  have endsDigits := isFraction.endsDigits endsFraction
  obtain ⟨shorter, taken⟩ := isWhole.reads endsDigits early
  obtain ⟨within, taken'⟩ := isFraction.fractionDigits endsFraction early
  obtain ⟨within', taken''⟩ := isExponent.exponentDigits ended early
  simp only [List.append_assoc]
  rw [Reads, Json.unsignedLiteral]
  simp only [taken, taken', taken'']
  exact gives_ok

/-- What is read as a number is one. -/
theorem Reads.numberLiteral_text {early : Error} {text rest : List Char}
    {literal : NumberLiteral}
    (reads : Reads (numberLiteral early) text literal rest) :
    ∃ written, IsLiteral written literal ∧ text = written ++ rest := by
  unfold Reads Json.numberLiteral at reads
  split at reads
  · rw [gives_behind_iff] at reads
    obtain ⟨unsigned, isUnsigned, rfl, sign⟩ := Reads.unsignedLiteral_text reads
    exact ⟨'-' :: unsigned, ⟨unsigned, isUnsigned, by rw [sign]; rfl⟩, rfl⟩
  · obtain ⟨unsigned, isUnsigned, rfl, sign⟩ := Reads.unsignedLiteral_text reads
    exact ⟨unsigned, ⟨unsigned, isUnsigned, by rw [sign]; rfl⟩, rfl⟩

/-- Every number is read, whatever the error for one that ends early. -/
theorem IsLiteral.reads {written rest : List Char} {literal : NumberLiteral}
    (isLiteral : IsLiteral written literal) (ended : EndsNumber rest)
    (early : Error) :
    Reads (numberLiteral early) (written ++ rest) literal rest := by
  obtain ⟨unsigned, isUnsigned, rfl⟩ := isLiteral
  have reads := isUnsigned.reads ended early
  cases sign : literal.negative with
  | true =>
      rw [sign] at reads
      rw [if_pos rfl, List.cons_append, Reads, Json.numberLiteral,
        gives_behind_iff]
      exact reads
  | false =>
      rw [sign] at reads
      obtain ⟨⟨fraction, exponent, -, -, rfl⟩, isWhole⟩ := isUnsigned
      obtain ⟨filled, all⟩ := isWhole.isDigits
      rw [if_neg Bool.false_ne_true]
      rw [List.append_assoc] at reads ⊢
      rw [Reads, Json.numberLiteral]
      · exact reads
      · exact append_ne_cons_of_digits filled all rfl _

end Json

end WalletRows
