import Mathlib.Tactic.SplitIfs
import WalletRows.Duration
import WalletRows.Proofs.Text.Numerals

/-!
# Reading a duration back

A duration by days, hours, minutes and seconds is written as counts, each with
the letter of its unit behind it, and a minus sign in front for a negative one.
The counts add up to the duration again, so its text tells it.  Only a negative
duration has no count of days: of a day or more it keeps what is left of a day,
and its text is that of the rest.
-/

namespace WalletRows

namespace Duration

/-! ## Counts with letters -/

/-- The counts of a text, each with the letter behind it, where the digits right
before the text stand for `pending`. -/
def readCounts (pending : Nat) : List Char → List (Nat × Char)
  | [] => []
  | character :: rest =>
      if character.isDigit then
        readCounts (10 * pending + Decimal.digitValue character) rest
      else
        (pending, character) :: readCounts 0 rest

def spelled (counts : List (Nat × Char)) : List Char :=
  counts.flatMap fun count => Decimal.digits count.1 ++ [count.2]

theorem spelled_cons (count : Nat × Char) (counts : List (Nat × Char)) :
    spelled (count :: counts) =
      Decimal.digits count.1 ++ count.2 :: spelled counts := by
  simp [spelled]

theorem readCounts_digits_append {digits : List Char}
    (all : ∀ digit ∈ digits, digit.isDigit = true) {letter : Char}
    (ends : letter.isDigit = false) (pending : Nat) (rest : List Char) :
    readCounts pending (digits ++ letter :: rest) =
      (digits.foldl (fun total digit => 10 * total + Decimal.digitValue digit)
        pending, letter) :: readCounts 0 rest := by
  induction digits generalizing pending with
  | nil => simp [readCounts, ends]
  | cons digit digits ih =>
      rw [List.forall_mem_cons] at all
      rw [List.cons_append, readCounts, if_pos all.1, ih all.2, List.foldl_cons]

theorem readCounts_spelled {counts : List (Nat × Char)}
    (letters : ∀ count ∈ counts, count.2.isDigit = false) :
    readCounts 0 (spelled counts) = counts := by
  induction counts with
  | nil => rfl
  | cons count counts ih =>
      rw [List.forall_mem_cons] at letters
      have value := Decimal.value_digits count.1
      rw [Decimal.value] at value
      rw [spelled_cons, readCounts_digits_append
        (fun _ => Decimal.isDigit_of_mem_digits) letters.1, value,
        ih letters.2]

def unitSeconds : Char → Nat
  | 'd' => 86400
  | 'h' => 3600
  | 'm' => 60
  | 's' => 1
  | _ => 0

/-- The seconds that counts add up to. -/
def total : List (Nat × Char) → Nat
  | [] => 0
  | (count, letter) :: rest => count * unitSeconds letter + total rest

/-- The duration that a text says.  A minus sign in front is about all of it. -/
def read : List Char → Int
  | '-' :: text => -total (readCounts 0 text)
  | text => total (readCounts 0 text)

/-- A count does not fill the next greater unit. -/
def StaysBelow : Nat × Char → Prop
  | (count, 'h') => count < 24
  | (count, 'm') => count < 60
  | (count, 's') => count < 60
  | _ => True

/-- There is at most one count of each unit, the greater units first, and none
that a greater unit would count. -/
structure AreProper (counts : List (Nat × Char)) : Prop where
  order : (counts.map Prod.snd).Sublist ['d', 'h', 'm', 's']
  below : ∀ count ∈ counts, StaysBelow count

theorem AreProper.isDigit_eq_false {counts : List (Nat × Char)}
    (proper : AreProper counts) :
    ∀ count ∈ counts, count.2.isDigit = false := by
  rintro ⟨number, letter⟩ member
  have among : letter ∈ ['d', 'h', 'm', 's'] :=
    proper.order.subset (List.mem_map_of_mem member)
  simp only [List.mem_cons, List.not_mem_nil, or_false] at among
  rcases among with rfl | rfl | rfl | rfl
  all_goals rfl

section Reading

variable {counts : List (Nat × Char)} (proper : AreProper counts)

include proper

theorem read_minus_spelled :
    read ('-' :: spelled counts) = -(total counts : Int) := by
  rw [read, readCounts_spelled proper.isDigit_eq_false]

theorem read_spelled : read (spelled counts) = total counts := by
  have back := readCounts_spelled proper.isDigit_eq_false
  cases counts with
  | nil => rfl
  | cons count counts =>
      rw [spelled_cons] at back ⊢
      rw [read, back]
      exact Decimal.digits_append_ne_cons rfl count.1 _

end Reading

/-! ## The counts of a duration -/

/-- The counts of what is left of a day. -/
def clockCounts (seconds : Nat) : List (Nat × Char) :=
  if 0 < seconds / 3600 then
    [(seconds / 3600, 'h'), (seconds % 3600 / 60, 'm'), (seconds % 60, 's')]
  else if 0 < seconds % 3600 / 60 then
    [(seconds % 3600 / 60, 'm'), (seconds % 60, 's')]
  else
    [(seconds % 60, 's')]

def counts (seconds : Int) : List (Nat × Char) :=
  let days := seconds.tdiv secondsPerDay
  let clock := clockCounts (seconds.tmod secondsPerDay).natAbs
  if 0 < days then (days.toNat, 'd') :: clock else clock

theorem total_clockCounts (seconds : Nat) :
    total (clockCounts seconds) = seconds := by
  unfold clockCounts
  split_ifs
  all_goals simp [total, unitSeconds]
  all_goals omega

theorem order_clockCounts (seconds : Nat) :
    ((clockCounts seconds).map Prod.snd).Sublist ['h', 'm', 's'] := by
  unfold clockCounts
  split_ifs
  · exact List.Sublist.refl _
  · exact List.sublist_cons_self _ _
  · exact List.sublist_append_right ['h', 'm'] _

theorem below_clockCounts {seconds : Nat} (rest : seconds < 86400) :
    ∀ count ∈ clockCounts seconds, StaysBelow count := by
  have hours : StaysBelow (seconds / 3600, 'h') :=
    show seconds / 3600 < 24 by omega
  have minutes : StaysBelow (seconds % 3600 / 60, 'm') :=
    show seconds % 3600 / 60 < 60 by omega
  have last : StaysBelow (seconds % 60, 's') := show seconds % 60 < 60 by omega
  unfold clockCounts
  split_ifs
  all_goals simp [hours, minutes, last]

theorem tmod_day_spec (seconds : Int) :
    let days := seconds.tdiv secondsPerDay
    let rest := seconds.tmod secondsPerDay
    86400 * days + rest = seconds ∧ rest.natAbs < 86400 ∧
      (0 ≤ seconds → 0 ≤ rest) ∧ (seconds ≤ 0 → rest ≤ 0) := by
  have below : (0 : Int) < secondsPerDay := by decide
  refine ⟨Int.mul_tdiv_add_tmod seconds secondsPerDay, ?_,
    Int.tmod_nonneg secondsPerDay, ?_⟩
  · rw [Int.natAbs_tmod]
    exact Nat.mod_lt _ (by decide)
  · intro negative
    have opposite : 0 ≤ (-seconds).tmod secondsPerDay :=
      Int.tmod_nonneg secondsPerDay (by omega)
    rw [Int.neg_tmod] at opposite
    omega

theorem areProper_counts (seconds : Int) : AreProper (counts seconds) := by
  obtain ⟨-, rest, -⟩ := tmod_day_spec seconds
  have order := order_clockCounts (seconds.tmod secondsPerDay).natAbs
  have below := below_clockCounts rest
  unfold counts
  simp only
  split_ifs
  · exact ⟨order.cons_cons 'd', List.forall_mem_cons.mpr ⟨trivial, below⟩⟩
  · exact ⟨order.cons 'd', below⟩

theorem toList_clockSpan (seconds : Int) :
    (clockSpan seconds).toList =
      (if seconds < 0 then ['-'] else []) ++
        spelled (clockCounts seconds.natAbs) := by
  by_cases zero : seconds = 0
  · subst zero
    decide +kernel
  · unfold clockSpan clockCounts
    rw [if_neg zero]
    simp only
    split_ifs
    all_goals simp [spelled]

theorem toList_daysAndClock (seconds : Int) :
    (daysAndClock seconds).toList =
      (if seconds.tmod secondsPerDay < 0 then ['-'] else []) ++
        spelled (counts seconds) := by
  obtain ⟨whole, small, positive, -⟩ := tmod_day_spec seconds
  have rest := toList_clockSpan (seconds.tmod secondsPerDay)
  unfold daysAndClock counts
  by_cases days : 0 < seconds.tdiv secondsPerDay
  · have unsigned : ¬ seconds.tmod secondsPerDay < 0 := by omega
    rw [if_neg unsigned, List.nil_append] at rest
    simp only [if_pos days, if_neg unsigned, String.toList_append, rest,
      integerText, String.toList_ofList,
      Decimal.signed_of_nonneg (Int.le_of_lt days)]
    simp [spelled]
  · simp only [if_neg days, rest]

theorem total_counts (seconds : Int) :
    (total (counts seconds) : Int) =
      if 0 < seconds.tdiv secondsPerDay then seconds
      else (seconds.tmod secondsPerDay).natAbs := by
  obtain ⟨whole, small, positive, -⟩ := tmod_day_spec seconds
  have clock := total_clockCounts (seconds.tmod secondsPerDay).natAbs
  unfold counts
  by_cases days : 0 < seconds.tdiv secondsPerDay
  · simp only [if_pos days]
    rw [total, clock, unitSeconds]
    omega
  · simp only [if_neg days]
    rw [clock]

/-! ## The duration that a text tells -/

/-- A duration, or what is left of a day if the days of a negative one are not
counted. -/
def told (seconds : Int) : Int :=
  if -86400 < seconds then seconds else seconds.tmod secondsPerDay

theorem read_daysAndClock (seconds : Int) :
    read (daysAndClock seconds).toList = told seconds := by
  obtain ⟨whole, small, positive, negative⟩ := tmod_day_spec seconds
  have proper := areProper_counts seconds
  have sum := total_counts seconds
  rw [toList_daysAndClock, told]
  by_cases signed : seconds.tmod secondsPerDay < 0
  · rw [if_pos signed, List.cons_append, List.nil_append,
      read_minus_spelled proper, sum]
    split_ifs
    all_goals omega
  · rw [if_neg signed, List.nil_append, read_spelled proper, sum]
    split_ifs
    all_goals omega

theorem daysAndClock_told (seconds : Int) :
    daysAndClock (told seconds) = daysAndClock seconds := by
  unfold told
  split_ifs with above
  · rfl
  · obtain ⟨whole, small, -, negative⟩ := tmod_day_spec seconds
    obtain ⟨whole', small', -, negative'⟩ :=
      tmod_day_spec (seconds.tmod secondsPerDay)
    -- What is left of a day has no days and is all that is left of itself.
    have days : ¬ 0 < seconds.tdiv secondsPerDay := by omega
    have none : ¬ 0 < (seconds.tmod secondsPerDay).tdiv secondsPerDay := by omega
    have rest : (seconds.tmod secondsPerDay).tmod secondsPerDay =
        seconds.tmod secondsPerDay := by omega
    simp only [daysAndClock, if_neg days, if_neg none, rest]

theorem told_eq_self_iff (seconds : Int) :
    told seconds = seconds ↔ -86400 < seconds := by
  obtain ⟨-, small, -⟩ := tmod_day_spec seconds
  unfold told
  split_ifs with above
  · exact iff_of_true rfl above
  · refine iff_of_false ?_ above
    omega

/-- The text of a duration is an optional minus sign and proper counts.  It tells
the duration exactly if that is above minus one day, and else what is left of a
day.  Another duration has the same text only if it is told as the same. -/
theorem daysAndClock_tells_duration (seconds : Int) :
    (∃ counts, AreProper counts ∧
      ((daysAndClock seconds).toList = spelled counts ∨
        (daysAndClock seconds).toList = '-' :: spelled counts)) ∧
    (read (daysAndClock seconds).toList = seconds ↔ -86400 < seconds) ∧
    (read (daysAndClock seconds).toList =
      if -86400 < seconds then seconds else seconds.tmod secondsPerDay) ∧
    ∀ other : Int,
      daysAndClock other = daysAndClock seconds ↔ told other = told seconds := by
  refine ⟨⟨_, areProper_counts seconds, ?_⟩, ?_, read_daysAndClock seconds, ?_⟩
  · rw [toList_daysAndClock]
    split_ifs
    · exact .inr rfl
    · exact .inl rfl
  · rw [read_daysAndClock]
    exact told_eq_self_iff seconds
  · intro other
    constructor
    · intro same
      rw [← read_daysAndClock, same, read_daysAndClock]
    · intro same
      rw [← daysAndClock_told other, same, daysAndClock_told]

/-- A day and more before nothing loses its day, so that its text is that of a
part of a day, and minus one day is written as nothing is. -/
theorem negative_days_are_lost :
    daysAndClock (-93784) = "-2h3m4s" ∧
      read (daysAndClock (-93784)).toList ≠ -93784 ∧
      daysAndClock (-86400) = daysAndClock 0 := by
  decide +kernel

end Duration

end WalletRows
