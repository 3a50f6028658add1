import WalletRows.Proofs.Calendar.Gregorian
import WalletRows.Proofs.Template
import WalletRows.Proofs.Text.FixedPoint

/-!
# Texts that tell the second

The label of a confirmed transaction is a date and a time of day.  Both can be
told from the text although the day and the year have no fixed width: the day
ends at a comma and the year at a blank, and a year that is not of four digits
has a sign.  The twelve hours of the clock are told apart by its last part.  So
the text tells the second of the zone, and with the zone the second itself.
-/

namespace WalletRows

namespace Date

/-! ## Dates -/

def readYear : List Char → Int
  | '-' :: digits => -Decimal.value digits
  | '+' :: digits => Decimal.value digits
  | digits => Decimal.value digits

theorem readYear_of_digits {text : List Char}
    (all : ∀ character ∈ text, character.isDigit = true) :
    readYear text = Decimal.value text := by
  unfold readYear
  split
  · cases all '-' List.mem_cons_self
  · cases all '+' List.mem_cons_self
  · rfl

theorem readYear_yearText (year : Int) : readYear (yearText year) = year := by
  unfold yearText
  simp only
  split_ifs with negative long
  · simp only [readYear, Decimal.value_padded]
    omega
  · simp only [readYear, Decimal.value_padded]
    omega
  · rw [readYear_of_digits fun _ => Decimal.isDigit_of_mem_padded,
      Decimal.value_padded]
    omega

theorem ne_blank_of_mem_yearText {year : Int} {character : Char}
    (member : character ∈ yearText year) : decide (character ≠ ' ') = true := by
  have kind : character.isDigit = true ∨ character = '-' ∨ character = '+' := by
    unfold yearText at member
    simp only at member
    split_ifs at member
    · rcases List.mem_cons.mp member with sign | digit
      · exact .inr (.inl sign)
      · exact .inl (Decimal.isDigit_of_mem_padded digit)
    · rcases List.mem_cons.mp member with sign | digit
      · exact .inr (.inr sign)
      · exact .inl (Decimal.isDigit_of_mem_padded digit)
    · exact .inl (Decimal.isDigit_of_mem_padded member)
  rw [decide_eq_true_iff]
  rintro rfl
  revert kind
  decide

theorem length_monthName (month : Nat) : (monthName month).toList.length = 3 := by
  unfold monthName
  split <;> rfl

theorem monthName_inj {first second : Nat} (positive : 1 ≤ first)
    (within : first ≤ 12) (positive' : 1 ≤ second) (within' : second ≤ 12)
    (same : (monthName first).toList = (monthName second).toList) :
    first = second := by
  have all : ∀ first < 13, ∀ second < 13, 1 ≤ first → 1 ≤ second →
      (monthName first).toList = (monthName second).toList →
        first = second := by
    decide +kernel
  exact all first (by omega) second (by omega) positive positive' same

theorem toList_text (date : Date) :
    date.text.toList = (monthName date.month).toList ++
      ' ' :: (Decimal.digits date.day ++
        ',' :: ' ' :: yearText date.year) := by
  simp [text]

/-- A date can be told from a text in which a blank follows. -/
theorem IsDay.text_append_inj {first second : Date} (isDay : first.IsDay)
    (other : second.IsDay) {rest others : List Char}
    (same : first.text.toList ++ ' ' :: rest =
      second.text.toList ++ ' ' :: others) :
    first = second ∧ rest = others := by
  -- The month has three letters, no comma is in the day and no blank in the year,
  -- so both texts are cut at the same places.
  rw [toList_text, toList_text, List.append_assoc, List.append_assoc] at same
  obtain ⟨month, behindMonth⟩ := List.append_inj same
    ((length_monthName _).trans (length_monthName _).symm)
  simp only [List.cons_append, List.append_assoc, List.cons.injEq, true_and]
    at behindMonth
  obtain ⟨day, behindDay⟩ := append_inj_of_ends
    (fun _ => Decimal.isDigit_of_mem_digits)
    (fun _ => Decimal.isDigit_of_mem_digits) rfl rfl behindMonth
  simp only [List.cons.injEq, true_and] at behindDay
  obtain ⟨year, behindYear⟩ := append_inj_of_ends
    (fun _ => ne_blank_of_mem_yearText) (fun _ => ne_blank_of_mem_yearText)
    rfl rfl behindDay
  refine ⟨?_, (List.cons.inj behindYear).2⟩
  have years : first.year = second.year := by
    rw [← readYear_yearText first.year, year, readYear_yearText]
  have months : first.month = second.month := monthName_inj isDay.month_pos
    isDay.month_le other.month_pos other.month_le month
  change (⟨first.year, first.month, first.day⟩ : Date) =
    ⟨second.year, second.month, second.day⟩
  rw [years, months, Decimal.digits_inj day]

end Date

/-! ## Times of day -/

/-- The hour that a clock with twelve hours shows. -/
def shownHour (hour : Nat) : Nat :=
  if hour % 12 = 0 then 12 else hour % 12

theorem toList_clockText (second : Nat) :
    (clockText second).toList =
      Decimal.padded 2 (shownHour (second / 3600)) ++
        ':' :: (Decimal.padded 2 (second / 60 % 60) ++
          ':' :: (Decimal.padded 2 (second % 60) ++
            ' ' :: (if second / 3600 < 12 then ['A', 'M'] else ['P', 'M']))) := by
  unfold clockText shownHour
  simp only
  split_ifs <;> simp

theorem shownHour_lt (hour : Nat) : shownHour hour < 10 ^ 2 := by
  unfold shownHour
  split <;> omega

/-- An hour of the day is the one shown in its half of the day. -/
theorem shownHour_inj {first second : Nat} (within : first < 24)
    (within' : second < 24) (half : first < 12 ↔ second < 12)
    (same : shownHour first = shownHour second) : first = second := by
  unfold shownHour at same
  split_ifs at same <;> omega

/-- The clock tells the second of the day. -/
theorem clockText_inj {first second : Nat} (within : first < 86400)
    (within' : second < 86400)
    (same : (clockText first).toList = (clockText second).toList) :
    first = second := by
  rw [toList_clockText, toList_clockText] at same
  obtain ⟨hour, same⟩ := Decimal.padded_append_inj (by decide)
    (shownHour_lt _) (shownHour_lt _) same
  obtain ⟨minute, same⟩ := Decimal.padded_append_inj (by decide)
    (by omega) (by omega) (List.cons.inj same).2
  obtain ⟨last, same⟩ := Decimal.padded_append_inj (by decide)
    (by omega) (by omega) (List.cons.inj same).2
  -- What is left of the texts is only the half of the day.
  have half : first / 3600 < 12 ↔ second / 3600 < 12 := by
    split_ifs at same with morning morning' morning'
    · exact iff_of_true morning morning'
    · exact absurd same (by decide)
    · exact absurd same (by decide)
    · exact iff_of_false morning morning'
  have hours := shownHour_inj (by omega) (by omega) half hour
  omega

/-! ## Labels -/

namespace Timestamp

theorem dayNumber_eq (timestamp : Int) :
    dayNumber timestamp = timestamp / 86400 :=
  Int.fdiv_eq_ediv_of_nonneg _ (by decide)

theorem secondOfDay_eq (timestamp : Int) :
    secondOfDay timestamp = (timestamp % 86400).toNat :=
  congrArg Int.toNat (Int.fmod_eq_emod_of_nonneg _ (by decide))

theorem secondOfDay_lt (timestamp : Int) : secondOfDay timestamp < 86400 := by
  rw [secondOfDay_eq]
  omega

/-- A time is its day and the second of that day. -/
theorem eq_of_day_of_second {first second : Int}
    (day : dayNumber first = dayNumber second)
    (clock : secondOfDay first = secondOfDay second) : first = second := by
  rw [dayNumber_eq, dayNumber_eq] at day
  rw [secondOfDay_eq, secondOfDay_eq] at clock
  omega

theorem fill_confirmedAt (date clock : String) :
    (Locale.english.fill .confirmedAt [date, clock]).toList =
      date.toList ++ ' ' :: ("at ".toList ++ clock.toList) := by
  have fits : 2 ≤ UInt64.size := by decide
  have first : Template.IsHole 2 0 ['0'] :=
    ⟨⟨['0'], .inl rfl, by decide, by simp [Char.isDigit], by decide⟩, by decide⟩
  have second : Template.IsHole 2 1 ['1'] :=
    ⟨⟨['1'], .inl rfl, by decide, by simp [Char.isDigit], by decide⟩, by decide⟩
  have wording : (Locale.english.text .confirmedAt).toList =
      [] ++ '{' :: (['0'] ++ '}' ::
        (" at ".toList ++ '{' :: (['1'] ++ '}' :: []))) := by decide +kernel
  rw [Locale.fill, String.toList_ofList, wording,
    Template.fill_append_hole fits rfl first,
    Template.fill_append_hole fits rfl second,
    Template.fill_of_not_mem (by decide), Template.fill_of_not_mem (by decide)]
  simp

theorem confirmedText_of_hasDate {timestamp : Int} (valid : hasDate timestamp)
    (offset : Int) :
    (confirmedText timestamp offset .english).toList =
      (date (timestamp + offset)).text.toList ++ ' ' :: ("at ".toList ++
        (clockText (secondOfDay (timestamp + offset))).toList) := by
  rw [confirmedText, if_pos valid]
  exact fill_confirmedAt _ _

theorem confirmedText_of_not_hasDate {timestamp : Int}
    (invalid : ¬ hasDate timestamp) (offset : Int) (locale : Locale) :
    confirmedText timestamp offset locale = locale.text .unknown :=
  if_neg invalid

/-- The label tells the second in the zone. -/
theorem confirmedText_inj {first second offset : Int} (valid : hasDate first)
    (valid' : hasDate second)
    (same : confirmedText first offset .english =
      confirmedText second offset .english) : first = second := by
  have texts := congrArg String.toList same
  rw [confirmedText_of_hasDate valid, confirmedText_of_hasDate valid'] at texts
  obtain ⟨dates, clocks⟩ := (Date.isDay_ofDayNumber _).text_append_inj
    (Date.isDay_ofDayNumber _) texts
  have day := Date.ofDayNumber_inj.mp dates
  have clock := clockText_inj (secondOfDay_lt _) (secondOfDay_lt _)
    (List.append_cancel_left clocks)
  exact add_right_cancel (eq_of_day_of_second day clock)

theorem hasDate_iff {timestamp : Int} :
    hasDate timestamp = true ↔
      -8334601228800 ≤ timestamp ∧ timestamp ≤ 8210266876799 := by
  simp only [hasDate, Bool.and_eq_true, decide_eq_true_eq]
  exact Iff.rfl

/-- With the English wording the label of a confirmed transaction tells the
second, for every fixed shift from UTC.  Only times beyond the calendar have the
label for an unknown time, and a shift is nothing but a later time in UTC. -/
theorem confirmedText_tells_second (offset : Int) :
    (∀ timestamp other, hasDate timestamp → hasDate other →
      confirmedText timestamp offset .english =
        confirmedText other offset .english → timestamp = other) ∧
    (∀ timestamp, confirmedText timestamp offset .english = "Unknown" ↔
      ¬ (-8334601228800 ≤ timestamp ∧ timestamp ≤ 8210266876799)) ∧
    (∀ timestamp, hasDate timestamp → hasDate (timestamp + offset) →
      confirmedText timestamp offset .english =
        confirmedText (timestamp + offset) 0 .english) := by
  refine ⟨fun _ _ => confirmedText_inj, ?_, ?_⟩
  · intro timestamp
    rw [← hasDate_iff]
    constructor
    · intro unknown valid
      have texts := confirmedText_of_hasDate valid offset
      rw [unknown] at texts
      have blank : ' ' ∈ "Unknown".toList := by
        rw [texts]
        exact List.mem_append_right _ List.mem_cons_self
      exact absurd blank (by decide)
    · intro invalid
      exact confirmedText_of_not_hasDate invalid offset _
  · intro timestamp valid shifted
    rw [confirmedText, if_pos valid, confirmedText, if_pos shifted,
      Int.add_zero]

/-- The first second of the year 0, which is the last one of the year before a
second further west, and the noon after it. -/
theorem confirmedText_tells_second_around_year_zero :
    let midnight : Int := -62167219200
    let noon : Int := midnight + 43200
    hasDate midnight ∧ hasDate noon ∧ hasDate (midnight + -1) ∧
      (confirmedText midnight (-1) .english).toList =
        "Dec 31, -0001 at 11:59:59 PM".toList ∧
      confirmedText midnight (-1) .english =
        confirmedText (midnight + -1) 0 .english ∧
      confirmedText midnight 0 .english ≠ confirmedText noon 0 .english ∧
      confirmedText 8210266876800 0 .english = "Unknown" := by
  intro midnight noon
  obtain ⟨-, -, shift⟩ := confirmedText_tells_second (-1)
  obtain ⟨tells, unknown, -⟩ := confirmedText_tells_second 0
  refine ⟨rfl, rfl, rfl, ?_, shift midnight rfl rfl, ?_,
    (unknown _).mpr (by decide)⟩
  · rw [confirmedText_of_hasDate rfl]
    decide +kernel
  · intro same
    exact absurd (tells midnight noon rfl rfl same) (by decide)

end Timestamp

end WalletRows
