import WalletRows.Duration
import WalletRows.Proofs.Calendar.ConfirmedText

/-!
# Today and yesterday

A compact list compares the year, the month and the day of a time with those of
the present one by one.  This is a comparison of the numbers of the two days:
two dates are equal exactly on one day, and a date with the same year and month
and the day before is that of the day before, unless the present day is the
first of its month.
-/

namespace WalletRows

/-! ## Dates beside each other -/

namespace Date

theorem eq_iff {first second : Date} :
    first = second ↔ first.year = second.year ∧ first.month = second.month ∧
      first.day = second.day := by
  rw [← Date.mk.injEq]

/-- A date is the one after another in its own month exactly if it is that of
the day after and not the first of its month. -/
theorem next_in_month_iff {number later : Int} :
    let date := ofDayNumber number
    let after := ofDayNumber later
    (date.year = after.year ∧ date.month = after.month ∧
        date.day + 1 = after.day) ↔
      number + 1 = later ∧ after.day ≠ 1 := by
  intro date after
  have positive : 1 ≤ date.day := (isDay_ofDayNumber number).day_pos
  constructor
  · rintro ⟨year, month, day⟩
    refine ⟨?_, by omega⟩
    rw [← toDayNumber_ofDayNumber number, ← toDayNumber_ofDayNumber later]
    change date.toDayNumber + 1 = after.toDayNumber
    rw [toDayNumber, toDayNumber, year, month]
    omega
  · rintro ⟨rfl, inside⟩
    have next : after = date.next := ofDayNumber_succ number
    rw [next] at inside ⊢
    unfold Date.next at inside ⊢
    split_ifs at inside ⊢
    · exact ⟨rfl, rfl, rfl⟩
    · exact absurd rfl inside
    · exact absurd rfl inside

theorem comma_mem_text (date : Date) : ',' ∈ date.text.toList := by
  rw [Date.toList_text]
  simp

theorem text_ne_of_not_mem {text : String} (plain : ',' ∉ text.toList)
    (date : Date) : date.text ≠ text := by
  rintro rfl
  exact plain (comma_mem_text date)

end Date

/-! ## Texts beside each other -/

theorem isDigit_or_sign_of_mem_integerText {number : Int} {character : Char}
    (member : character ∈ (integerText number).toList) :
    character.isDigit = true ∨ character = '-' := by
  rw [integerText, String.toList_ofList] at member
  simpa [Decimal.isDigitOrMinus] using Decimal.isDigitOrMinus_of_mem_signed member

/-- How long ago a time was is told without a comma, unlike a date. -/
theorem comma_not_mem_timeAgo (timestamp now : Int) :
    ',' ∉ (timeAgo timestamp now).toList := by
  have names : ∀ ago ∈ agoUnits, ',' ∉ ago.name.toList := by
    simp [agoUnits]
  have number (count : Int) : ',' ∉ (integerText count).toList := by
    intro member
    have kind := isDigit_or_sign_of_mem_integerText member
    revert kind
    decide
  unfold timeAgo
  simp only
  split
  · decide
  · split
    · next ago found =>
      have name := names ago (List.mem_of_find?_eq_some found)
      unfold countText
      split <;> simp [name, number]
    · decide

/-- How long ago a time was is told in more than one word. -/
theorem blank_mem_timeAgo (timestamp now : Int) :
    ' ' ∈ (timeAgo timestamp now).toList := by
  unfold timeAgo
  simp only
  split
  · decide
  · split
    · unfold countText
      split <;> simp
    · decide

theorem timeAgo_ne_of_not_mem {text : String} (one : ' ' ∉ text.toList)
    (timestamp now : Int) : timeAgo timestamp now ≠ text := by
  rintro rfl
  exact one (blank_mem_timeAgo _ _)

/-! ## Times beside each other -/

namespace Timestamp

variable {timestamp now : Int}

theorem date_eq_iff : date timestamp = date now ↔
    dayNumber timestamp = dayNumber now :=
  Date.ofDayNumber_inj

/-- The present time is not on the first of a month, and the time is on the day
before. -/
def IsYesterday (timestamp now : Int) : Prop :=
  dayNumber timestamp + 1 = dayNumber now ∧ (date now).day ≠ 1

instance : Decidable (IsYesterday timestamp now) :=
  inferInstanceAs (Decidable (_ ∧ _))

theorem isYesterday_iff : IsYesterday timestamp now ↔
    (date timestamp).year = (date now).year ∧
      (date timestamp).month = (date now).month ∧
      (date timestamp).day + 1 = (date now).day :=
  Date.next_in_month_iff.symm

/-- The calendar begins with the first second of a day that is the first of its
month, and ends with the last second of a day. -/
theorem hasDate_iff_dayNumber :
    hasDate timestamp = true ↔
      dayNumber first ≤ dayNumber timestamp ∧
        dayNumber timestamp ≤ dayNumber last := by
  rw [hasDate_iff]
  simp only [dayNumber_eq, first, last]
  omega

theorem hasDate_of_isYesterday (valid : hasDate now)
    (yesterday : IsYesterday timestamp now) : hasDate timestamp := by
  have firstDay : (date first).day = 1 := by decide +kernel
  obtain ⟨before, inside⟩ := yesterday
  rw [hasDate_iff_dayNumber] at valid ⊢
  have later : dayNumber now ≠ dayNumber first := by
    intro same
    rw [date, same] at inside
    exact inside firstDay
  omega

/-- Which text a time has in a compact list, by the numbers of days. -/
theorem dateOrTimeAgo_eq (timestamp now : Int) (locale : Locale) :
    dateOrTimeAgo timestamp now locale =
      if ¬ hasDate timestamp then locale.text .unknown
      else if dayNumber timestamp = dayNumber now then timeAgo timestamp now
      else if IsYesterday timestamp now then locale.text .yesterday
      else (date timestamp).text := by
  -- The list tests the year and the month once, for both days.  Where one of them
  -- differs, both of the tests here fail as well.
  simp only [dateOrTimeAgo, ite_not, ← date_eq_iff, Date.eq_iff, isYesterday_iff]
  split
  · by_cases year : (date timestamp).year = (date now).year
    · by_cases month : (date timestamp).month = (date now).month
      · simp only [year, month, true_and, and_self, if_true]
      · simp only [month, false_and, and_false, if_false]
    · simp only [year, false_and, if_false]
  · rfl

/-- The English texts tell which case it is. -/
theorem dateOrTimeAgo_english (timestamp : Int) (present : hasDate now) :
    (dateOrTimeAgo timestamp now .english = "Unknown" ↔ ¬ hasDate timestamp) ∧
    (dateOrTimeAgo timestamp now .english = timeAgo timestamp now ↔
      dayNumber timestamp = dayNumber now) ∧
    (dateOrTimeAgo timestamp now .english = "Yesterday" ↔
      IsYesterday timestamp now) := by
  have unknown : Locale.english.text .unknown = "Unknown" := rfl
  have yesterdayText : Locale.english.text .yesterday = "Yesterday" := rfl
  have dated (today : dayNumber timestamp = dayNumber now) :
      hasDate timestamp := by
    rwa [hasDate_iff_dayNumber, today, ← hasDate_iff_dayNumber]
  have notToday (yesterday : IsYesterday timestamp now) :
      dayNumber timestamp ≠ dayNumber now := by
    have := yesterday.1
    omega
  rw [dateOrTimeAgo_eq, unknown, yesterdayText, ite_not]
  split_ifs with valid today yesterday
  · exact ⟨iff_of_false (timeAgo_ne_of_not_mem (by decide) _ _)
        (not_not_intro valid),
      iff_of_true rfl today,
      iff_of_false (timeAgo_ne_of_not_mem (by decide) _ _) fun yesterday =>
        notToday yesterday today⟩
  · exact ⟨iff_of_false (by decide) (not_not_intro valid),
      iff_of_false (timeAgo_ne_of_not_mem (by decide) _ _).symm today,
      iff_of_true rfl yesterday⟩
  · exact ⟨iff_of_false (Date.text_ne_of_not_mem (by decide) _)
        (not_not_intro valid),
      iff_of_false (Date.text_ne_of_not_mem (comma_not_mem_timeAgo _ _) _) today,
      iff_of_false (Date.text_ne_of_not_mem (by decide) _) yesterday⟩
  · exact ⟨iff_of_true rfl valid,
      iff_of_false (timeAgo_ne_of_not_mem (by decide) _ _).symm fun today =>
        valid (dated today),
      iff_of_false (by decide) fun yesterday =>
        valid (hasDate_of_isYesterday present yesterday)⟩

/-- A time in a compact list is told by the numbers of its day and of the
present one: on the same day by how long ago it was, on the day before by a word
if both are of one month, and else by its date, also if it is yet to come.  The
English texts tell these cases apart.  So the dates are compared as the numbers
of their days are, and the present day has a day before it to be compared with
even at the start of a month. -/
theorem dateOrTimeAgo_by_dayNumber (timestamp now : Int) (valid : hasDate now) :
    (∀ locale, dateOrTimeAgo timestamp now locale =
      if ¬ hasDate timestamp then locale.text .unknown
      else if dayNumber timestamp = dayNumber now then timeAgo timestamp now
      else if IsYesterday timestamp now then locale.text .yesterday
      else (date timestamp).text) ∧
    (dateOrTimeAgo timestamp now .english = "Unknown" ↔ ¬ hasDate timestamp) ∧
    (dateOrTimeAgo timestamp now .english = timeAgo timestamp now ↔
      dayNumber timestamp = dayNumber now) ∧
    (dateOrTimeAgo timestamp now .english = "Yesterday" ↔
      IsYesterday timestamp now) ∧
    (∀ locale, hasDate timestamp →
      dayNumber now < dayNumber timestamp ∨
        dayNumber timestamp + 1 < dayNumber now →
      dateOrTimeAgo timestamp now locale = (date timestamp).text) ∧
    (date timestamp = date now ↔ dayNumber timestamp = dayNumber now) ∧
    1 ≤ (date now).day := by
  obtain ⟨unknown, today, yesterday⟩ :=
    dateOrTimeAgo_english timestamp valid
  refine ⟨dateOrTimeAgo_eq timestamp now, unknown, today, yesterday, ?_,
    date_eq_iff, (Date.isDay_ofDayNumber _).day_pos⟩
  intro locale dated away
  have notToday : dayNumber timestamp ≠ dayNumber now := by omega
  have notYesterday : ¬ IsYesterday timestamp now := by
    intro yesterday
    have := yesterday.1
    omega
  rw [dateOrTimeAgo_eq, if_neg (not_not_intro dated), if_neg notToday,
    if_neg notYesterday]

/-- The last second before 1970, both ends of the day before, and the first day
of the same month with the second before it. -/
theorem dateOrTimeAgo_by_dayNumber_before_1970 :
    let now : Int := -1
    let month : Int := -2678400
    hasDate now ∧ hasDate month ∧
      dateOrTimeAgo (-86400) now .english = timeAgo (-86400) now ∧
      dateOrTimeAgo (-86401) now .english = "Yesterday" ∧
      dateOrTimeAgo (-172800) now .english = "Yesterday" ∧
      dateOrTimeAgo (month - 1) month .english ≠ "Yesterday" ∧
      dateOrTimeAgo (-86400) (-172801) .english = "Dec 31, 1969" := by
  intro now month
  have present (timestamp : Int) := dateOrTimeAgo_by_dayNumber timestamp now rfl
  obtain ⟨-, -, today, -⟩ := present (-86400)
  obtain ⟨-, -, -, yesterday, -⟩ := present (-86401)
  obtain ⟨-, -, -, start, -⟩ := present (-172800)
  obtain ⟨-, -, -, first, -⟩ :=
    dateOrTimeAgo_by_dayNumber (month - 1) month rfl
  obtain ⟨-, -, -, -, later, -⟩ :=
    dateOrTimeAgo_by_dayNumber (-86400) (-172801) rfl
  refine ⟨rfl, rfl, today.mpr (by decide), yesterday.mpr (by decide +kernel),
    start.mpr (by decide +kernel), ?_, ?_⟩
  · exact fun same => absurd (first.mp same) (by decide +kernel)
  · rw [later .english rfl (.inl (by decide))]
    decide +kernel

end Timestamp

end WalletRows
