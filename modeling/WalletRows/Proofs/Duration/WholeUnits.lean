import Mathlib.Data.List.Nodup
import Mathlib.Tactic.SplitIfs
import WalletRows.Duration
import WalletRows.Proofs.Text.Numerals

/-!
# Durations in whole units

A duration is shown as a count of the greatest unit that fits in it.  The count
ends where the first character follows that stands in no integer, and every unit
begins with such a character: a letter in a short text, and a blank before the
words of a long one.  So a text tells the count and what stands behind it, and
two durations share a text exactly if they share both.  In a short text what
stands behind the count tells the unit, for seconds and minutes have the same
letter but only the seconds a blank before it; in a long text it does so exactly
if the locale has four different words.
-/

namespace WalletRows

namespace Duration

/-! ## Units -/

inductive TimeUnit where
  | days
  | hours
  | minutes
  | seconds
deriving DecidableEq

namespace TimeUnit

def all : List TimeUnit := [.days, .hours, .minutes, .seconds]

/-- The seconds in a unit. -/
def length : TimeUnit → Int
  | .days => 86400
  | .hours => 3600
  | .minutes => 60
  | .seconds => 1

def phrase : TimeUnit → Phrase
  | .days => .days
  | .hours => .hours
  | .minutes => .minutes
  | .seconds => .seconds

/-- What stands behind the count in a short text. -/
def suffix : TimeUnit → String
  | .days => "d"
  | .hours => "h"
  | .minutes => "s"
  | .seconds => " s"

/-- What stands behind the count in a text of either form. -/
def ending (unit : TimeUnit) (long : Bool) (locale : Locale) : String :=
  if long then " " ++ locale.text unit.phrase else unit.suffix

theorem mem_all (unit : TimeUnit) : unit ∈ all := by
  cases unit <;> decide

theorem nodup_all : all.Nodup := by
  decide

theorem suffix_injective : Function.Injective suffix := by
  intro first second
  cases first <;> cases second <;> decide

/-- The four phrases have different words exactly if the words tell the unit. -/
theorem nodup_texts_iff (locale : Locale) :
    ([Phrase.days, .hours, .minutes, .seconds].map locale.text).Nodup ↔
      Function.Injective fun unit : TimeUnit => locale.text unit.phrase := by
  have words : [Phrase.days, .hours, .minutes, .seconds].map locale.text =
      all.map fun unit => locale.text unit.phrase := rfl
  rw [words, List.nodup_map_iff_inj_on nodup_all]
  constructor
  · intro apart first second
    exact apart first (mem_all first) second (mem_all second)
  · intro apart first _ second _ same
    exact apart same

/-- No count goes on into what stands behind it. -/
theorem takeWhile_ending (unit : TimeUnit) (long : Bool) (locale : Locale) :
    (unit.ending long locale).toList.takeWhile Decimal.isDigitOrMinus = [] := by
  cases long with
  | false =>
      change unit.suffix.toList.takeWhile Decimal.isDigitOrMinus = []
      cases unit <;> decide
  | true => simp [ending, Decimal.isDigitOrMinus]

end TimeUnit

/-- The unit of a duration.  What is less than a minute is counted in seconds, as
are all negative durations. -/
def unitOf (seconds : Int) : TimeUnit :=
  if 86400 ≤ seconds then .days
  else if 3600 ≤ seconds then .hours
  else if 60 ≤ seconds then .minutes
  else .seconds

/-- The whole number of its unit in a duration. -/
def countOf (seconds : Int) : Int :=
  seconds / (unitOf seconds).length

/-- Two durations have the same whole number of the same unit. -/
def CountAlike (first second : Int) : Prop :=
  unitOf first = unitOf second ∧ countOf first = countOf second

instance (first second : Int) : Decidable (CountAlike first second) :=
  inferInstanceAs (Decidable (_ ∧ _))

theorem unitOf_length (unit : TimeUnit) : unitOf unit.length = unit := by
  cases unit <;> decide

theorem countOf_length (unit : TimeUnit) : countOf unit.length = 1 := by
  cases unit <;> decide

/-! ## Texts -/

theorem find?_spanUnits (seconds : Int) :
    spanUnits.find? (fun span => span.seconds ≤ seconds) =
      match unitOf seconds with
      | .seconds => none
      | unit => some ⟨unit.length, unit.suffix, unit.phrase⟩ := by
  unfold spanUnits unitOf
  split_ifs with days hours minutes
  · simp only [List.find?_cons, secondsPerDay, days, decide_true]
    rfl
  · simp only [List.find?_cons, secondsPerDay, days, hours, decide_true,
      decide_false]
    rfl
  · simp only [List.find?_cons, secondsPerDay, days, hours, minutes, decide_true,
      decide_false]
    rfl
  · simp only [List.find?_cons, List.find?_nil, secondsPerDay, days, hours,
      minutes, decide_false]

theorem spanText_eq (seconds : Int) (long : Bool) (locale : Locale) :
    spanText seconds long locale =
      integerText (countOf seconds) ++ (unitOf seconds).ending long locale := by
  unfold spanText countOf
  rw [find?_spanUnits]
  cases unitOf seconds <;> cases long
  all_goals simp [TimeUnit.ending, TimeUnit.length, TimeUnit.suffix,
    TimeUnit.phrase, String.append_assoc]

/-- A text tells the count and what stands behind it. -/
theorem spanText_eq_iff {first second : Int} {long brief : Bool}
    {locale other : Locale} :
    spanText first long locale = spanText second brief other ↔
      countOf first = countOf second ∧
        (unitOf first).ending long locale = (unitOf second).ending brief other := by
  rw [spanText_eq, spanText_eq]
  constructor
  · intro same
    have texts := congrArg String.toList same
    simp only [String.toList_append, integerText, String.toList_ofList] at texts
    obtain ⟨counts, endings⟩ := Decimal.signed_append_inj
      (TimeUnit.takeWhile_ending _ _ _) (TimeUnit.takeWhile_ending _ _ _) texts
    exact ⟨counts, String.toList_inj.mp endings⟩
  · rintro ⟨counts, endings⟩
    rw [counts, endings]

theorem shortText_eq_iff {first second : Int} {locale other : Locale} :
    spanText first false locale = spanText second false other ↔
      CountAlike first second := by
  have endings : (unitOf first).ending false locale =
      (unitOf second).ending false other ↔ unitOf first = unitOf second :=
    TimeUnit.suffix_injective.eq_iff
  rw [spanText_eq_iff, endings, CountAlike, and_comm]

theorem longText_eq_iff {first second : Int} {locale : Locale} :
    spanText first true locale = spanText second true locale ↔
      countOf first = countOf second ∧
        locale.text (unitOf first).phrase = locale.text (unitOf second).phrase := by
  have endings : (unitOf first).ending true locale =
      (unitOf second).ending true locale ↔
        locale.text (unitOf first).phrase = locale.text (unitOf second).phrase := by
    simp [TimeUnit.ending, ← String.toList_inj]
  rw [spanText_eq_iff, endings]

theorem longTexts_tell_iff (locale : Locale) :
    (∀ first second, spanText first true locale = spanText second true locale ↔
      CountAlike first second) ↔
      Function.Injective fun unit : TimeUnit => locale.text unit.phrase := by
  constructor
  · intro tell first second words
    -- One of each unit would be shown alike if the words were the same.
    have same : spanText first.length true locale =
        spanText second.length true locale := by
      rw [longText_eq_iff, countOf_length, countOf_length, unitOf_length,
        unitOf_length]
      exact ⟨rfl, words⟩
    have units := ((tell first.length second.length).mp same).1
    rwa [unitOf_length, unitOf_length] at units
  · intro apart first second
    rw [longText_eq_iff, CountAlike, and_comm]
    exact and_congr_left fun _ => apart.eq_iff

theorem unitOf_eq_minutes {seconds : Int} (least : 60 ≤ seconds)
    (most : seconds < 3600) : unitOf seconds = .minutes := by
  unfold unitOf
  rw [if_neg (by omega), if_neg (by omega), if_pos least]

theorem unitOf_eq_seconds {seconds : Int} (most : seconds < 60) :
    unitOf seconds = .seconds := by
  unfold unitOf
  rw [if_neg (by omega), if_neg (by omega), if_neg (by omega)]

/-- Two short texts are the same exactly if the durations have the same whole
number of the same unit, in whatever locales they are shown.  The same holds of
the long texts in a locale exactly if its words for the four units differ from
each other.  So the letter that minutes and seconds share in short texts never
makes one read as the other. -/
theorem spanText_tells_units (locale : Locale) :
    (∀ first second other,
      spanText first false locale = spanText second false other ↔
        CountAlike first second) ∧
    (([Phrase.days, .hours, .minutes, .seconds].map locale.text).Nodup ↔
      ∀ first second,
        spanText first true locale = spanText second true locale ↔
          CountAlike first second) ∧
    ∀ minutes seconds other, 60 ≤ minutes → minutes < 3600 → seconds < 60 →
      spanText minutes false locale ≠ spanText seconds false other := by
  refine ⟨fun first second other => shortText_eq_iff, ?_, ?_⟩
  · rw [TimeUnit.nodup_texts_iff, longTexts_tell_iff]
  · intro minutes seconds other least most short same
    have units := (shortText_eq_iff.mp same).1
    rw [unitOf_eq_minutes least most, unitOf_eq_seconds short] at units
    cases units

/-- Words that begin with a digit or a blank, or are empty, tell the units as well
as any others that differ. -/
theorem spanText_tells_units_of_odd_words :
    let locale : Locale := ⟨fun
      | .days => some ""
      | .hours => some " "
      | .minutes => some "0 s"
      | .seconds => some "s"
      | _ => none⟩
    ([Phrase.days, .hours, .minutes, .seconds].map locale.text).Nodup ∧
      spanText 125 false locale ≠ spanText 2 false .english ∧
      spanText 7199 false locale = spanText 3600 false .english ∧
      spanText 7199 true locale = spanText 3600 true locale ∧
      spanText (-86400) true locale ≠ spanText 86400 true locale := by
  intro locale
  obtain ⟨short, long, apart⟩ := spanText_tells_units locale
  have distinct :
      ([Phrase.days, .hours, .minutes, .seconds].map locale.text).Nodup := by
    decide
  have tells := long.mp distinct
  refine ⟨distinct, apart 125 2 .english ?_ ?_ ?_, (short 7199 3600 .english).mpr ?_,
    (tells 7199 3600).mpr ?_, mt (tells (-86400) 86400).mp ?_⟩
  all_goals decide

end Duration

end WalletRows
