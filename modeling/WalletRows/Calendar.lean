import WalletRows.Locale
import WalletRows.Text.Decimal

/-!
# Dates and times of day

A time is a number of seconds since the start of 1970 in UTC.  Its date belongs
to the Gregorian calendar, extended to all years; years are counted from one
before the year 1 as zero and negative numbers.  The calendar ends some 262
thousand years on either side, and a time beyond has no date.
-/

namespace WalletRows

def secondsPerDay : Int := 86400

structure Date where
  year : Int
  /-- From 1 to 12. -/
  month : Nat
  /-- From 1 to 31. -/
  day : Nat
deriving DecidableEq

namespace Date

/-- The number of days in 400 years. -/
def daysPerEra : Int := 146097

/-- The number of days from the first of March of the year 0 to the first of
January 1970. -/
def daysToEpoch : Int := 719468

/-- The date of a day that is counted from the first of January 1970.  Years
are taken to start in March, so that a leap day is the last of its year, and
eras of 400 years repeat. -/
def ofDayNumber (number : Int) : Date :=
  let shifted := number + daysToEpoch
  let era := shifted.fdiv daysPerEra
  let dayOfEra := (shifted.fmod daysPerEra).toNat
  let yearOfEra :=
    (dayOfEra - dayOfEra / 1460 + dayOfEra / 36524 - dayOfEra / 146096) / 365
  let dayOfYear := dayOfEra - (365 * yearOfEra + yearOfEra / 4 - yearOfEra / 100)
  let monthFromMarch := (5 * dayOfYear + 2) / 153
  let day := dayOfYear - (153 * monthFromMarch + 2) / 5 + 1
  let month :=
    if monthFromMarch < 10 then monthFromMarch + 3 else monthFromMarch - 9
  let year := yearOfEra + era * 400 + (if month ≤ 2 then 1 else 0)
  ⟨year, month, day⟩

/-- The English abbreviation of a month. -/
def monthName : Nat → String
  | 1 => "Jan"
  | 2 => "Feb"
  | 3 => "Mar"
  | 4 => "Apr"
  | 5 => "May"
  | 6 => "Jun"
  | 7 => "Jul"
  | 8 => "Aug"
  | 9 => "Sep"
  | 10 => "Oct"
  | 11 => "Nov"
  | _ => "Dec"

/-- A year of at least four digits, with a sign if it has more than four digits
or is negative. -/
def yearText (year : Int) : List Char :=
  let digits := Decimal.padded 4 year.natAbs
  if year < 0 then '-' :: digits
  else if 9999 < year then '+' :: digits
  else digits

/-- A date such as `Jan 2, 2006`. -/
def text (date : Date) : String :=
  monthName date.month ++ " " ++ .ofList (Decimal.digits date.day) ++ ", " ++
    .ofList (yearText date.year)

end Date

/-- The time of day such as `03:04:05 PM` of a second of the day. -/
def clockText (second : Nat) : String :=
  let hour := second / 3600
  let shown := if hour % 12 = 0 then 12 else hour % 12
  let two (number : Nat) : String := .ofList (Decimal.padded 2 number)
  two shown ++ ":" ++ two (second / 60 % 60) ++ ":" ++ two (second % 60) ++
    (if hour < 12 then " AM" else " PM")

/-- A time zone: how many seconds its time is ahead of UTC at a time. -/
def Zone : Type := Int → Int

namespace Zone

def fixed (seconds : Int) : Zone :=
  fun _ => seconds

instance : Coe Int Zone := ⟨fixed⟩

end Zone

namespace Timestamp

/-- The first second that has a date. -/
def first : Int := -8334601228800

/-- The last second that has a date. -/
def last : Int := 8210266876799

def hasDate (timestamp : Int) : Bool :=
  first ≤ timestamp && timestamp ≤ last

/-- The day of a time, counted from the first of January 1970. -/
def dayNumber (timestamp : Int) : Int :=
  timestamp.fdiv secondsPerDay

def secondOfDay (timestamp : Int) : Nat :=
  (timestamp.fmod secondsPerDay).toNat

def date (timestamp : Int) : Date :=
  .ofDayNumber (dayNumber timestamp)

/-- The date and time of day of a time, some seconds east of UTC.  The shift may
lead beyond the ends of the calendar; only the time itself may not. -/
def confirmedText (timestamp offset : Int) (locale : Locale) : String :=
  if hasDate timestamp then
    let shifted := timestamp + offset
    locale.fill .confirmedAt [(date shifted).text, clockText (secondOfDay shifted)]
  else
    locale.text .unknown

end Timestamp

end WalletRows
