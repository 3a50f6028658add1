import WalletRows.Calendar

/-!
# Spans of time

A span is shown by one unit, the greatest that it holds, or by days, hours,
minutes and seconds together.  Past times are shown by how long ago they were.
-/

namespace WalletRows

def integerText (number : Int) : String :=
  .ofList (Decimal.signed number)

/-- A unit of time that tells how long ago something was. -/
structure AgoUnit where
  seconds : Int
  /-- The English name for one of it. -/
  name : String

/-- The units from the greatest to the least. -/
def agoUnits : List AgoUnit :=
  [⟨365 * secondsPerDay, "year"⟩, ⟨30 * secondsPerDay, "month"⟩,
    ⟨7 * secondsPerDay, "week"⟩, ⟨secondsPerDay, "day"⟩, ⟨3600, "hour"⟩,
    ⟨60, "minute"⟩]

def countText (count : Int) (name : String) : String :=
  if count = 1 then
    "1 " ++ name ++ " ago"
  else
    integerText count ++ " " ++ name ++ "s ago"

/-- How long before `now` a time was, in whole units of the greatest unit that
fits.  A span longer than 64 bits can count is cut to the longest one. -/
def timeAgo (timestamp now : Int) : String :=
  let elapsed := min (now - timestamp) Int64.maxValue.toInt
  if elapsed < 0 then
    "in the future"
  else
    match agoUnits.find? fun ago => ago.seconds ≤ elapsed with
    | some ago => countText (elapsed / ago.seconds) ago.name
    | none => "just now"

/-- A time for a compact list: how long ago it was if it was today, a word if it
was yesterday in the same month, and else its date. -/
def dateOrTimeAgo (timestamp now : Int) (locale : Locale) : String :=
  if Timestamp.hasDate timestamp then
    let date := Timestamp.date timestamp
    let today := Timestamp.date now
    if date.year = today.year ∧ date.month = today.month then
      if date.day = today.day then timeAgo timestamp now
      else if date.day + 1 = today.day then locale.text .yesterday
      else date.text
    else
      date.text
  else
    locale.text .unknown

/-- A unit of time for whole durations. -/
structure SpanUnit where
  seconds : Int
  /-- What follows the number in a short text.  Minutes share the letter of the
  seconds, which are set off by a blank. -/
  suffix : String
  /-- The word that follows the number in a long text. -/
  phrase : Phrase

/-- The units above the second, from the greatest to the least. -/
def spanUnits : List SpanUnit :=
  [⟨secondsPerDay, "d", .days⟩, ⟨3600, "h", .hours⟩, ⟨60, "s", .minutes⟩]

/-- A duration in whole units of the greatest unit that fits.  Durations below a
minute, and negative ones, are counted in seconds. -/
def spanText (seconds : Int) (long : Bool) (locale : Locale) : String :=
  match spanUnits.find? fun span => span.seconds ≤ seconds with
  | some span =>
      let count := integerText (seconds / span.seconds)
      if long then count ++ " " ++ locale.text span.phrase
      else count ++ span.suffix
  | none =>
      integerText seconds ++ " " ++ (if long then locale.text .seconds else "s")

/-- A duration of less than a day by hours, minutes and seconds, without the
greater ones that are zero. -/
def clockSpan (seconds : Int) : String :=
  if seconds = 0 then
    "0s"
  else
    let sign := if seconds < 0 then "-" else ""
    let total := seconds.natAbs
    let part (count : Nat) (suffix : String) : String :=
      String.ofList (Decimal.digits count) ++ suffix
    let hours := total / 3600
    let minutes := total % 3600 / 60
    let rest := part (total % 60) "s"
    if 0 < hours then sign ++ part hours "h" ++ part minutes "m" ++ rest
    else if 0 < minutes then sign ++ part minutes "m" ++ rest
    else sign ++ rest

/-- A duration by days, if there are any, and what is left of a day. -/
def daysAndClock (seconds : Int) : String :=
  let days := seconds.tdiv secondsPerDay
  let rest := clockSpan (seconds.tmod secondsPerDay)
  if 0 < days then integerText days ++ "d" ++ rest else rest

end WalletRows
