/-!
# Moments

A moment is a number of seconds from the beginning of 1970.  Its stamp shows the
date and the time of day in universal time.  The date is counted in years that
begin in March, so that the leap day comes last, and in cycles of four hundred
years, which all have the same number of days.  A number that comes from
elsewhere is a moment only if the clock counts so far and the calendar has a
year for it that can be written.
-/

namespace SettingsStore.Log

/-- A day of the calendar. -/
structure Date where
  year : Int
  month : Nat
  day : Nat
  deriving DecidableEq

/-- The date of a day, days being counted from the beginning of 1970. -/
def dateOf (days : Int) : Date :=
  let fromMarch := days + 719468
  let cycle := Int.fdiv fromMarch 146097
  let dayOfCycle := (Int.fmod fromMarch 146097).toNat
  let yearOfCycle :=
    (dayOfCycle - dayOfCycle / 1460 + dayOfCycle / 36524 - dayOfCycle /
        146096) / 365
  let dayOfYear :=
    dayOfCycle - (365 * yearOfCycle + yearOfCycle / 4 - yearOfCycle / 100)
  let monthFromMarch := (5 * dayOfYear + 2) / 153
  let day := dayOfYear - (153 * monthFromMarch + 2) / 5 + 1
  let month :=
    if monthFromMarch < 10 then monthFromMarch + 3 else monthFromMarch - 9
  let year := (yearOfCycle : Int) + cycle * 400 + (if month ≤ 2 then 1 else 0)
  ⟨year, month, day⟩

/-- A number with two digits at least. -/
def twoDigits (value : Nat) : String :=
  (if value < 10 then "0" else "") ++ toString value

/-- The stamp of a moment. -/
def stamp (seconds : Int) : String :=
  let date := dateOf (Int.fdiv seconds 86400)
  let second := (Int.fmod seconds 86400).toNat
  toString date.year ++ "-" ++ twoDigits date.month ++ "-" ++
    twoDigits date.day ++ "T" ++
    twoDigits (second / 3600) ++ ":" ++ twoDigits (second / 60 % 60) ++ ":" ++
    twoDigits (second % 60) ++ "+0000"

/-- Why a number is no moment. -/
inductive MomentError where
  | notANumber
  /-- The clock does not count so far. -/
  | beyondClock
  /-- The calendar has no such year. -/
  | beyondCalendar
  /-- The year is too great to be written. -/
  | yearTooGreat
  deriving DecidableEq

/-- The words for a moment error. -/
def MomentError.message : MomentError → String
  | .notANumber => "Invalid value NaN (not a number)"
  | .beyondClock => "timestamp out of range for platform time_t"
  | .beyondCalendar => "[Errno 75] Value too large for defined data type"
  | .yearTooGreat => "signed integer is greater than maximum"

/-- The seconds on each side of zero that the clock counts. -/
def clockRange : Int := Nat.pow 2 63

/--
The years on each side of 1900 that the calendar has, and of zero that can be
written.
-/
def yearRange : Int := Nat.pow 2 31

/-- The moment of a number of seconds. -/
def momentOf (seconds : Int) : Except MomentError Int :=
  let year := (dateOf (Int.fdiv seconds 86400)).year
  if seconds < -clockRange ∨ clockRange ≤ seconds then .error .beyondClock
  else if year < 1900 - yearRange ∨ 1900 + yearRange ≤ year then
    .error .beyondCalendar
  else if yearRange ≤ year then .error .yearTooGreat
  else .ok seconds

end SettingsStore.Log
