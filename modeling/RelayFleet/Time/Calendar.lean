/-
The proleptic Gregorian calendar: days counted from the first of January 1970, forwards and
backwards. Years are reckoned from March, so that a leap day ends its year.
-/
namespace RelayFleet

/-- A day by year, month and day of the month. -/
structure CivilDay where
  year : Int
  month : Nat
  day : Nat
deriving DecidableEq

namespace CivilDay

/-- Whether a year has a leap day. -/
def isLeap (year : Int) : Bool := (year % 4 == 0 && year % 100 != 0) || year % 400 == 0

/-- The number of days of a month. -/
def daysIn (year : Int) (month : Nat) : Nat :=
  if month = 2 then (if isLeap year then 29 else 28)
  else if month = 4 ∨ month = 6 ∨ month = 9 ∨ month = 11 then 30
  else 31

/-- The day, if the month has it. -/
def of? (year : Int) (month day : Nat) : Option CivilDay :=
  if 1 ≤ month ∧ month ≤ 12 ∧ 1 ≤ day ∧ day ≤ daysIn year month then some ⟨year, month, day⟩
  else none

/-- Days between the first of March of year 0 and the first of January 1970. -/
def epochShift : Int := 719468

/-- Days of 400 years. -/
def eraDays : Int := 146097

/-- Days since the first of January 1970. -/
def toDays (c : CivilDay) : Int :=
  let year := if c.month ≤ 2 then c.year - 1 else c.year
  let era := year / 400
  let yearOfEra := year - era * 400
  let month : Int := if c.month ≤ 2 then c.month + 9 else c.month - 3
  let dayOfYear := (153 * month + 2) / 5 + c.day - 1
  era * eraDays + (yearOfEra * 365 + yearOfEra / 4 - yearOfEra / 100 + dayOfYear) - epochShift

/-- The day that many days after the first of January 1970. -/
def ofDays (days : Int) : CivilDay :=
  let shifted := days + epochShift
  let era := shifted / eraDays
  let dayOfEra := shifted - era * eraDays
  let yearOfEra := (dayOfEra - dayOfEra / 1460 + dayOfEra / 36524 - dayOfEra / 146096) / 365
  let dayOfYear := dayOfEra - (365 * yearOfEra + yearOfEra / 4 - yearOfEra / 100)
  let month := (5 * dayOfYear + 2) / 153
  let day := dayOfYear - (153 * month + 2) / 5 + 1
  let civilMonth := if month < 10 then month + 3 else month - 9
  let year := yearOfEra + era * 400
  ⟨if civilMonth ≤ 2 then year + 1 else year, civilMonth.toNat, day.toNat⟩

end CivilDay

end RelayFleet
