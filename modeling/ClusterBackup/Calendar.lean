/-
ClusterBackup.Calendar — dates and times of the Gregorian calendar.

A `DateTime` is a calendar day and a time of that day. A leap second is
the 59th second with more than a thousand million nanoseconds. `rank`
numbers moments so that earlier ones come first, and `ofUnix` finds the
moment a number of seconds after the start of 1970.
-/

namespace ClusterBackup

/-- A moment of the Gregorian calendar. -/
structure DateTime where
  year : Int
  month : Nat
  day : Nat
  hour : Nat
  minute : Nat
  second : Nat
  nanosecond : Nat
deriving DecidableEq, Repr

namespace DateTime

/-! ## Valid moments -/

def isLeapYear (year : Int) : Bool := year % 4 == 0 && (year % 100 != 0 || year % 400 == 0)

def daysInMonth (year : Int) (month : Nat) : Nat :=
  if month = 2 then (if isLeapYear year then 29 else 28)
  else if month = 4 ∨ month = 6 ∨ month = 9 ∨ month = 11 then 30
  else 31

/-- The first and the last year that dates are kept for. -/
def firstYear : Int := -262143
def lastYear : Int := 262142

/-- The fields name a day of the calendar and a time of day; only the 59th second may be longer. -/
def IsValid (t : DateTime) : Prop :=
  firstYear ≤ t.year ∧ t.year ≤ lastYear ∧ 1 ≤ t.month ∧ t.month ≤ 12 ∧ 1 ≤ t.day
    ∧ t.day ≤ daysInMonth t.year t.month ∧ t.hour < 24 ∧ t.minute < 60 ∧ t.second < 60
    ∧ t.nanosecond < (if t.second = 59 then 2 else 1) * 1000000000

instance (t : DateTime) : Decidable t.IsValid := by unfold IsValid; infer_instance

/-- The number of a moment: of two valid moments the earlier one has the smaller number. -/
def rank (t : DateTime) : Int :=
  (((((t.year * 13 + t.month) * 32 + t.day) * 24 + t.hour) * 60 + t.minute) * 60 + t.second)
    * (2 * 1000000000) + t.nanosecond

/-- The second as clocks show it: the leap second is the 60th. -/
def shownSecond (t : DateTime) : Nat := t.second + t.nanosecond / 1000000000

/-- The whole milliseconds of the second. -/
def millisecond (t : DateTime) : Nat := t.nanosecond % 1000000000 / 1000000

/-- The moment without what is smaller than a millisecond. -/
def truncated (t : DateTime) : DateTime :=
  { t with nanosecond := t.nanosecond / 1000000 * 1000000 }

/-! ## Days since the start of 1970 -/

/-- Year, month and day of the day with a number, counted from the first day of 1970. Years begin
in March here, so that a leap day is the last day of its year; 400 years have 146097 days. -/
def civil (days : Int) : Int × Nat × Nat :=
  let shifted := days + 719468
  let era := shifted / 146097
  let dayOfEra := (shifted % 146097).toNat
  let yearOfEra := (dayOfEra - dayOfEra / 1460 + dayOfEra / 36524 - dayOfEra / 146096) / 365
  let dayOfYear := dayOfEra - (365 * yearOfEra + yearOfEra / 4 - yearOfEra / 100)
  let marchMonth := (5 * dayOfYear + 2) / 153
  let day := dayOfYear - (153 * marchMonth + 2) / 5 + 1
  let month := if marchMonth < 10 then marchMonth + 3 else marchMonth - 9
  let year : Int := yearOfEra + era * 400 + (if month ≤ 2 then 1 else 0)
  (year, month, day)

/-- The moment a number of seconds and nanoseconds after the start of 1970. -/
def ofUnix (seconds : Int) (nanoseconds : Nat) : DateTime :=
  let (year, month, day) := civil (seconds / 86400)
  let time := (seconds % 86400).toNat
  ⟨year, month, day, time / 3600, time / 60 % 60, time % 60, nanoseconds⟩

end DateTime

end ClusterBackup
