/-
ClusterBackup.Proofs.Calendar — the days and seconds since 1970 are dates
and times, in order.

The calendar is counted in years that begin in March, so that only the
length of the last month depends on the year (`yearStart_succ`). A day is
found in its year by taking out the days that leap years add: 365 of the
others make a year, at both ends of each of the 400 years that repeat
(`plainDays_yearStart`), and so in between. From then on nothing divides
days any more: every day is the day of a year (`civil_eq`), the next day is
the next of the same year or the first of the next one, and so later days
come later in the calendar.

`Instant` is a moment as clocks count it. `isValid_dateTime` and
`rank_dateTime_lt_iff` carry validity and order over to the calendar.
-/
import ClusterBackup.Calendar
import Mathlib.Order.Monotone.Basic
import Mathlib.Tactic.IntervalCases
import Mathlib.Tactic.ByContra

namespace ClusterBackup.DateTime

/-! ## Years that begin in March -/

/-- The days from the first of March of the year zero to the first of March of a year. -/
def yearStart (year : Int) : Int := 365 * year + (year / 4 - year / 100 + year / 400)

/-- Year, month and day of a day of a year that begins in March. -/
def dateIn (year : Int) (day : Nat) : Int × Nat × Nat :=
  let marchMonth := (5 * day + 2) / 153
  let month := if marchMonth < 10 then marchMonth + 3 else marchMonth - 9
  (year + (if month ≤ 2 then 1 else 0), month, day - (153 * marchMonth + 2) / 5 + 1)

/-- The date of a day whose month, counted from March, is known. -/
theorem dateIn_eq {year : Int} {day m : Nat} (month : (5 * day + 2) / 153 = m) :
    dateIn year day = (year + (if (if m < 10 then m + 3 else m - 9) ≤ 2 then 1 else 0),
      if m < 10 then m + 3 else m - 9, day - (153 * m + 2) / 5 + 1) := by
  subst month
  rfl

theorem yearStart_succ (year : Int) :
    yearStart (year + 1) = yearStart year + (if isLeapYear (year + 1) then 366 else 365) := by
  unfold yearStart isLeapYear
  simp only [Bool.and_eq_true, Bool.or_eq_true, beq_iff_eq, bne_iff_ne]
  split <;> omega

/-! ## The year of a day -/

/-- The days of an era without those that leap years add. -/
def plainDays (day : Nat) : Nat := day - day / 1460 + day / 36524 - day / 146096

/-- The first day of a year of an era. -/
def eraYearStart (year : Nat) : Nat := 365 * year + year / 4 - year / 100 + year / 400

theorem plainDays_mono : Monotone plainDays := by
  refine monotone_nat_of_le_succ fun day => ?_
  unfold plainDays
  omega

/-- At both ends of each year of an era, 365 plain days make a year. -/
theorem plainDays_yearStart : ∀ year < 400, 365 * year ≤ plainDays (eraYearStart year) ∧
    plainDays (eraYearStart (year + 1) - 1) < 365 * (year + 1) := by
  decide +kernel

/-- A day of an era lies in the year that its plain days make. -/
theorem year_of_plainDays {day : Nat} (era : day < 146097) :
    plainDays day / 365 < 400 ∧ eraYearStart (plainDays day / 365) ≤ day ∧
      day < eraYearStart (plainDays day / 365 + 1) := by
  have last : plainDays day ≤ plainDays 146096 := plainDays_mono (by omega)
  have few : plainDays day / 365 < 400 := by
    have : plainDays 146096 = 145999 := rfl
    omega
  refine ⟨few, ?_, ?_⟩
  · by_contra before
    cases year : plainDays day / 365 with
    | zero =>
      rw [year] at before
      exact before (Nat.zero_le _)
    | succ y =>
      rw [year] at before few
      have early : plainDays day ≤ plainDays (eraYearStart (y + 1) - 1) :=
        plainDays_mono (by omega)
      have least := (plainDays_yearStart y (by omega)).2
      omega
  · by_contra after
    by_cases next : plainDays day / 365 + 1 < 400
    · have late : plainDays (eraYearStart (plainDays day / 365 + 1)) ≤ plainDays day :=
        plainDays_mono (by omega)
      have most := (plainDays_yearStart _ next).1
      omega
    · have endOfEra : plainDays day / 365 + 1 = 400 := by omega
      rw [endOfEra] at after
      exact after era

/-- The years of an era begin as those of the first era do. -/
theorem yearStart_add_eras (year : Nat) (era : Int) :
    yearStart (year + era * 400) = eraYearStart year + era * 146097 := by
  unfold yearStart eraYearStart
  omega

/-- Every day is a day of a year that begins in March. -/
theorem civil_eq (days : Int) : ∃ (year : Int) (day : Nat), days + 719468 = yearStart year + day ∧
    yearStart year + day < yearStart (year + 1) ∧ civil days = dateIn year day := by
  have ofEra : days + 719468 =
      (days + 719468) / 146097 * 146097 + ((days + 719468) % 146097).toNat := by omega
  have inEra : ((days + 719468) % 146097).toNat < 146097 := by omega
  obtain ⟨few, first, last⟩ := year_of_plainDays inEra
  -- The year within the era ends before the era does, so no year of 400 counts in it.
  have start : 365 * (plainDays ((days + 719468) % 146097).toNat / 365)
      + plainDays ((days + 719468) % 146097).toNat / 365 / 4
      - plainDays ((days + 719468) % 146097).toNat / 365 / 100
      = eraYearStart (plainDays ((days + 719468) % 146097).toNat / 365) := by
    unfold eraYearStart
    omega
  have found : civil days = dateIn
      ((plainDays ((days + 719468) % 146097).toNat / 365 : Nat) + (days + 719468) / 146097 * 400)
      (((days + 719468) % 146097).toNat -
        eraYearStart (plainDays ((days + 719468) % 146097).toNat / 365)) := by
    rw [← start]
    rfl
  generalize plainDays ((days + 719468) % 146097).toNat / 365 = year at *
  generalize ((days + 719468) % 146097).toNat = day at *
  generalize (days + 719468) / 146097 = era at *
  have begun : yearStart (year + era * 400) = eraYearStart year + era * 146097 :=
    yearStart_add_eras year era
  have next : yearStart (year + era * 400 + 1) = eraYearStart (year + 1) + era * 146097 := by
    rw [← yearStart_add_eras]
    congr 1
    omega
  refine ⟨year + era * 400, day - eraYearStart year, ?_, ?_, found⟩
  · omega
  · omega

/-! ## Days in order -/

/-- The number of a date: of two dates the earlier one has the smaller number. -/
def dateRank (date : Int × Nat × Nat) : Int := (date.1 * 13 + date.2.1) * 32 + date.2.2

/-- A year that begins in March has 365 days, and one more if it ends in a leap year. -/
theorem day_of_year {year : Int} {day : Nat} (inYear : yearStart year + day < yearStart (year + 1)) :
    day ≤ 365 ∧ (day = 365 → isLeapYear (year + 1) = true) := by
  rw [yearStart_succ] at inYear
  split at inYear
  · next leap => exact ⟨by omega, fun _ => leap⟩
  · exact ⟨by omega, fun last => by omega⟩

/-- The next day of a year comes later in the calendar. -/
theorem dateRank_dateIn_succ (year : Int) {day : Nat} (inYear : day + 1 ≤ 365) :
    dateRank (dateIn year day) < dateRank (dateIn year (day + 1)) := by
  obtain ⟨m, month⟩ : ∃ m, (5 * day + 2) / 153 = m := ⟨_, rfl⟩
  have sameOrNext : (5 * (day + 1) + 2) / 153 = m ∨ (5 * (day + 1) + 2) / 153 = m + 1 := by omega
  rcases sameOrNext with same | next
  · rw [dateIn_eq month, dateIn_eq same]
    simp only [dateRank]
    omega
  · rw [dateIn_eq month, dateIn_eq next]
    simp only [dateRank]
    split <;> split <;> split <;> split <;> omega

/-- The first day of the next year comes later in the calendar than the last one of a year. -/
theorem dateRank_dateIn_next (year : Int) {day : Nat} (last : day = 364 ∨ day = 365) :
    dateRank (dateIn year day) < dateRank (dateIn (year + 1) 0) := by
  have february : dateIn year day = (year + 1, 2, day - 337 + 1) := dateIn_eq (by omega : _ = 11)
  have march : dateIn (year + 1) 0 = (year + 1 + 0, 3, 1) := rfl
  rw [february, march]
  simp only [dateRank]
  omega

/-- Later years begin later. -/
theorem yearStart_lt_yearStart {a b : Int} (before : a < b) : yearStart a < yearStart b := by
  refine strictMono_int_of_lt_succ (fun year => ?_) before
  rw [yearStart_succ]
  split <;> omega

theorem yearStart_le_yearStart {a b : Int} (notAfter : a ≤ b) : yearStart a ≤ yearStart b := by
  rcases notAfter.lt_or_eq with before | rfl
  · exact (yearStart_lt_yearStart before).le
  · exact Int.le_refl _

/-- The next day comes later in the calendar: it is the next day of the same year or the first one of
the next year. -/
theorem dateRank_civil_succ (days : Int) :
    dateRank (civil days) < dateRank (civil (days + 1)) := by
  obtain ⟨year, day, counted, inYear, date⟩ := civil_eq days
  obtain ⟨year', day', counted', inYear', date'⟩ := civil_eq (days + 1)
  rw [date, date']
  rcases lt_trichotomy year year' with next | rfl | earlier
  · have ends : yearStart (year + 1) ≤ yearStart year' := yearStart_le_yearStart next
    obtain rfl : year' = year + 1 := by
      by_contra other
      have skipped : yearStart (year + 1) < yearStart year' := yearStart_lt_yearStart (by omega)
      omega
    obtain rfl : day' = 0 := by omega
    have length := yearStart_succ year
    refine dateRank_dateIn_next year ?_
    split at length <;> omega
  · obtain rfl : day' = day + 1 := by omega
    exact dateRank_dateIn_succ year (day_of_year inYear').1
  · have ended : yearStart (year' + 1) ≤ yearStart year := yearStart_le_yearStart earlier
    omega

/-- Dates are in the order of the days. -/
theorem dateRank_civil_lt_iff {d e : Int} : dateRank (civil d) < dateRank (civil e) ↔ d < e :=
  (strictMono_int_of_lt_succ dateRank_civil_succ).lt_iff_lt

/-! ## Moments -/

/-- A day of a year that begins in March is a day of the calendar. -/
theorem dateIn_valid {year : Int} {day : Nat} (inYear : yearStart year + day < yearStart (year + 1)) :
    1 ≤ (dateIn year day).2.1 ∧ (dateIn year day).2.1 ≤ 12 ∧ 1 ≤ (dateIn year day).2.2 ∧
      (dateIn year day).2.2 ≤ daysInMonth (dateIn year day).1 (dateIn year day).2.1 := by
  obtain ⟨short, leap⟩ := day_of_year inYear
  obtain ⟨m, month⟩ : ∃ m, (5 * day + 2) / 153 = m := ⟨_, rfl⟩
  rw [dateIn_eq month]
  rcases (by omega : m = 11 ∨ m ≤ 10) with rfl | other
  · -- February, the only month that depends on the year.
    have days : day - 337 + 1 ≤ if isLeapYear (year + 1) = true then 29 else 28 := by
      split
      · omega
      · next plain =>
        have : day ≠ 365 := fun last => plain (leap last)
        omega
    simpa [daysInMonth] using days
  · interval_cases m <;> simp [daysInMonth] <;> omega

/-- The moment a number of seconds after the start of 1970 is one of the calendar. -/
theorem isValid_ofUnix {seconds : Int} {nanoseconds : Nat}
    (first : firstYear ≤ (ofUnix seconds nanoseconds).year)
    (last : (ofUnix seconds nanoseconds).year ≤ lastYear)
    (short : nanoseconds < (if seconds % 60 = 59 then 2 else 1) * 1000000000) :
    (ofUnix seconds nanoseconds).IsValid := by
  obtain ⟨year, day, -, inYear, date⟩ := civil_eq (seconds / 86400)
  obtain ⟨month, month', day, day'⟩ := dateIn_valid inYear
  rw [← date] at month month' day day'
  refine ⟨first, last, month, month', day, day', ?_, ?_, ?_, ?_⟩
  · simp only [ofUnix]
    omega
  · simp only [ofUnix]
    omega
  · simp only [ofUnix]
    omega
  · have sameSecond : (seconds % 86400).toNat % 60 = 59 ↔ seconds % 60 = 59 := by omega
    simpa only [ofUnix, sameSecond] using short

theorem rank_ofUnix (seconds : Int) (nanoseconds : Nat) :
    (ofUnix seconds nanoseconds).rank =
      (dateRank (civil (seconds / 86400)) * 86400 + seconds % 86400) * 2000000000
        + nanoseconds := by
  rcases date : civil (seconds / 86400) with ⟨year, month, day⟩
  simp only [ofUnix, date, rank, dateRank]
  omega

/-- Moments are in the order of the seconds and nanoseconds after the start of 1970. -/
theorem rank_ofUnix_lt_iff {s s' : Int} {n n' : Nat} (short : n < 2000000000)
    (short' : n' < 2000000000) :
    (ofUnix s n).rank < (ofUnix s' n').rank ↔ s < s' ∨ s = s' ∧ n < n' := by
  have before := dateRank_civil_lt_iff (d := s / 86400) (e := s' / 86400)
  have after := dateRank_civil_lt_iff (d := s' / 86400) (e := s / 86400)
  rw [rank_ofUnix, rank_ofUnix]
  generalize dateRank (civil (s / 86400)) = date at *
  generalize dateRank (civil (s' / 86400)) = date' at *
  omega

end ClusterBackup.DateTime

namespace ClusterBackup

/-! ## Instants -/

/-- An instant of universal time: seconds since the start of 1970, and nanoseconds of the second.
Only the last second of a minute may be longer, by a leap second. -/
@[ext]
structure Instant where
  seconds : Int
  nanosecond : Nat
  short : nanosecond < (if seconds % 60 = 59 then 2 else 1) * 1000000000
deriving DecidableEq, Repr

namespace Instant

/-- One instant is before another if its second is, or the seconds are one and its nanoseconds are
fewer. -/
instance : LT Instant where
  lt a b := a.seconds < b.seconds ∨ a.seconds = b.seconds ∧ a.nanosecond < b.nanosecond

instance (a b : Instant) : Decidable (a < b) :=
  inferInstanceAs (Decidable (_ ∨ _))

theorem lt_iff {a b : Instant} :
    a < b ↔ a.seconds < b.seconds ∨ a.seconds = b.seconds ∧ a.nanosecond < b.nanosecond := Iff.rfl

/-- The instant without what is smaller than a millisecond. -/
def truncated (i : Instant) : Instant :=
  ⟨i.seconds, i.nanosecond / 1000000 * 1000000, by have := i.short; omega⟩

/-- Date and time of the instant. -/
def dateTime (i : Instant) : DateTime := DateTime.ofUnix i.seconds i.nanosecond

@[simp] theorem dateTime_truncated (i : Instant) :
    i.truncated.dateTime = i.dateTime.truncated := rfl

theorem nanosecond_lt (i : Instant) : i.nanosecond < 2000000000 := by
  have short := i.short
  split at short <;> omega

theorem lt_trans {a b c : Instant} (first : a < b) (second : b < c) : a < c := by
  rw [lt_iff] at *
  omega

theorem eq_of_not_lt {a b : Instant} (notBefore : ¬ a < b) (notAfter : ¬ b < a) : a = b := by
  rw [lt_iff] at notBefore notAfter
  exact Instant.ext (by omega) (by omega)

/-- What is smaller than a millisecond makes no instant earlier than another. -/
theorem lt_of_truncated_lt {a b : Instant} (before : a.truncated < b.truncated) : a < b := by
  rw [lt_iff] at *
  simp only [truncated] at before
  omega

/-- An instant of a year that dates are kept for is one of the calendar. -/
theorem isValid_dateTime {i : Instant} (first : DateTime.firstYear ≤ i.dateTime.year)
    (last : i.dateTime.year ≤ DateTime.lastYear) : i.dateTime.IsValid :=
  DateTime.isValid_ofUnix first last i.short

/-- The calendar is in the order of time. -/
theorem rank_dateTime_lt_iff {a b : Instant} : a.dateTime.rank < b.dateTime.rank ↔ a < b :=
  DateTime.rank_ofUnix_lt_iff a.nanosecond_lt b.nanosecond_lt

/-- Of several instants one is the latest. -/
theorem exists_latest {instants : List Instant} (nonempty : instants ≠ []) :
    ∃ last ∈ instants, ∀ i ∈ instants, ¬ last < i := by
  induction instants with
  | nil => exact absurd rfl nonempty
  | cons i rest ih =>
    by_cases alone : rest = []
    · subst alone
      refine ⟨i, List.mem_singleton_self i, fun j same => ?_⟩
      rw [List.mem_singleton.mp same, lt_iff]
      omega
    · obtain ⟨last, inside, latest⟩ := ih alone
      by_cases later : last < i
      · refine ⟨i, List.mem_cons_self, fun j among => ?_⟩
        rcases List.mem_cons.mp among with rfl | among
        · rw [lt_iff]
          omega
        · exact fun before => latest j among (lt_trans later before)
      · refine ⟨last, List.mem_cons_of_mem i inside, fun j among => ?_⟩
        rcases List.mem_cons.mp among with rfl | among
        · exact later
        · exact latest j among

end Instant

end ClusterBackup
