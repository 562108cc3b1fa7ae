/-
ClusterBackup.Proofs.Snapshot.Stamp — the name of a backup tells when it
was taken.

Reading is lenient about white space, signs and missing digits, but the
digits that a name is written with leave it no choice: each number is as
wide as its field, so it ends where the next one starts. `timestamp?_name`
puts the fields together. What a name cannot tell is what is smaller than
a millisecond.
-/
import ClusterBackup.Proofs.Snapshot.Digits
import ClusterBackup.Proofs.Text.Blank
import Mathlib.Algebra.Group.Nat.Defs

namespace ClusterBackup.Snapshot

/-! ## Numbers -/

/-- A padded number starts with a digit. -/
theorem padded_eq_cons (width n : Nat) :
    ∃ d ds, padded width n = d :: ds ∧ d.isDigit = true := by
  cases digits : padded width n with
  | nil => simp [padded, Nat.toList_repr] at digits
  | cons d ds =>
    have first : d ∈ padded width n := digits ▸ List.mem_cons_self
    exact ⟨d, ds, rfl, isDigit_of_mem_padded first⟩

/-- A number that fits its width is padded to it. -/
theorem length_padded {width n : Nat} (wide : 0 < width) (fits : n < 10 ^ width) :
    (padded width n).length = width := by
  have digits : (toString n).toList = Nat.toDigits 10 n := by
    simp [Nat.toList_repr]
  have short : (Nat.toDigits 10 n).length ≤ width :=
    (Nat.length_toDigits_le_iff (by decide) wide).mpr fits
  rw [padded, digits, List.length_append, List.length_replicate]
  omega

/-- A number that fits its width is read back, whatever follows it. -/
theorem number?_padded {width n : Nat} (wide : 0 < width) (fits : n < 10 ^ width)
    (rest : List Char) : number? (some width) (padded width n ++ rest) = some (n, rest) := by
  have length : (padded width n).length = width := length_padded wide fits
  have digits : ((padded width n ++ rest).take width).takeWhile Char.isDigit = padded width n := by
    rw [List.take_left' length, List.takeWhile_eq_self_iff]
    exact fun _ inside => isDigit_of_mem_padded inside
  have written : (padded width n).isEmpty = false := by
    obtain ⟨d, ds, starts, -⟩ := padded_eq_cons width n
    rw [starts]
    rfl
  simp only [number?, digits, written, value_padded, length, List.drop_left' length]
  rfl

/-- There is no white space to skip before a number. -/
theorem dropSpace_padded (width n : Nat) (rest : List Char) :
    Text.dropSpace (padded width n ++ rest) = padded width n ++ rest := by
  obtain ⟨d, ds, starts, digit⟩ := padded_eq_cons width n
  refine Text.dropSpace_eq_self fun c first => ?_
  obtain rfl : d = c := by simpa [starts] using first
  exact Text.isSpace_of_isDigit digit

/-! ## Fields -/

/-- A number of two digits within its bounds is read back. -/
theorem field?_padded {low high n : Nat} (least : low ≤ n) (most : n ≤ high) (fits : n < 100)
    (rest : List Char) : field? low high (padded 2 n ++ rest) = some (n, rest) := by
  rw [field?, dropSpace_padded, number?_padded (by decide) fits]
  simp [least, most]

/-- A year of four digits is read back. -/
theorem year?_yearText {year : Int} (first : 0 ≤ year) (last : year ≤ 9999) (rest : List Char) :
    year? (yearText year ++ rest) = some (year, rest) := by
  obtain ⟨n, rfl⟩ := Int.eq_ofNat_of_zero_le first
  have fits : n < 10 ^ 4 := by omega
  have kept : DateTime.firstYear ≤ n ∧ (n : Int) ≤ DateTime.lastYear := by
    simp only [DateTime.firstYear, DateTime.lastYear]
    omega
  obtain ⟨d, ds, starts, digit⟩ := padded_eq_cons 4 n
  have read : number? (some 4) (d :: (ds ++ rest)) = some (n, rest) := by
    rw [← List.cons_append, ← starts]
    exact number?_padded (by decide) fits rest
  rw [yearText, if_pos ⟨first, last⟩, Int.toNat_natCast, year?, dropSpace_padded, starts,
    List.cons_append]
  -- A digit is no sign, so the year is read as four digits.
  split
  · next sign => cases sign; cases digit
  · next sign => cases sign; cases digit
  · simp [read, kept]

/-- Three digits are a millisecond. -/
theorem millisecond?_padded {n : Nat} (fits : n < 1000) : millisecond? (padded 3 n) = some n := by
  have length : (padded 3 n).length = 3 := length_padded (by decide) fits
  have digits : (padded 3 n).all Char.isDigit = true :=
    List.all_eq_true.mpr fun _ inside => isDigit_of_mem_padded inside
  rw [millisecond?, if_pos ⟨length, digits⟩, value_padded]

/-! ## Moments -/

theorem daysInMonth_le (year : Int) (month : Nat) : DateTime.daysInMonth year month ≤ 31 := by
  unfold DateTime.daysInMonth
  split
  · split <;> decide
  · split <;> decide

/-- The second as clocks show it and the millisecond tell second and nanosecond apart again. -/
theorem time_of_shown {t : DateTime} (second : t.second < 60)
    (nanosecond : t.nanosecond < (if t.second = 59 then 2 else 1) * 1000000000) :
    t.shownSecond ≤ 60 ∧ t.shownSecond - (if t.shownSecond = 60 then 1 else 0) = t.second ∧
      (if t.shownSecond = 60 then 1 else 0) * 1000000000 + t.millisecond * 1000000 =
        t.nanosecond / 1000000 * 1000000 := by
  unfold DateTime.shownSecond DateTime.millisecond
  by_cases leap : t.nanosecond < 1000000000
  · have plain : t.nanosecond / 1000000000 = 0 := Nat.div_eq_of_lt leap
    rw [plain, Nat.add_zero, if_neg (by omega)]
    omega
  · -- Only the 59th second may be longer, and it is then shown as the 60th.
    have last : t.second = 59 := by
      by_contra other
      rw [if_neg other] at nanosecond
      omega
    rw [if_pos last] at nanosecond
    have long : t.nanosecond / 1000000000 = 1 := by omega
    rw [last, long, if_pos rfl]
    omega

/-- The digits of a moment are read back, to the millisecond. -/
theorem readStamp?_stamp {t : DateTime} (valid : t.IsValid) (first : 0 ≤ t.year)
    (last : t.year ≤ 9999) : readStamp? (stamp t) = some t.truncated := by
  obtain ⟨-, -, month, month', day, day', hour, minute, second, nanosecond⟩ := valid
  obtain ⟨shown, second', nanosecond'⟩ := time_of_shown second nanosecond
  have days : DateTime.daysInMonth t.year t.month ≤ 31 := daysInMonth_le t.year t.month
  have millisecond : t.millisecond < 1000 := by
    unfold DateTime.millisecond
    omega
  rw [readStamp?, stamp]
  simp only [List.append_assoc, year?_yearText first last, Option.bind_eq_bind, Option.bind_some,
    field?_padded month month' (by omega), field?_padded day (by omega : t.day ≤ 31) (by omega),
    field?_padded (Nat.zero_le t.hour) (by omega : t.hour ≤ 23) (by omega),
    field?_padded (Nat.zero_le t.minute) (by omega : t.minute ≤ 59) (by omega),
    field?_padded (Nat.zero_le t.shownSecond) shown (by omega), millisecond?_padded millisecond,
    if_pos day', second', nanosecond']
  rfl

theorem afterPrefix?_append (start rest : List Char) :
    afterPrefix? start (start ++ rest) = some rest := by
  induction start with
  | nil => rfl
  | cons c start ih => simpa [afterPrefix?] using ih

/-- **The name of a backup tells when it was taken**, to the millisecond. -/
theorem timestamp?_name {t : DateTime} (valid : t.IsValid) (first : 0 ≤ t.year)
    (last : t.year ≤ 9999) : timestamp? (name t) = some t.truncated := by
  rw [timestamp?, name, String.toList_append, String.toList_ofList, afterPrefix?_append]
  exact readStamp?_stamp valid first last

end ClusterBackup.Snapshot
