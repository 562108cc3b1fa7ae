/-
ClusterBackup.Proofs.Snapshot.Order — the names of backups are in the order
of time.

A moment of a year of four digits is written in seventeen digits, so the
bytes of two names compare as the numbers that their digits make
(`encode_lt_iff_value_lt`). That number and the number of the moment have
the same places, year to millisecond, of different widths: both compare
place by place (`compare_place_congr`). The places of second and
millisecond need a word of their own, because the leap second is written
as the 60th and counted as part of the 59th (`compare_time`).

`names_follow_time` reads this off for instants of universal time.
-/
import ClusterBackup.Proofs.Calendar
import ClusterBackup.Proofs.Snapshot.Latest
import ClusterBackup.Proofs.Snapshot.Stamp
import ClusterBackup.Text.Utf8
import Mathlib.Data.List.Perm.Basic
import Mathlib.Tactic.Ring

namespace ClusterBackup.Snapshot

/-! ## Places -/

/-- Numbers of several places are compared place by place. -/
theorem compare_place {n r s : Nat} (a b : Nat) (rn : r < n) (sn : s < n) :
    compare (a * n + r) (b * n + s) = (compare a b).then (compare r s) := by
  rcases lt_trichotomy a b with lower | rfl | higher
  · have next : (a + 1) * n ≤ b * n := Nat.mul_le_mul_right n lower
    rw [Nat.add_mul] at next
    rw [compare_lt_iff_lt.mpr lower, compare_lt_iff_lt.mpr (by omega)]
    rfl
  · rw [compare_eq_iff_eq.mpr rfl, Ordering.then]
    rcases lt_trichotomy r s with lower | rfl | higher
    · rw [compare_lt_iff_lt.mpr lower, compare_lt_iff_lt.mpr (by omega)]
    · rw [compare_eq_iff_eq.mpr rfl, compare_eq_iff_eq.mpr rfl]
    · rw [compare_gt_iff_gt.mpr higher, compare_gt_iff_gt.mpr (by omega)]
  · have next : (b + 1) * n ≤ a * n := Nat.mul_le_mul_right n higher
    rw [Nat.add_mul] at next
    rw [compare_gt_iff_gt.mpr higher, compare_gt_iff_gt.mpr (by omega)]
    rfl

/-- Numbers are in one order if their places are, however wide these are. -/
theorem compare_place_congr {n k a b a' b' r s r' s' : Nat} (high : compare a b = compare a' b')
    (low : compare r s = compare r' s') (rn : r < n) (sn : s < n) (rk : r' < k) (sk : s' < k) :
    compare (a * n + r) (b * n + s) = compare (a' * k + r') (b' * k + s') := by
  rw [compare_place a b rn sn, compare_place a' b' rk sk, high, low]

/-! ## Digits as bytes -/

/-- A digit is written as one byte. -/
theorem encodeChar_of_isDigit {c : Char} (digit : c.isDigit = true) :
    Text.Utf8.encodeChar c = [UInt8.ofNat c.toNat] ∧ 48 ≤ c.toNat ∧ c.toNat ≤ 57 := by
  simp only [Char.isDigit, Bool.and_eq_true, decide_eq_true_eq] at digit
  have least : 48 ≤ c.toNat := UInt32.le_iff_toNat_le.mp digit.1
  have most : c.toNat ≤ 57 := UInt32.le_iff_toNat_le.mp digit.2
  refine ⟨?_, least, most⟩
  rw [Text.Utf8.encodeChar, if_pos (by omega)]

theorem value_append (xs ys : List Char) :
    value (xs ++ ys) = value xs * 10 ^ ys.length + value ys := by
  rw [value_eq_ofDigitChars, value_eq_ofDigitChars, value_eq_ofDigitChars,
    Nat.ofDigitChars_append, Nat.ofDigitChars_eq_ofDigitChars_zero, Nat.mul_comm]

theorem value_cons (c : Char) (cs : List Char) :
    value (c :: cs) = (c.toNat - 48) * 10 ^ cs.length + value cs := by
  have first : value [c] = c.toNat - 48 := by simp [value]
  rw [← List.singleton_append, value_append, first]

theorem value_lt {cs : List Char} (digits : ∀ c ∈ cs, c.isDigit = true) :
    value cs < 10 ^ cs.length := by
  induction cs with
  | nil => decide
  | cons c cs ih =>
    obtain ⟨digit, digits⟩ := List.forall_mem_cons.mp digits
    have few : c.toNat - 48 ≤ 9 := by
      have := (encodeChar_of_isDigit digit).2.2
      omega
    have scaled : (c.toNat - 48) * 10 ^ cs.length ≤ 9 * 10 ^ cs.length :=
      Nat.mul_le_mul_right _ few
    have rest : value cs < 10 ^ cs.length := ih digits
    rw [value_cons, List.length_cons, Nat.pow_succ]
    omega

/-- Equally many digits are, byte by byte, in the order of their values. -/
theorem encode_lt_iff_value_lt {xs ys : List Char} (digits : ∀ c ∈ xs, c.isDigit = true)
    (digits' : ∀ c ∈ ys, c.isDigit = true) (same : xs.length = ys.length) :
    Text.Utf8.encode xs < Text.Utf8.encode ys ↔ value xs < value ys := by
  induction xs generalizing ys with
  | nil =>
    obtain rfl : ys = [] := List.length_eq_zero_iff.mp same.symm
    simp
  | cons x xs ih =>
    cases ys with
    | nil => cases same
    | cons y ys =>
      obtain ⟨digit, digits⟩ := List.forall_mem_cons.mp digits
      obtain ⟨digit', digits'⟩ := List.forall_mem_cons.mp digits'
      have same : xs.length = ys.length := Nat.succ.inj same
      obtain ⟨byte, least, most⟩ := encodeChar_of_isDigit digit
      obtain ⟨byte', least', most'⟩ := encodeChar_of_isDigit digit'
      have bytes : Text.Utf8.encode (x :: xs) = UInt8.ofNat x.toNat :: Text.Utf8.encode xs := by
        rw [Text.Utf8.encode, List.flatMap_cons, byte]
        rfl
      have bytes' : Text.Utf8.encode (y :: ys) = UInt8.ofNat y.toNat :: Text.Utf8.encode ys := by
        rw [Text.Utf8.encode, List.flatMap_cons, byte']
        rfl
      have first : UInt8.ofNat x.toNat < UInt8.ofNat y.toNat ↔ x.toNat - 48 < y.toNat - 48 := by
        rw [UInt8.lt_iff_toNat_lt]
        simp
        omega
      have equal : UInt8.ofNat x.toNat = UInt8.ofNat y.toNat ↔ x.toNat - 48 = y.toNat - 48 := by
        rw [← UInt8.toNat_inj]
        simp
        omega
      have placed := compare_place (x.toNat - 48) (y.toNat - 48) (same ▸ value_lt digits)
        (value_lt digits')
      rw [bytes, bytes', List.cons_lt_cons_iff, ih digits digits' same, first, equal,
        value_cons, value_cons, same, ← compare_lt_iff_lt (a := _ + _), placed,
        Ordering.then_eq_lt, compare_eq_iff_eq, compare_lt_iff_lt, compare_lt_iff_lt]

/-! ## The digits of a moment -/

/-- A year of four digits is written in them. -/
theorem yearText_eq {year : Int} (first : 0 ≤ year) (last : year ≤ 9999) :
    yearText year = padded 4 year.toNat :=
  if_pos ⟨first, last⟩

theorem millisecond_lt (t : DateTime) : t.millisecond < 1000 := by
  unfold DateTime.millisecond
  omega

/-- A moment of a year of four digits is written in seventeen digits. -/
theorem stamp_digits {t : DateTime} (valid : t.IsValid) (first : 0 ≤ t.year)
    (last : t.year ≤ 9999) :
    (stamp t).length = 17 ∧ ∀ c ∈ stamp t, c.isDigit = true := by
  have days : DateTime.daysInMonth t.year t.month ≤ 31 := daysInMonth_le t.year t.month
  obtain ⟨-, -, -, month, -, day, hour, minute, second, nanosecond⟩ := valid
  have shown : t.shownSecond ≤ 60 := (time_of_shown second nanosecond).1
  rw [stamp, yearText_eq first last]
  constructor
  · simp only [List.length_append]
    rw [length_padded (by decide) (by omega : t.year.toNat < 10 ^ 4),
      length_padded (by decide) (by omega : t.month < 10 ^ 2),
      length_padded (by decide) (by omega : t.day < 10 ^ 2),
      length_padded (by decide) (by omega : t.hour < 10 ^ 2),
      length_padded (by decide) (by omega : t.minute < 10 ^ 2),
      length_padded (by decide) (by omega : t.shownSecond < 10 ^ 2),
      length_padded (by decide) (millisecond_lt t)]
  · intro c inside
    simp only [List.mem_append] at inside
    rcases inside with (((((year | month) | day) | hour) | minute) | second) | millisecond
    all_goals exact isDigit_of_mem_padded ‹_›

/-- The digits of a moment of a year of four digits, as one number: the leap second continues the
milliseconds of the second before it. -/
theorem value_stamp {t : DateTime} (valid : t.IsValid) (first : 0 ≤ t.year) (last : t.year ≤ 9999) :
    value (stamp t) = ((((t.year.toNat * 100 + t.month) * 100 + t.day) * 100 + t.hour) * 100
      + t.minute) * 100000 + (t.second * 1000 + t.nanosecond / 1000000) := by
  have days : DateTime.daysInMonth t.year t.month ≤ 31 := daysInMonth_le t.year t.month
  obtain ⟨-, -, -, month, -, day, hour, minute, second, nanosecond⟩ := valid
  have shown : t.shownSecond ≤ 60 := (time_of_shown second nanosecond).1
  have time : t.shownSecond * 1000 + t.millisecond = t.second * 1000 + t.nanosecond / 1000000 := by
    unfold DateTime.shownSecond DateTime.millisecond
    omega
  rw [stamp, yearText_eq first last]
  simp only [value_append, value_padded]
  rw [length_padded (by decide) (by omega : t.month < 10 ^ 2),
    length_padded (by decide) (by omega : t.day < 10 ^ 2),
    length_padded (by decide) (by omega : t.hour < 10 ^ 2),
    length_padded (by decide) (by omega : t.minute < 10 ^ 2),
    length_padded (by decide) (by omega : t.shownSecond < 10 ^ 2),
    length_padded (by decide) (millisecond_lt t), ← time]
  ring

/-- The number of a moment, to the millisecond. -/
theorem rank_truncated {t : DateTime} (first : 0 ≤ t.year) :
    t.truncated.rank = ((((((t.year.toNat * 13 + t.month) * 32 + t.day) * 24 + t.hour) * 60
      + t.minute) * 120000 + (t.second * 2000 + t.nanosecond / 1000000) : Nat) : Int)
      * 1000000 := by
  obtain ⟨year, month, day, hour, minute, second, nanosecond⟩ := t
  obtain ⟨year, rfl⟩ := Int.eq_ofNat_of_zero_le first
  simp only [DateTime.rank, DateTime.truncated, Int.toNat_natCast]
  omega

/-- Second and millisecond are in one order in the digits and in the number of a moment: only the
last second of a minute is longer than a thousand milliseconds. -/
theorem compare_time {t u : DateTime} (valid : t.IsValid) (valid' : u.IsValid) :
    compare (t.second * 1000 + t.nanosecond / 1000000) (u.second * 1000 + u.nanosecond / 1000000) =
      compare (t.second * 2000 + t.nanosecond / 1000000)
        (u.second * 2000 + u.nanosecond / 1000000) := by
  obtain ⟨-, -, -, -, -, -, -, -, second, nanosecond⟩ := valid
  obtain ⟨-, -, -, -, -, -, -, -, second', nanosecond'⟩ := valid'
  have limit : t.nanosecond / 1000000 < 1000 ∨ t.second = 59 ∧ t.nanosecond / 1000000 < 2000 := by
    split at nanosecond <;> omega
  have limit' : u.nanosecond / 1000000 < 1000 ∨ u.second = 59 ∧ u.nanosecond / 1000000 < 2000 := by
    split at nanosecond' <;> omega
  rcases lt_trichotomy t.second u.second with earlier | same | later
  · rw [compare_lt_iff_lt.mpr (by omega : t.second * 1000 + t.nanosecond / 1000000 <
      u.second * 1000 + u.nanosecond / 1000000), compare_lt_iff_lt.mpr (by omega)]
  · rw [same]
    rcases lt_trichotomy (t.nanosecond / 1000000) (u.nanosecond / 1000000)
      with earlier | same | later
    · rw [compare_lt_iff_lt.mpr (Nat.add_lt_add_left earlier _),
        compare_lt_iff_lt.mpr (Nat.add_lt_add_left earlier _)]
    · rw [same, compare_eq_iff_eq.mpr rfl, compare_eq_iff_eq.mpr rfl]
    · rw [compare_gt_iff_gt.mpr (Nat.add_lt_add_left later _),
        compare_gt_iff_gt.mpr (Nat.add_lt_add_left later _)]
  · rw [compare_gt_iff_gt.mpr (by omega : u.second * 1000 + u.nanosecond / 1000000 <
      t.second * 1000 + t.nanosecond / 1000000), compare_gt_iff_gt.mpr (by omega)]

/-- The digits of moments are in the order of the moments, to the millisecond. -/
theorem value_stamp_lt_iff {t u : DateTime} (valid : t.IsValid) (first : 0 ≤ t.year)
    (last : t.year ≤ 9999) (valid' : u.IsValid) (first' : 0 ≤ u.year) (last' : u.year ≤ 9999) :
    value (stamp t) < value (stamp u) ↔ t.truncated.rank < u.truncated.rank := by
  have days : DateTime.daysInMonth t.year t.month ≤ 31 := daysInMonth_le t.year t.month
  have days' : DateTime.daysInMonth u.year u.month ≤ 31 := daysInMonth_le u.year u.month
  have time := compare_time valid valid'
  rw [value_stamp valid first last, value_stamp valid' first' last', rank_truncated first,
    rank_truncated first', Int.mul_lt_mul_right (by decide), Int.ofNat_lt, ← compare_lt_iff_lt,
    ← compare_lt_iff_lt]
  obtain ⟨-, -, -, month, -, day, hour, minute, second, nanosecond⟩ := valid
  obtain ⟨-, -, -, month', -, day', hour', minute', second', nanosecond'⟩ := valid'
  have short : t.nanosecond / 1000000 < 2000 := by split at nanosecond <;> omega
  have short' : u.nanosecond / 1000000 < 2000 := by split at nanosecond' <;> omega
  -- Both numbers have the same places, though not places of the same width.
  have months := compare_place_congr (n := 100) (k := 13)
    (rfl : compare t.year.toNat u.year.toNat = _) (rfl : compare t.month u.month = _)
    (by omega) (by omega) (by omega) (by omega)
  have days := compare_place_congr (n := 100) (k := 32) months (rfl : compare t.day u.day = _)
    (by omega) (by omega) (by omega) (by omega)
  have hours := compare_place_congr (n := 100) (k := 24) days (rfl : compare t.hour u.hour = _)
    (by omega) (by omega) (by omega) (by omega)
  have minutes := compare_place_congr (n := 100) (k := 60) hours
    (rfl : compare t.minute u.minute = _) (by omega) (by omega) (by omega) (by omega)
  rw [compare_place_congr (n := 100000) (k := 120000) minutes time (by omega) (by omega)
    (by omega) (by omega)]

/-! ## Names -/

/-- Behind one start, bytes are in the order of what follows it. -/
theorem append_lt_append_iff (start xs ys : List UInt8) : start ++ xs < start ++ ys ↔ xs < ys := by
  induction start with
  | nil => rfl
  | cons b start ih => simp [ih]

theorem encode_name (t : DateTime) : Text.Utf8.encode (name t).toList =
    Text.Utf8.encode namePrefix.toList ++ Text.Utf8.encode (stamp t) := by
  rw [name, String.toList_append, String.toList_ofList, Text.Utf8.encode, List.flatMap_append]
  rfl

/-- What is smaller than a millisecond is not in the name. -/
theorem name_truncated (t : DateTime) : name t.truncated = name t := by
  have shown : t.truncated.shownSecond = t.shownSecond := by
    simp only [DateTime.truncated, DateTime.shownSecond]
    omega
  have millisecond : t.truncated.millisecond = t.millisecond := by
    simp only [DateTime.truncated, DateTime.millisecond]
    omega
  rw [name, stamp, shown, millisecond]
  rfl

/-- The names of moments are, byte by byte, in the order of the moments, to the millisecond. -/
theorem encode_name_lt_iff {t u : DateTime} (valid : t.IsValid) (first : 0 ≤ t.year)
    (last : t.year ≤ 9999) (valid' : u.IsValid) (first' : 0 ≤ u.year) (last' : u.year ≤ 9999) :
    Text.Utf8.encode (name t).toList < Text.Utf8.encode (name u).toList ↔
      t.truncated.rank < u.truncated.rank := by
  obtain ⟨length, digits⟩ := stamp_digits valid first last
  obtain ⟨length', digits'⟩ := stamp_digits valid' first' last'
  rw [encode_name, encode_name, append_lt_append_iff,
    encode_lt_iff_value_lt digits digits' (length.trans length'.symm),
    value_stamp_lt_iff valid first last valid' first' last']

/-! ## Instants -/

/-- The year of the instant has four digits. -/
def PlainYear (i : Instant) : Prop := 0 ≤ i.dateTime.year ∧ i.dateTime.year ≤ 9999

instance (i : Instant) : Decidable (PlainYear i) := inferInstanceAs (Decidable (_ ∧ _))

theorem PlainYear.isValid {i : Instant} (plain : PlainYear i) : i.dateTime.IsValid := by
  refine Instant.isValid_dateTime ?_ ?_
  · exact Int.le_trans (by decide) plain.1
  · exact Int.le_trans plain.2 (by decide)

/-- The name of an instant tells it, to the millisecond. -/
theorem timestamp?_name_dateTime {i : Instant} (plain : PlainYear i) :
    timestamp? (name i.dateTime) = some i.truncated.dateTime :=
  timestamp?_name plain.isValid plain.1 plain.2

/-- The names of instants are, byte by byte, in the order of time, to the millisecond. -/
theorem encode_name_dateTime_lt_iff {i j : Instant} (plain : PlainYear i) (plain' : PlainYear j) :
    Text.Utf8.encode (name i.dateTime).toList < Text.Utf8.encode (name j.dateTime).toList ↔
      i.truncated < j.truncated := by
  rw [encode_name_lt_iff plain.isValid plain.1 plain.2 plain'.isValid plain'.1 plain'.2]
  exact Instant.rank_dateTime_lt_iff (a := i.truncated) (b := j.truncated)

/-- Only instants of one millisecond have one name. -/
theorem name_dateTime_eq_iff {i j : Instant} (plain : PlainYear i) (plain' : PlainYear j) :
    name i.dateTime = name j.dateTime ↔ i.truncated = j.truncated := by
  constructor
  · intro same
    have moment : i.truncated.dateTime = j.truncated.dateTime := by
      rw [← Option.some_inj, ← timestamp?_name_dateTime plain, same,
        timestamp?_name_dateTime plain']
    refine Instant.eq_of_not_lt ?_ ?_ <;> rw [← Instant.rank_dateTime_lt_iff, moment]
    · exact Int.lt_irrefl _
    · exact Int.lt_irrefl _
  · intro same
    rw [← name_truncated, ← name_truncated j.dateTime, ← Instant.dateTime_truncated, same]
    rfl

/-- Among names of instants and names that tell no moment, the latest is that of the latest
instant. -/
theorem latest?_of_names {instants : List Instant} {others names : List String} {last : Instant}
    (plain : ∀ i ∈ instants, PlainYear i) (silent : ∀ n ∈ others, timestamp? n = none)
    (mixed : names.Perm (instants.map (name ·.dateTime) ++ others)) (inside : last ∈ instants)
    (latest : ∀ i ∈ instants, ¬ last < i) : latest? names = some (name last.dateTime) := by
  have named : ∀ n, n ∈ names ↔ (∃ i ∈ instants, name i.dateTime = n) ∨ n ∈ others := fun n => by
    rw [mixed.mem_iff, List.mem_append, List.mem_map]
  refine latest?_eq_some ((named _).mpr (.inl ⟨last, inside, rfl⟩))
    (timestamp?_name_dateTime (plain last inside)) fun m member other u told => ?_
  rcases (named m).mp member with ⟨i, among, rfl⟩ | foreign
  · rw [timestamp?_name_dateTime (plain i among), Option.some_inj] at told
    subst told
    rw [Instant.rank_dateTime_lt_iff]
    by_contra notBefore
    have notAfter : ¬ last.truncated < i.truncated := fun before =>
      latest i among (Instant.lt_of_truncated_lt before)
    have same : i.truncated = last.truncated := Instant.eq_of_not_lt notBefore notAfter
    exact other ((name_dateTime_eq_iff (plain i among) (plain last inside)).mpr same)
  · rw [silent m foreign] at told
    cases told

/-- **Names of backups are faithful to time.** The name of every instant of a year of four digits,
leap seconds included, tells that instant to the millisecond; names are, byte by byte, in the order
of the instants that they tell; and of the names of several instants among any others that tell no
moment, the latest one is that of the latest instant. -/
theorem names_follow_time :
    (∀ i : Instant, PlainYear i → timestamp? (name i.dateTime) = some i.truncated.dateTime) ∧
    (∀ i j : Instant, PlainYear i → PlainYear j →
      (Text.Utf8.encode (name i.dateTime).toList < Text.Utf8.encode (name j.dateTime).toList ↔
        i.truncated < j.truncated) ∧
      (name i.dateTime = name j.dateTime ↔ i.truncated = j.truncated)) ∧
    ∀ (instants : List Instant) (others names : List String), instants ≠ [] →
      (∀ i ∈ instants, PlainYear i) → (∀ n ∈ others, timestamp? n = none) →
      names.Perm (instants.map (name ·.dateTime) ++ others) →
      ∃ last ∈ instants, (∀ i ∈ instants, ¬ last < i) ∧
        latest? names = some (name last.dateTime) := by
  refine ⟨fun i plain => timestamp?_name_dateTime plain, fun i j plain plain' => ?_,
    fun instants others names nonempty plain silent mixed => ?_⟩
  · exact ⟨encode_name_dateTime_lt_iff plain plain', name_dateTime_eq_iff plain plain'⟩
  · obtain ⟨last, inside, latest⟩ := Instant.exists_latest nonempty
    exact ⟨last, inside, latest, latest?_of_names plain silent mixed inside latest⟩

/-- Half a second into the leap second at the end of 2016. -/
def leapSecond : Instant := ⟨1483228799, 1500000000, by decide⟩

/-- The start of 2017. -/
def newYear : Instant := ⟨1483228800, 0, by decide⟩

/-- The leap second is named by its own digits and comes before the new year. -/
theorem names_follow_time_leap :
    timestamp? "snapshot.20161231235960500" = some leapSecond.dateTime ∧
      Text.Utf8.encode "snapshot.20161231235960500".toList <
        Text.Utf8.encode "snapshot.20170101000000000".toList ∧
      latest? ["snapshot.20170101000000000", "nightly", "snapshot.20161231235960500"] =
        some "snapshot.20170101000000000" := by
  obtain ⟨told, order, latest⟩ := names_follow_time
  have leapName : name leapSecond.dateTime = "snapshot.20161231235960500" := by decide +kernel
  have newName : name newYear.dateTime = "snapshot.20170101000000000" := by decide +kernel
  have plain : PlainYear leapSecond := by decide +kernel
  have plain' : PlainYear newYear := by decide +kernel
  refine ⟨?_, ?_, ?_⟩
  · rw [← leapName, told leapSecond plain]
    decide +kernel
  · rw [← leapName, ← newName, (order leapSecond newYear plain plain').1]
    decide
  · obtain ⟨last, inside, after, found⟩ := latest [leapSecond, newYear] ["nightly"]
      ["snapshot.20170101000000000", "nightly", "snapshot.20161231235960500"] (by decide)
      (by simp [plain, plain']) (by decide +kernel) (by
        rw [List.map_cons, List.map_cons, List.map_nil, leapName, newName]
        decide)
    rw [found]
    rcases List.mem_pair.mp inside with rfl | rfl
    · exact absurd (by decide) (after newYear (by simp))
    · rw [newName]

end ClusterBackup.Snapshot
