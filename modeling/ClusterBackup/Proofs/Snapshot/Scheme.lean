/-
ClusterBackup.Proofs.Snapshot.Scheme — the names of the scheme among all
that tell a moment.

A name of the scheme is seventeen digits behind the start that all names
share, and these are a day of the calendar and a time of day. By
`inScheme_iff` they are the legible spellings without white space and
without a sign, so every one of them tells a moment, and no two of them the
same. Other spellings of a moment are read as well: a name of the scheme
may tie with them, and then the latest of several depends on their order
(`latest?_perm_iff` says when it does not).
-/
import ClusterBackup.Proofs.Snapshot.Order
import ClusterBackup.Proofs.Snapshot.Spelling

namespace ClusterBackup.Snapshot

/-! ## The scheme -/

/-- As many digits as a place is wide, and nothing else. -/
def Digits (width : Nat) (cs : List Char) : Prop :=
  cs.length = width ∧ ∀ c ∈ cs, c.isDigit = true

instance (width : Nat) (cs : List Char) : Decidable (Digits width cs) :=
  @instDecidableAnd _ _ _ (List.decidableBAll (fun c => c.isDigit = true) cs)

/-- The names of the scheme: four digits of a year, two each of a month, a day, an hour, a minute
and a second, and three of a millisecond, with a day of the calendar and a time of day in them. -/
def InScheme (name : String) : Prop :=
  ∃ year month day hour minute second millisecond : List Char,
    name.toList = namePrefix.toList ++
      (year ++ (month ++ (day ++ (hour ++ (minute ++ (second ++ millisecond)))))) ∧
    Digits 4 year ∧ Digits 2 month ∧ Digits 2 day ∧ Digits 2 hour ∧ Digits 2 minute ∧
    Digits 2 second ∧ Digits 3 millisecond ∧
    (1 ≤ value month ∧ value month ≤ 12) ∧
    (1 ≤ value day ∧ value day ≤ DateTime.daysInMonth (value year) (value month)) ∧
    value hour ≤ 23 ∧ value minute ≤ 59 ∧ value second ≤ 60

/-- A spelling with neither a sign nor white space. -/
structure Spelling.Plain (s : Spelling) : Prop where
  sign : s.sign = .none
  year : s.year.gap = []
  month : s.month.gap = []
  day : s.day.gap = []
  hour : s.hour.gap = []
  minute : s.minute.gap = []
  second : s.second.gap = []

/-- Digits that fill their place fit whatever follows. -/
theorem Digits.fits {width : Nat} {cs : List Char} (digits : Digits width cs) (wide : 0 < width)
    (after : List Char) : Numeral.Fits ⟨[], cs⟩ (some width) after where
  gap := gap_nil
  nonempty := by
    rintro rfl
    exact absurd digits.1 (Nat.ne_of_lt wide)
  pure := digits.2
  short w same := by
    cases same
    exact Nat.le_of_eq digits.1
  ends := .inl (congrArg some digits.1.symm)

/-- Without white space behind it, a number has to fill its place. -/
theorem Numeral.Fits.isDigits {m : Numeral} {width : Nat} {after : List Char}
    (fits : m.Fits (some width) after) (none : after = []) : Digits width m.digits := by
  refine ⟨?_, fits.pure⟩
  rcases fits.ends with full | separated
  · exact (Option.some.inj full).symm
  · exact absurd none separated

theorem Numeral.text_of_gap {m : Numeral} (none : m.gap = []) : m.text = m.digits := by
  rw [text, none, List.nil_append]

/-- The numbers of a plain spelling fill their places. -/
theorem Spelling.Plain.digits {s : Spelling} (plain : s.Plain) (legible : s.Legible) :
    Digits 4 s.year.digits ∧ Digits 2 s.month.digits ∧ Digits 2 s.day.digits ∧
      Digits 2 s.hour.digits ∧ Digits 2 s.minute.digits ∧ Digits 2 s.second.digits := by
  have years : s.year.Fits (some 4) s.month.gap := by
    have fits := legible.year
    rwa [plain.sign] at fits
  exact ⟨years.isDigits plain.month, legible.month.isDigits plain.day,
    legible.day.isDigits plain.hour, legible.hour.isDigits plain.minute,
    legible.minute.isDigits plain.second, legible.second.isDigits rfl⟩

theorem Spelling.Plain.yearNumber_eq {s : Spelling} (plain : s.Plain) :
    s.yearNumber = (s.year.value : Int) := by
  rw [Spelling.yearNumber, plain.sign]
  rfl

/-- **The names of the scheme are the plain ones among the legible spellings.** -/
theorem inScheme_iff {name : String} :
    InScheme name ↔ ∃ s : Spelling, s.Legible ∧ s.Plain ∧ name = s.name := by
  simp only [eq_name_iff]
  constructor
  · rintro ⟨year, month, day, hour, minute, second, millisecond, whole, years, months, days, hours,
      minutes, seconds, milliseconds, monthRange, dayRange, hourRange, minuteRange, secondRange⟩
    have few : value year < 10 ^ 4 := years.1 ▸ value_lt years.2
    refine ⟨⟨.none, ⟨[], year⟩, ⟨[], month⟩, ⟨[], day⟩, ⟨[], hour⟩, ⟨[], minute⟩, ⟨[], second⟩,
      millisecond⟩, ?_, ⟨rfl, rfl, rfl, rfl, rfl, rfl, rfl⟩, whole⟩
    exact {
      year := years.fits (by decide) _
      month := months.fits (by decide) _
      day := days.fits (by decide) _
      hour := hours.fits (by decide) _
      minute := minutes.fits (by decide) _
      second := seconds.fits (by decide) _
      millisecond := milliseconds
      yearRange := by
        change DateTime.firstYear ≤ (value year : Int) ∧ (value year : Int) ≤ DateTime.lastYear
        unfold DateTime.firstYear DateTime.lastYear
        omega
      monthRange := monthRange
      dayRange := dayRange
      hourRange := hourRange
      minuteRange := minuteRange
      secondRange := secondRange }
  · rintro ⟨s, legible, plain, whole⟩
    obtain ⟨years, months, days, hours, minutes, seconds⟩ := plain.digits legible
    refine ⟨s.year.digits, s.month.digits, s.day.digits, s.hour.digits, s.minute.digits,
      s.second.digits, s.millisecond, ?_, years, months, days, hours, minutes, seconds,
      legible.millisecond, legible.monthRange, plain.yearNumber_eq ▸ legible.dayRange,
      legible.hourRange, legible.minuteRange, legible.secondRange⟩
    rw [whole, Spelling.text, plain.sign, plain.year, Numeral.text_of_gap plain.month,
      Numeral.text_of_gap plain.day, Numeral.text_of_gap plain.hour,
      Numeral.text_of_gap plain.minute, Numeral.text_of_gap plain.second]
    rfl

/-! ## Moments of the scheme -/

/-- Equally many digits are told apart by their values. -/
theorem Digits.value_injective {width : Nat} {xs ys : List Char} (digits : Digits width xs)
    (digits' : Digits width ys) (same : value xs = value ys) : xs = ys := by
  induction width generalizing xs ys with
  | zero =>
    rw [List.length_eq_zero_iff.mp digits.1, List.length_eq_zero_iff.mp digits'.1]
  | succ width ih =>
    obtain ⟨x, xs, rfl⟩ := List.exists_cons_of_length_eq_add_one digits.1
    obtain ⟨y, ys, rfl⟩ := List.exists_cons_of_length_eq_add_one digits'.1
    obtain ⟨digit, pure⟩ := List.forall_mem_cons.mp digits.2
    obtain ⟨digit', pure'⟩ := List.forall_mem_cons.mp digits'.2
    have long : xs.length = width := Nat.succ.inj digits.1
    have long' : ys.length = width := Nat.succ.inj digits'.1
    have small : value xs < 10 ^ width := long ▸ value_lt pure
    have small' : value ys < 10 ^ width := long' ▸ value_lt pure'
    rw [value_cons, value_cons, long, long', ← compare_eq_iff_eq, compare_place _ _ small small',
      Ordering.then_eq_eq, compare_eq_iff_eq, compare_eq_iff_eq] at same
    obtain ⟨-, least, -⟩ := encodeChar_of_isDigit digit
    obtain ⟨-, least', -⟩ := encodeChar_of_isDigit digit'
    have first : x = y := Char.toNat_inj.mp (by omega)
    rw [first, ih ⟨long, pure⟩ ⟨long', pure'⟩ same.2]

theorem Numeral.eq_of_value {m n : Numeral} {width : Nat} (digits : Digits width m.digits)
    (digits' : Digits width n.digits) (none : m.gap = []) (none' : n.gap = [])
    (same : m.value = n.value) : m = n := by
  obtain ⟨gap, ds⟩ := m
  obtain ⟨gap', ds'⟩ := n
  rw [Numeral.mk.injEq]
  exact ⟨none.trans none'.symm, digits.value_injective digits' same⟩

theorem Spelling.Legible.millisecond_lt {s : Spelling} (legible : s.Legible) :
    value s.millisecond < 1000 := by
  simpa [legible.millisecond.1] using value_lt legible.millisecond.2

/-- Plain spellings of one moment are the same. -/
theorem Spelling.Plain.eq_of_moment {s u : Spelling} (plain : s.Plain) (plain' : u.Plain)
    (legible : s.Legible) (legible' : u.Legible) (same : s.moment = u.moment) : s = u := by
  obtain ⟨years, months, days, hours, minutes, seconds⟩ := plain.digits legible
  obtain ⟨years', months', days', hours', minutes', seconds'⟩ := plain'.digits legible'
  have milliseconds : Digits 3 s.millisecond := legible.millisecond
  have few : value s.millisecond < 1000 := legible.millisecond_lt
  have few' : value u.millisecond < 1000 := legible'.millisecond_lt
  simp only [moment, DateTime.mk.injEq, plain.yearNumber_eq, plain'.yearNumber_eq] at same
  obtain ⟨year, month, day, hour, minute, second, nanosecond⟩ := same
  -- The leap second is told by the nanoseconds, since a millisecond has three digits.
  have seconds_eq : s.second.value = u.second.value := by
    by_cases sixty : s.second.value = 60
    · by_cases sixty' : u.second.value = 60
      · rw [sixty, sixty']
      · rw [if_pos sixty, if_neg sixty'] at nanosecond
        omega
    · by_cases sixty' : u.second.value = 60
      · rw [if_neg sixty, if_pos sixty'] at nanosecond
        omega
      · rw [if_neg sixty, if_neg sixty'] at second
        omega
  have milliseconds_eq : value s.millisecond = value u.millisecond := by
    rw [seconds_eq] at nanosecond
    omega
  have sign := plain.sign.trans plain'.sign.symm
  have year := Numeral.eq_of_value years years' plain.year plain'.year (Int.ofNat_inj.mp year)
  have month := Numeral.eq_of_value months months' plain.month plain'.month month
  have day := Numeral.eq_of_value days days' plain.day plain'.day day
  have hour := Numeral.eq_of_value hours hours' plain.hour plain'.hour hour
  have minute := Numeral.eq_of_value minutes minutes' plain.minute plain'.minute minute
  have second := Numeral.eq_of_value seconds seconds' plain.second plain'.second seconds_eq
  have millisecond : s.millisecond = u.millisecond :=
    milliseconds.value_injective legible'.millisecond milliseconds_eq
  cases s
  cases u
  simp_all

/-- Two names of the scheme do not tell the same moment. -/
theorem InScheme.eq_of_timestamp? {m n : String} (scheme : InScheme m) (scheme' : InScheme n)
    (same : timestamp? m = timestamp? n) : m = n := by
  obtain ⟨s, legible, plain, rfl⟩ := inScheme_iff.mp scheme
  obtain ⟨u, legible', plain', rfl⟩ := inScheme_iff.mp scheme'
  rw [timestamp?_eq_some_iff.mpr ⟨s, legible, rfl, rfl⟩,
    timestamp?_eq_some_iff.mpr ⟨u, legible', rfl, rfl⟩, Option.some_inj] at same
  rw [plain.eq_of_moment plain' legible legible' same]

/-! ## The latest of several, in any order -/

/-- What is read is a moment of the calendar. -/
theorem Spelling.Legible.isValid {s : Spelling} (legible : s.Legible) : s.moment.IsValid := by
  have few : value s.millisecond < 1000 := legible.millisecond_lt
  have second := legible.secondRange
  refine ⟨legible.yearRange.1, legible.yearRange.2, legible.monthRange.1, legible.monthRange.2,
    legible.dayRange.1, legible.dayRange.2, Nat.lt_succ_of_le legible.hourRange,
    Nat.lt_succ_of_le legible.minuteRange, ?_, ?_⟩
  · dsimp only [moment]
    split <;> omega
  · dsimp only [moment]
    split <;> split <;> omega

theorem isValid_of_timestamp? {name : String} {t : DateTime} (told : timestamp? name = some t) :
    t.IsValid := by
  obtain ⟨s, legible, -, rfl⟩ := timestamp?_eq_some_iff.mp told
  exact legible.isValid

/-- A moment of the calendar has a number of its own. -/
theorem rank_injective {t u : DateTime} (valid : t.IsValid) (valid' : u.IsValid)
    (same : t.rank = u.rank) : t = u := by
  have days : DateTime.daysInMonth t.year t.month ≤ 31 := daysInMonth_le t.year t.month
  have days' : DateTime.daysInMonth u.year u.month ≤ 31 := daysInMonth_le u.year u.month
  obtain ⟨-, -, -, month, -, day, hour, minute, second, nanosecond⟩ := valid
  obtain ⟨-, -, -, month', -, day', hour', minute', second', nanosecond'⟩ := valid'
  have short : t.nanosecond < 2000000000 := by split at nanosecond <;> omega
  have short' : u.nanosecond < 2000000000 := by split at nanosecond' <;> omega
  rw [DateTime.rank, DateTime.rank] at same
  cases t
  cases u
  rw [DateTime.mk.injEq]
  dsimp only at *
  omega

/-- A name behind all others is the latest if none of them tells a later moment. -/
theorem latest?_concat {names : List String} {n : String} {t : DateTime}
    (told : timestamp? n = some t)
    (last : ∀ m ∈ names, ∀ u, timestamp? m = some u → u.rank ≤ t.rank) :
    latest? (names ++ [n]) = some n := by
  have behind : [n].filterMap (fun n => (timestamp? n).map (·, n)) = [(t, n)] := by
    rw [List.filterMap_cons, told]
    rfl
  rw [latest?, List.filterMap_append, behind, List.foldl_append, List.foldl_cons, List.foldl_nil]
  generalize found : (names.filterMap fun n => (timestamp? n).map (·, n)).foldl later none = best
  cases best with
  | none => rfl
  | some b =>
    obtain ⟨u, m⟩ := b
    rcases mem_of_foldl_later found with inside | none
    · obtain ⟨member, told'⟩ := mem_told_iff.mp inside
      rw [later, if_pos (last m member u told')]
      rfl
    · cases none

/-- **The latest of several names does not depend on their order exactly if no other name tells the
same moment.** -/
theorem latest?_perm_iff {names : List String} :
    (∀ names', names.Perm names' → latest? names' = latest? names) ↔
      ∀ n, latest? names = some n → ∀ m ∈ names, timestamp? m = timestamp? n → m = n := by
  constructor
  · intro same n found m member ties
    obtain ⟨-, t, told, last⟩ := mem_of_latest? found
    -- The other name wins from the end of the list.
    have ends : latest? (names.erase m ++ [m]) = some m := by
      refine latest?_concat (ties.trans told) fun k inside u told' => ?_
      exact last k (List.mem_of_mem_erase inside) u told'
    have perm : names.Perm (names.erase m ++ [m]) :=
      (List.perm_cons_erase member).trans (List.perm_append_singleton m _).symm
    rw [same _ perm, found, Option.some_inj] at ends
    exact ends.symm
  · intro alone names' perm
    cases found : latest? names with
    | none =>
      cases found' : latest? names' with
      | none => rfl
      | some m =>
        obtain ⟨member, u, told, -⟩ := mem_of_latest? found'
        obtain ⟨n, some⟩ := exists_latest? (perm.mem_iff.mpr member) told
        rw [found] at some
        cases some
    | some n =>
      obtain ⟨member, t, told, last⟩ := mem_of_latest? found
      obtain ⟨m, found'⟩ := exists_latest? (perm.mem_iff.mp member) told
      obtain ⟨member', u, told', last'⟩ := mem_of_latest? found'
      have inside : m ∈ names := perm.mem_iff.mpr member'
      have ties : u = t := rank_injective (isValid_of_timestamp? told') (isValid_of_timestamp? told)
        (Int.le_antisymm (last m inside u told') (last' n (perm.mem_iff.mp member) t told))
      rw [found', alone n found m inside (by rw [told', told, ties])]

/-- **The reader of names is lenient.** A name tells a moment exactly if it is a legible spelling
of that moment; white space, a sign and fewer digits are legible, and the names of the scheme are
those spellings that have neither white space nor a sign. Two names of the scheme do not tell the
same moment, but a name of the scheme and another spelling can: the latest of several names is the
same in every order of them exactly if no other one tells the same moment, and in particular if
those that tell a moment are all of the scheme. -/
theorem names_are_read_leniently (name : String) (names : List String) :
    (∀ t, timestamp? name = some t ↔
      ∃ s : Spelling, s.Legible ∧ name = s.name ∧ t = s.moment) ∧
    (InScheme name ↔ ∃ s : Spelling, s.Legible ∧ s.Plain ∧ name = s.name) ∧
    (∀ other, InScheme other → InScheme name → timestamp? other = timestamp? name →
      other = name) ∧
    ((∀ names', names.Perm names' → latest? names' = latest? names) ↔
      ∀ n, latest? names = some n → ∀ m ∈ names, timestamp? m = timestamp? n → m = n) ∧
    ((∀ n ∈ names, timestamp? n ≠ none → InScheme n) →
      ∀ names', names.Perm names' → latest? names' = latest? names) := by
  refine ⟨fun t => timestamp?_eq_some_iff, inScheme_iff,
    fun other scheme scheme' => scheme.eq_of_timestamp? scheme', latest?_perm_iff,
    fun scheme => latest?_perm_iff.mpr fun n found m inside ties => ?_⟩
  obtain ⟨member, t, told, -⟩ := mem_of_latest? found
  refine (scheme m inside ?_).eq_of_timestamp? (scheme n member ?_) ties
  · simp [ties, told]
  · simp [told]

/-- White space in front of the year is read past: the name is none of the scheme, ties with the one
that is, and takes its place when it stands behind it. -/
theorem names_are_read_leniently_space :
    InScheme "snapshot.20240309140507123" ∧ ¬ InScheme "snapshot. 20240309140507123" ∧
      timestamp? "snapshot. 20240309140507123" = timestamp? "snapshot.20240309140507123" ∧
      latest? ["snapshot.20240309140507123", "snapshot. 20240309140507123"] =
        some "snapshot. 20240309140507123" ∧
      ¬ ∀ names', ["snapshot.20240309140507123", "snapshot. 20240309140507123"].Perm names' →
        latest? names' =
          latest? ["snapshot.20240309140507123", "snapshot. 20240309140507123"] := by
  obtain ⟨-, -, apart, order, -⟩ := names_are_read_leniently "snapshot.20240309140507123"
    ["snapshot.20240309140507123", "snapshot. 20240309140507123"]
  have ties : timestamp? "snapshot. 20240309140507123" =
      timestamp? "snapshot.20240309140507123" := by decide +kernel
  have found : latest? ["snapshot.20240309140507123", "snapshot. 20240309140507123"] =
      some "snapshot. 20240309140507123" := by decide +kernel
  have inside : InScheme "snapshot.20240309140507123" := by
    refine ⟨['2', '0', '2', '4'], ['0', '3'], ['0', '9'], ['1', '4'], ['0', '5'], ['0', '7'],
      ['1', '2', '3'], ?_⟩
    decide +kernel
  refine ⟨inside, fun other => ?_, ties, found, fun same => ?_⟩
  · exact absurd (apart _ other inside ties) (by decide)
  · exact absurd (order.mp same _ found _ List.mem_cons_self ties.symm) (by decide)

end ClusterBackup.Snapshot
