/-
ClusterBackup.Proofs.Snapshot.Spelling — every way to spell a moment in the
name of a backup.

The reader takes one number after another, each as far as its digits go and
no further than it is wide. `Spelling` lists the parts of such a text and
`Legible` says which of them are read: there may be white space before each
number but the last, the year may have a sign, and a number may have fewer
digits than its place if white space ends it. `timestamp?_eq_some_iff` is
the whole language of the reader, with what each text in it means.

The lemmas go the way of the reader: a run of digits, a number, a year, and
then the fields one behind the other.
-/
import ClusterBackup.Proofs.Snapshot.Stamp

namespace ClusterBackup.Snapshot

/-! ## Runs of digits -/

/-- The digits at the start, as far as they go and no further than the width. -/
def leading (width : Option Nat) (cs : List Char) : List Char :=
  match width with
  | some w => (cs.take w).takeWhile Char.isDigit
  | none => cs.takeWhile Char.isDigit

/-- Digits that are a whole number where `rest` follows: they fill the width or no digit follows. -/
structure Run (width : Option Nat) (digits rest : List Char) : Prop where
  nonempty : digits ≠ []
  pure : ∀ c ∈ digits, c.isDigit = true
  short : ∀ w ∈ width, digits.length ≤ w
  ends : width = some digits.length ∨ ∀ c ∈ rest.head?, c.isDigit = false

theorem takeWhile_take_append_iff {p : Char → Bool} {w : Nat} {front rest : List Char} :
    ((front ++ rest).take w).takeWhile p = front ↔
      (∀ c ∈ front, p c = true) ∧ front.length ≤ w ∧
        (w = front.length ∨ ∀ c ∈ rest.head?, p c = false) := by
  induction front generalizing w with
  | nil =>
    cases w with
    | zero => simp
    | succ w => cases rest <;> simp [List.takeWhile_cons]
  | cons c front ih =>
    cases w with
    | zero => simp
    | succ w =>
      cases kept : p c with
      | false => simp [kept]
      | true => simp [kept, ih]

/-- What is read off the start of a text are the digits before its rest exactly if these are a whole
number there. -/
theorem leading_append_iff {width : Option Nat} {digits rest : List Char} :
    leading width (digits ++ rest) = digits ∧ digits ≠ [] ↔ Run width digits rest := by
  have all : leading width (digits ++ rest) = digits ↔
      (∀ c ∈ digits, c.isDigit = true) ∧ (∀ w ∈ width, digits.length ≤ w) ∧
        (width = some digits.length ∨ ∀ c ∈ rest.head?, c.isDigit = false) := by
    cases width with
    | some w => simp [leading, takeWhile_take_append_iff]
    | none =>
      -- Without a width the run goes as far as if the width were larger than the text.
      have wide : ((digits ++ rest).take ((digits ++ rest).length + 1)).takeWhile Char.isDigit =
          digits ↔ _ := takeWhile_take_append_iff
      have longer : digits.length + rest.length + 1 ≠ digits.length := by omega
      have short : digits.length ≤ digits.length + rest.length + 1 := by omega
      rw [List.take_of_length_le (Nat.le_succ _), List.length_append] at wide
      rw [leading, wide]
      simp only [longer, short, false_or, true_and, Option.not_mem_none, false_imp_iff,
        implies_true, reduceCtorEq]
  rw [all]
  exact ⟨fun ⟨⟨pure, short, ends⟩, nonempty⟩ => ⟨nonempty, pure, short, ends⟩,
    fun run => ⟨⟨run.pure, run.short, run.ends⟩, run.nonempty⟩⟩

theorem leading_prefix (width : Option Nat) (cs : List Char) : leading width cs <+: cs := by
  cases width with
  | some w => exact (List.takeWhile_prefix _).trans (List.take_prefix w cs)
  | none => exact List.takeWhile_prefix _

/-- **A number is read exactly where its digits are a whole number.** -/
theorem number?_eq_some_iff {width : Option Nat} {cs rest : List Char} {n : Nat} :
    number? width cs = some (n, rest) ↔
      ∃ digits, cs = digits ++ rest ∧ Run width digits rest ∧ value digits = n := by
  have read : number? width cs =
      if (leading width cs).isEmpty then none
      else some (value (leading width cs), cs.drop (leading width cs).length) := rfl
  rw [read]
  obtain ⟨after, whole⟩ := leading_prefix width cs
  constructor
  · generalize same : leading width cs = digits at whole ⊢
    subst whole
    intro found
    split at found
    · cases found
    · next nonempty =>
      rw [List.drop_left, Option.some.injEq, Prod.mk.injEq] at found
      obtain ⟨rfl, rfl⟩ := found
      exact ⟨digits, rfl, leading_append_iff.mp ⟨same, by simpa using nonempty⟩, rfl⟩
  · rintro ⟨digits, rfl, run, rfl⟩
    obtain ⟨same, nonempty⟩ := leading_append_iff.mpr run
    rw [same, if_neg (by simpa using nonempty), List.drop_left]

/-! ## Numbers behind white space -/

/-- Nothing but white space. -/
def Gap (cs : List Char) : Prop := ∀ c ∈ cs, Text.isSpace c = true

theorem gap_nil : Gap [] := List.forall_mem_nil _

/-- The white space in front is skipped, and nothing else. -/
theorem dropSpace_append {gap cs : List Char} (blank : Gap gap)
    (solid : ∀ c ∈ cs.head?, Text.isSpace c = false) : Text.dropSpace (gap ++ cs) = cs := by
  rw [Text.dropSpace, List.dropWhile_append_of_pos blank]
  exact Text.dropSpace_eq_self solid

theorem exists_gap (cs : List Char) : ∃ gap, Gap gap ∧ cs = gap ++ Text.dropSpace cs :=
  ⟨cs.takeWhile Text.isSpace, fun _ inside => List.mem_takeWhile_imp inside,
    List.takeWhile_append_dropWhile.symm⟩

/-- A number starts with a digit. -/
theorem Run.exists_head? {width : Option Nat} {digits rest : List Char}
    (run : Run width digits rest) (more : List Char) :
    ∃ d ∈ (digits ++ more).head?, d.isDigit = true := by
  obtain ⟨d, ds, rfl⟩ := List.exists_cons_of_ne_nil run.nonempty
  exact ⟨d, rfl, run.pure d List.mem_cons_self⟩

theorem Run.dropSpace_append {width : Option Nat} {gap digits rest : List Char}
    (run : Run width digits rest) (blank : Gap gap) :
    Text.dropSpace (gap ++ (digits ++ rest)) = digits ++ rest := by
  obtain ⟨d, first, digit⟩ := run.exists_head? rest
  refine Snapshot.dropSpace_append blank fun c first' => ?_
  obtain rfl : c = d := Option.mem_unique first' first
  exact Text.isSpace_of_isDigit digit

/-- White space, and digits behind it. -/
structure Numeral where
  gap : List Char
  digits : List Char
deriving DecidableEq, Repr

namespace Numeral

def text (m : Numeral) : List Char := m.gap ++ m.digits

theorem text_append (m : Numeral) (rest : List Char) :
    m.text ++ rest = m.gap ++ (m.digits ++ rest) :=
  List.append_assoc m.gap m.digits rest

def value (m : Numeral) : Nat := Snapshot.value m.digits

end Numeral

/-- **A field is read exactly where white space and a number within its bounds are.** -/
theorem field?_eq_some_iff {low high n : Nat} {cs rest : List Char} :
    field? low high cs = some (n, rest) ↔
      ∃ m : Numeral, cs = m.text ++ rest ∧ Gap m.gap ∧ Run (some 2) m.digits rest ∧
        m.value = n ∧ low ≤ n ∧ n ≤ high := by
  simp only [field?, Option.bind_eq_bind, Option.bind_eq_some_iff]
  constructor
  · rintro ⟨⟨n', rest'⟩, read, within⟩
    obtain ⟨digits, after, run, same⟩ := number?_eq_some_iff.mp read
    obtain ⟨gap, blank, whole⟩ := exists_gap cs
    split at within
    · next bounds =>
      cases within
      refine ⟨⟨gap, digits⟩, ?_, blank, run, same, bounds⟩
      rw [Numeral.text_append, ← after]
      exact whole
    · cases within
  · rintro ⟨⟨gap, digits⟩, rfl, blank, run, rfl, low, high⟩
    refine ⟨(_, rest), ?_, if_pos ⟨low, high⟩⟩
    rw [Numeral.text_append, run.dropSpace_append blank]
    exact number?_eq_some_iff.mpr ⟨digits, rfl, run, rfl⟩

/-! ## Years -/

/-- What stands before the digits of a year. -/
inductive Sign where
  | none
  | plus
  | minus
deriving DecidableEq, Repr

namespace Sign

def text : Sign → List Char
  | none => []
  | plus => ['+']
  | minus => ['-']

/-- A year has four digits at most unless it has a sign. -/
def width : Sign → Option Nat
  | none => some 4
  | plus | minus => Option.none

def apply : Sign → Nat → Int
  | none, n | plus, n => n
  | minus, n => -n

end Sign

/-- A year of either form, at the start of a text. -/
def signedYear? : List Char → Option (Int × List Char)
  | '-' :: cs => (number? none cs).map fun (n, rest) => (-(n : Int), rest)
  | '+' :: cs => (number? none cs).map fun (n, rest) => ((n : Int), rest)
  | cs => (number? (some 4) cs).map fun (n, rest) => ((n : Int), rest)

theorem year?_eq (cs : List Char) :
    year? cs = (signedYear? (Text.dropSpace cs)).bind fun (year, rest) =>
      if DateTime.firstYear ≤ year ∧ year ≤ DateTime.lastYear then some (year, rest) else none := by
  unfold year?
  split
  · next starts => rw [starts]; rfl
  · next starts => rw [starts]; rfl
  · next noMinus noPlus => rw [signedYear?.eq_3 _ noMinus noPlus]; rfl

theorem map_number?_eq_some_iff {width : Option Nat} {f : Nat → Int} {cs rest : List Char}
    {year : Int} :
    (number? width cs).map (fun (n, rest) => (f n, rest)) = some (year, rest) ↔
      ∃ digits, cs = digits ++ rest ∧ Run width digits rest ∧ f (value digits) = year := by
  rw [Option.map_eq_some_iff]
  constructor
  · rintro ⟨⟨n, _⟩, found, same⟩
    cases same
    obtain ⟨digits, after, run, rfl⟩ := number?_eq_some_iff.mp found
    exact ⟨digits, after, run, rfl⟩
  · rintro ⟨digits, after, run, rfl⟩
    exact ⟨(value digits, rest), number?_eq_some_iff.mpr ⟨digits, after, run, rfl⟩, rfl⟩

theorem signedYear?_eq_some_iff {year : Int} {cs rest : List Char} :
    signedYear? cs = some (year, rest) ↔
      ∃ (sign : Sign) (digits : List Char), cs = sign.text ++ (digits ++ rest) ∧
        Run sign.width digits rest ∧ sign.apply (value digits) = year := by
  constructor
  · intro read
    unfold signedYear? at read
    split at read
    · obtain ⟨digits, rfl, run, same⟩ :=
        (map_number?_eq_some_iff (f := fun n => -(n : Int))).mp read
      exact ⟨.minus, digits, rfl, run, same⟩
    · obtain ⟨digits, rfl, run, same⟩ := map_number?_eq_some_iff.mp read
      exact ⟨.plus, digits, rfl, run, same⟩
    · obtain ⟨digits, rfl, run, same⟩ := map_number?_eq_some_iff.mp read
      exact ⟨.none, digits, rfl, run, same⟩
  · rintro ⟨sign, digits, rfl, run, same⟩
    cases sign with
    | minus =>
      exact (map_number?_eq_some_iff (f := fun n => -(n : Int))).mpr ⟨digits, rfl, run, same⟩
    | plus => exact map_number?_eq_some_iff.mpr ⟨digits, rfl, run, same⟩
    | none =>
      rw [Sign.text, List.nil_append]
      unfold signedYear?
      -- A digit is no sign.
      obtain ⟨d, ds, rfl⟩ := List.exists_cons_of_ne_nil run.nonempty
      have digit : d.isDigit = true := run.pure d List.mem_cons_self
      rw [List.cons_append]
      split
      · next sign => cases sign; cases digit
      · next sign => cases sign; cases digit
      · exact map_number?_eq_some_iff.mpr ⟨d :: ds, rfl, run, same⟩

/-- **A year is read exactly where white space, a sign or none, and a number are**, unless it is too
far away. -/
theorem year?_eq_some_iff {year : Int} {cs rest : List Char} :
    year? cs = some (year, rest) ↔
      ∃ (sign : Sign) (m : Numeral), cs = m.gap ++ (sign.text ++ (m.digits ++ rest)) ∧
        Gap m.gap ∧ Run sign.width m.digits rest ∧ sign.apply m.value = year ∧
        DateTime.firstYear ≤ year ∧ year ≤ DateTime.lastYear := by
  rw [year?_eq, Option.bind_eq_some_iff]
  constructor
  · rintro ⟨⟨year', rest'⟩, read, within⟩
    obtain ⟨gap, blank, whole⟩ := exists_gap cs
    obtain ⟨sign, digits, after, run, same⟩ := signedYear?_eq_some_iff.mp read
    dsimp only at within
    split at within
    · next bounds =>
      cases within
      exact ⟨sign, ⟨gap, digits⟩, by rw [← after]; exact whole, blank, run, same, bounds⟩
    · cases within
  · rintro ⟨sign, ⟨gap, digits⟩, rfl, blank, run, same, bounds⟩
    refine ⟨(year, rest), ?_, if_pos bounds⟩
    have skipped : Text.dropSpace (gap ++ (sign.text ++ (digits ++ rest))) =
        sign.text ++ (digits ++ rest) := by
      cases sign with
      | none => exact run.dropSpace_append blank
      | plus => exact dropSpace_append blank (by rintro c ⟨⟩; rfl)
      | minus => exact dropSpace_append blank (by rintro c ⟨⟩; rfl)
    rw [skipped]
    exact signedYear?_eq_some_iff.mpr ⟨sign, digits, rfl, run, same⟩

/-! ## Moments -/

namespace Numeral

/-- A number that is read where at most `width` digits stand and `after` is what separates it from
the next number. -/
structure Fits (m : Numeral) (width : Option Nat) (after : List Char) : Prop where
  gap : Gap m.gap
  nonempty : m.digits ≠ []
  pure : ∀ c ∈ m.digits, c.isDigit = true
  short : ∀ w ∈ width, m.digits.length ≤ w
  ends : width = some m.digits.length ∨ after ≠ []

/-- A digit follows the white space before a number exactly if there is none. -/
theorem forall_head?_append_iff {after next : List Char} (blank : Gap after)
    (digit : ∃ d ∈ next.head?, d.isDigit = true) :
    (∀ c ∈ (after ++ next).head?, c.isDigit = false) ↔ after ≠ [] := by
  cases after with
  | nil =>
    obtain ⟨d, first, digit⟩ := digit
    simp only [List.nil_append, ne_eq, not_true_eq_false, iff_false]
    intro other
    rw [other d first] at digit
    cases digit
  | cons c after =>
    have space : Text.isSpace c = true := blank c List.mem_cons_self
    have other : c.isDigit = false := by
      by_contra digit
      rw [Text.isSpace_of_isDigit (by simpa using digit)] at space
      cases space
    simp [other]

/-- A number that fits before the gap of what follows is a whole number there, and the other way
round. -/
theorem fits_iff {m : Numeral} {width : Option Nat} {after next : List Char} (blank : Gap after)
    (digit : ∃ d ∈ next.head?, d.isDigit = true) :
    m.Fits width after ↔ Gap m.gap ∧ Run width m.digits (after ++ next) := by
  have ends := forall_head?_append_iff blank digit
  constructor
  · rintro ⟨gap, nonempty, pure, short, last⟩
    exact ⟨gap, nonempty, pure, short, last.imp_right ends.mpr⟩
  · rintro ⟨gap, nonempty, pure, short, last⟩
    exact ⟨gap, nonempty, pure, short, last.imp_right ends.mp⟩

theorem Fits.exists_head? {m : Numeral} {width : Option Nat} {after : List Char}
    (fits : m.Fits width after) (more : List Char) :
    ∃ d ∈ (m.digits ++ more).head?, d.isDigit = true := by
  obtain ⟨d, ds, same⟩ := List.exists_cons_of_ne_nil fits.nonempty
  rw [same]
  exact ⟨d, rfl, fits.pure d (same ▸ List.mem_cons_self)⟩

/-- A number that fits before another one is a whole number there. -/
theorem Fits.run {m next : Numeral} {width width' : Option Nat} {after : List Char}
    (fits : m.Fits width next.gap) (follows : next.Fits width' after) (rest : List Char) :
    Run width m.digits (next.text ++ rest) := by
  rw [text_append]
  exact ((fits_iff follows.gap (follows.exists_head? rest)).mp fits).2

/-- A whole number before another one fits there. -/
theorem fits_of_run {m next : Numeral} {width width' : Option Nat} {rest : List Char}
    (gap : Gap m.gap) (run : Run width m.digits (next.text ++ rest)) (gap' : Gap next.gap)
    (run' : Run width' next.digits rest) : m.Fits width next.gap := by
  rw [text_append] at run
  exact (fits_iff gap' (run'.exists_head? rest)).mpr ⟨gap, run⟩

end Numeral

/-- The parts of a text that may spell a moment. -/
structure Spelling where
  sign : Sign
  year : Numeral
  month : Numeral
  day : Numeral
  hour : Numeral
  minute : Numeral
  second : Numeral
  millisecond : List Char
deriving DecidableEq, Repr

namespace Spelling

/-- The parts, one behind the other. -/
def text (s : Spelling) : List Char :=
  s.year.gap ++ (s.sign.text ++ (s.year.digits ++ (s.month.text ++ (s.day.text ++
    (s.hour.text ++ (s.minute.text ++ (s.second.text ++ s.millisecond)))))))

def yearNumber (s : Spelling) : Int := s.sign.apply s.year.value

/-- The parts can be read, and are a day of the calendar and a time of day. -/
structure Legible (s : Spelling) : Prop where
  year : s.year.Fits s.sign.width s.month.gap
  month : s.month.Fits (some 2) s.day.gap
  day : s.day.Fits (some 2) s.hour.gap
  hour : s.hour.Fits (some 2) s.minute.gap
  minute : s.minute.Fits (some 2) s.second.gap
  second : s.second.Fits (some 2) []
  millisecond : s.millisecond.length = 3 ∧ ∀ c ∈ s.millisecond, c.isDigit = true
  yearRange : DateTime.firstYear ≤ s.yearNumber ∧ s.yearNumber ≤ DateTime.lastYear
  monthRange : 1 ≤ s.month.value ∧ s.month.value ≤ 12
  dayRange : 1 ≤ s.day.value ∧ s.day.value ≤ DateTime.daysInMonth s.yearNumber s.month.value
  hourRange : s.hour.value ≤ 23
  minuteRange : s.minute.value ≤ 59
  secondRange : s.second.value ≤ 60

/-- The moment that the parts are: the 60th second is a longer 59th. -/
def moment (s : Spelling) : DateTime :=
  let leap := if s.second.value = 60 then 1 else 0
  ⟨s.yearNumber, s.month.value, s.day.value, s.hour.value, s.minute.value, s.second.value - leap,
    leap * 1000000000 + value s.millisecond * 1000000⟩

/-- The name of a backup that is spelled so. -/
def name (s : Spelling) : String := namePrefix ++ String.ofList s.text

end Spelling

theorem millisecond?_eq_some_iff {cs : List Char} {n : Nat} :
    millisecond? cs = some n ↔
      (cs.length = 3 ∧ ∀ c ∈ cs, c.isDigit = true) ∧ value cs = n := by
  simp only [millisecond?, List.all_eq_true, Option.ite_none_right_eq_some, Option.some.injEq]

/-- Digits do not start with white space. -/
theorem exists_head?_of_digits {cs : List Char}
    (digits : cs.length = 3 ∧ ∀ c ∈ cs, c.isDigit = true) : ∃ d ∈ cs.head?, d.isDigit = true := by
  cases cs with
  | nil => cases digits.1
  | cons d ds => exact ⟨d, rfl, digits.2 d List.mem_cons_self⟩

/-- **A text is read as a moment exactly if it spells one.** -/
theorem readStamp?_eq_some_iff {cs : List Char} {t : DateTime} :
    readStamp? cs = some t ↔ ∃ s : Spelling, s.Legible ∧ cs = s.text ∧ t = s.moment := by
  simp only [readStamp?, Option.bind_eq_bind, Option.bind_eq_some_iff]
  constructor
  · rintro ⟨⟨_, afterYear⟩, readYear, ⟨_, afterMonth⟩, readMonth, ⟨_, afterDay⟩, readDay,
      ⟨_, afterHour⟩, readHour, ⟨_, afterMinute⟩, readMinute, ⟨_, afterSecond⟩, readSecond, _,
      readMillisecond, told⟩
    obtain ⟨sign, year, rfl, yearGap, yearRun, rfl, yearRange⟩ := year?_eq_some_iff.mp readYear
    obtain ⟨month, rfl, monthGap, monthRun, rfl, monthRange⟩ := field?_eq_some_iff.mp readMonth
    obtain ⟨day, rfl, dayGap, dayRun, rfl, dayRange⟩ := field?_eq_some_iff.mp readDay
    obtain ⟨hour, rfl, hourGap, hourRun, rfl, hourRange⟩ := field?_eq_some_iff.mp readHour
    obtain ⟨minute, rfl, minuteGap, minuteRun, rfl, minuteRange⟩ :=
      field?_eq_some_iff.mp readMinute
    obtain ⟨second, rfl, secondGap, secondRun, rfl, secondRange⟩ :=
      field?_eq_some_iff.mp readSecond
    obtain ⟨millisecond, rfl⟩ := millisecond?_eq_some_iff.mp readMillisecond
    split at told
    · next calendar =>
      refine ⟨⟨sign, year, month, day, hour, minute, second, afterSecond⟩, ?_, rfl,
        (Option.some.inj told).symm⟩
      exact {
        year := Numeral.fits_of_run yearGap yearRun monthGap monthRun
        month := Numeral.fits_of_run monthGap monthRun dayGap dayRun
        day := Numeral.fits_of_run dayGap dayRun hourGap hourRun
        hour := Numeral.fits_of_run hourGap hourRun minuteGap minuteRun
        minute := Numeral.fits_of_run minuteGap minuteRun secondGap secondRun
        second := (Numeral.fits_iff gap_nil (exists_head?_of_digits millisecond)).mpr
          ⟨secondGap, secondRun⟩
        millisecond := millisecond
        yearRange := yearRange
        monthRange := monthRange
        dayRange := ⟨dayRange.1, calendar⟩
        hourRange := hourRange.2
        minuteRange := minuteRange.2
        secondRange := secondRange.2 }
    · cases told
  · rintro ⟨s, legible, rfl, rfl⟩
    have secondRun : Run (some 2) s.second.digits s.millisecond :=
      ((Numeral.fits_iff gap_nil (exists_head?_of_digits legible.millisecond)).mp
        legible.second).2
    have days := daysInMonth_le s.yearNumber s.month.value
    refine ⟨(s.yearNumber, _), year?_eq_some_iff.mpr ⟨s.sign, s.year, rfl, legible.year.gap,
        legible.year.run legible.month _, rfl, legible.yearRange⟩,
      (s.month.value, _), field?_eq_some_iff.mpr ⟨s.month, rfl, legible.month.gap,
        legible.month.run legible.day _, rfl, legible.monthRange⟩,
      (s.day.value, _), field?_eq_some_iff.mpr ⟨s.day, rfl, legible.day.gap,
        legible.day.run legible.hour _, rfl, legible.dayRange.1, legible.dayRange.2.trans days⟩,
      (s.hour.value, _), field?_eq_some_iff.mpr ⟨s.hour, rfl, legible.hour.gap,
        legible.hour.run legible.minute _, rfl, Nat.zero_le _, legible.hourRange⟩,
      (s.minute.value, _), field?_eq_some_iff.mpr ⟨s.minute, rfl, legible.minute.gap,
        legible.minute.run legible.second _, rfl, Nat.zero_le _, legible.minuteRange⟩,
      (s.second.value, _), field?_eq_some_iff.mpr ⟨s.second, rfl, legible.second.gap, secondRun,
        rfl, Nat.zero_le _, legible.secondRange⟩,
      _, millisecond?_eq_some_iff.mpr ⟨legible.millisecond, rfl⟩, ?_⟩
    exact if_pos legible.dayRange.2

theorem afterPrefix?_eq_some_iff {start cs rest : List Char} :
    afterPrefix? start cs = some rest ↔ cs = start ++ rest := by
  constructor
  · intro found
    induction start generalizing cs with
    | nil => simpa [afterPrefix?] using found
    | cons p start ih =>
      cases cs with
      | nil => cases found
      | cons c cs =>
        rw [afterPrefix?] at found
        split at found
        · next same => rw [same, ih found, List.cons_append]
        · cases found
  · rintro rfl
    exact afterPrefix?_append start rest

theorem eq_name_iff {name : String} {s : Spelling} :
    name = s.name ↔ name.toList = namePrefix.toList ++ s.text := by
  rw [← String.toList_inj, Spelling.name, String.toList_append, String.toList_ofList]

/-- **A name tells a moment exactly if it spells one behind the start that all names share.** -/
theorem timestamp?_eq_some_iff {name : String} {t : DateTime} :
    timestamp? name = some t ↔ ∃ s : Spelling, s.Legible ∧ name = s.name ∧ t = s.moment := by
  simp only [timestamp?, Option.bind_eq_some_iff, afterPrefix?_eq_some_iff,
    readStamp?_eq_some_iff, eq_name_iff]
  constructor
  · rintro ⟨rest, whole, s, legible, rfl, told⟩
    exact ⟨s, legible, whole, told⟩
  · rintro ⟨s, legible, whole, told⟩
    exact ⟨s.text, whole, s, legible, rfl, told⟩

end ClusterBackup.Snapshot
