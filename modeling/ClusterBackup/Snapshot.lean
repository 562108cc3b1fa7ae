/-
ClusterBackup.Snapshot — backups named by the time they were taken.

A backup without a name of its own is called `snapshot.` and the moment,
year to millisecond without separators. Reading a name back is lenient:
each number but the last may have white space before it, the year may have
a sign and then any number of digits, and the others may end early at a
character that is no digit. Of several such names `latest?` picks the one
with the latest moment, and of equal moments the last.
-/
import ClusterBackup.Calendar
import ClusterBackup.Text.Blank

namespace ClusterBackup.Snapshot

/-- What the names start with. -/
def namePrefix : String := "snapshot."

/-! ## Writing -/

/-- A number with zeros in front up to a width. -/
def padded (width n : Nat) : List Char :=
  let digits := (toString n).toList
  List.replicate (width - digits.length) '0' ++ digits

/-- A year: four digits, or a sign and at least four digits for years that four cannot show. -/
def yearText (year : Int) : List Char :=
  if 0 ≤ year ∧ year ≤ 9999 then padded 4 year.toNat
  else (if year < 0 then '-' else '+') :: padded 4 year.natAbs

/-- The moment as digits, from the year to the millisecond. -/
def stamp (t : DateTime) : List Char :=
  yearText t.year ++ padded 2 t.month ++ padded 2 t.day ++ padded 2 t.hour ++ padded 2 t.minute
    ++ padded 2 t.shownSecond ++ padded 3 t.millisecond

/-- The name of a backup taken at a moment. -/
def name (t : DateTime) : String := namePrefix ++ String.ofList (stamp t)

/-! ## Reading -/

/-- The value of the digits, first to last. -/
def value (digits : List Char) : Nat :=
  digits.foldl (fun n c => n * 10 + (c.toNat - '0'.toNat)) 0

/-- A number of at least one digit, and of at most `width` where a width is given. -/
def number? (width : Option Nat) (cs : List Char) : Option (Nat × List Char) :=
  let run := match width with
    | some w => (cs.take w).takeWhile Char.isDigit
    | none => cs.takeWhile Char.isDigit
  if run.isEmpty then none else some (value run, cs.drop run.length)

/-- A number of at most two digits after white space, within bounds. -/
def field? (low high : Nat) (cs : List Char) : Option (Nat × List Char) := do
  let (n, rest) ← number? (some 2) (Text.dropSpace cs)
  if low ≤ n ∧ n ≤ high then some (n, rest) else none

/-- A year after white space: four digits at most, or a sign and any number of digits. -/
def year? (cs : List Char) : Option (Int × List Char) := do
  let (year, rest) ← match Text.dropSpace cs with
    | '-' :: cs => (number? none cs).map fun (n, rest) => (-(n : Int), rest)
    | '+' :: cs => (number? none cs).map fun (n, rest) => ((n : Int), rest)
    | cs => (number? (some 4) cs).map fun (n, rest) => ((n : Int), rest)
  if DateTime.firstYear ≤ year ∧ year ≤ DateTime.lastYear then some (year, rest) else none

/-- The three digits of a millisecond, and nothing after them. -/
def millisecond? (cs : List Char) : Option Nat :=
  if cs.length = 3 ∧ cs.all Char.isDigit then some (value cs) else none

/-- The moment that digits stand for. -/
def readStamp? (cs : List Char) : Option DateTime := do
  let (year, cs) ← year? cs
  let (month, cs) ← field? 1 12 cs
  let (day, cs) ← field? 1 31 cs
  let (hour, cs) ← field? 0 23 cs
  let (minute, cs) ← field? 0 59 cs
  let (second, cs) ← field? 0 60 cs
  let millisecond ← millisecond? cs
  if day ≤ DateTime.daysInMonth year month then
    let leap := if second = 60 then 1 else 0
    some ⟨year, month, day, hour, minute, second - leap, leap * 1000000000 + millisecond * 1000000⟩
  else none

/-- The characters after the start that the names share. -/
def afterPrefix? : List Char → List Char → Option (List Char)
  | [], cs => some cs
  | _ :: _, [] => none
  | p :: ps, c :: cs => if p = c then afterPrefix? ps cs else none

/-- The moment in a name, if it is a name of this kind. -/
def timestamp? (name : String) : Option DateTime :=
  (afterPrefix? namePrefix.toList name.toList).bind readStamp?

/-! ## The latest of several -/

/-- The later of two named moments; of equal ones the second. -/
def later (best : Option (DateTime × String)) (next : DateTime × String) :
    Option (DateTime × String) :=
  match best with
  | none => some next
  | some b => if b.1.rank ≤ next.1.rank then some next else some b

/-- The name with the latest moment, among the names of this kind. -/
def latest? (names : List String) : Option String :=
  ((names.filterMap fun n => (timestamp? n).map (·, n)).foldl later none).map (·.2)

end ClusterBackup.Snapshot
