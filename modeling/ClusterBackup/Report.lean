/-
ClusterBackup.Report — outcomes as text for people.

The message comes first, then one numbered line per failure that the
cluster listed. A report is that text and whether it tells of a success.
-/
import ClusterBackup.Outcome

namespace ClusterBackup

/-- One message to whoever watches the calls. -/
structure Report where
  success : Bool
  text : String
deriving DecidableEq, Repr

namespace Report

/-- The line of a failure, by its number. -/
def errorLine (number : Nat) (e : FailureDetail) : String :=
  toString number ++ ". Error Name: " ++ e.name ++ "; Error Value: " ++ e.value

/-- The lines of the failures, numbered from one. -/
def errorLines (errors : List FailureDetail) : List String :=
  errors.mapIdx fun i e => errorLine (i + 1) e

/-- The text of an outcome. -/
def render (o : Outcome) : String := "\n".intercalate (o.message :: errorLines o.errors)

/-- The report of an outcome. -/
def ofOutcome (o : Outcome) : Report := ⟨o.success, render o⟩

end Report

end ClusterBackup
