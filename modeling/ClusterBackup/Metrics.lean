/-
ClusterBackup.Metrics — counters of outcomes, and their text.

Two families of counters: outcomes by operation and result, and status
queries by the state that they found. A counter of labels is added to and
looked up; reading a count brings its labels into the text, with the count
it has. The text lists each family that has labels, in the order of the
labels.
-/
import ClusterBackup.Outcome
import ClusterBackup.Spec

namespace ClusterBackup

/-! ## Counters -/

/-- Counts by label values, in the order of the label values. -/
abbrev Counter := List (List String × Nat)

namespace Counter

/-- The count of label values; zero where they never came up. -/
def count (c : Counter) (labels : List String) : Nat := (c.lookup labels).getD 0

/-- Adds to the count of label values. -/
def add (labels : List String) (n : Nat) : Counter → Counter
  | [] => [(labels, n)]
  | (l, m) :: rest =>
    if l = labels then (l, m + n) :: rest
    else if labels < l then (labels, n) :: (l, m) :: rest
    else (l, m) :: add labels n rest

end Counter

/-- What a family of counters is called, and what its labels are. -/
structure Family where
  name : String
  help : String
  labels : List String

namespace Family

/-- A character of a label value as it is written. -/
def escapeChar (c : Char) : List Char :=
  if c = '\\' then ['\\', '\\']
  else if c = '"' then ['\\', '"']
  else if c = '\n' then ['\\', 'n']
  else [c]

/-- A label with its value. -/
def labelText (label value : String) : String :=
  label ++ "=\"" ++ String.ofList (value.toList.flatMap escapeChar) ++ "\""

/-- The line of one counter. -/
def line (f : Family) (labels : List String) (n : Nat) : String :=
  f.name ++ "\x7b" ++ ",".intercalate (f.labels.zipWith labelText labels) ++ "\x7d "
    ++ toString n ++ "\n"

/-- The text of a family; nothing if no labels came up. -/
def text (f : Family) (c : Counter) : String :=
  if c.isEmpty then ""
  else
    "# HELP " ++ f.name ++ " " ++ f.help ++ "\n# TYPE " ++ f.name ++ " counter\n"
      ++ String.join (c.map fun s => f.line s.1 s.2)

end Family

/-! ## The counters of this service -/

/-- Outcomes by operation and result, status queries by state. -/
structure Metrics where
  operations : Counter := []
  statusQueries : Counter := []
deriving DecidableEq, Repr

namespace Metrics

def operationsFamily : Family :=
  ⟨"collection_backup_operations_total", "Backup and restore calls by outcome",
    ["operation", "result"]⟩

def statusQueriesFamily : Family :=
  ⟨"collection_backup_status_queries_total", "Async status queries by observed job state",
    ["state"]⟩

/-- The result of an outcome as a label. -/
def resultLabel (o : Outcome) : String :=
  if o.success then "success"
  else match o.kind with
    | some kind => kind.label
    | none => "failure"

/-- Counts an outcome, and the state that it reports if it does. -/
def record (m : Metrics) (operation : Operation) (o : Outcome) : Metrics :=
  { operations := m.operations.add [operation.label, resultLabel o] 1
    statusQueries :=
      match o.jobStatus with
      | some s => m.statusQueries.add [s.state.label] 1
      | none => m.statusQueries }

/-- The count of an operation and a result, which have a line in the text from then on. -/
def operationCount (m : Metrics) (operation : Operation) (result : String) : Nat × Metrics :=
  let labels := [operation.label, result]
  (m.operations.count labels, { m with operations := m.operations.add labels 0 })

/-- The text of all counters. -/
def text (m : Metrics) : String :=
  operationsFamily.text m.operations ++ statusQueriesFamily.text m.statusQueries

end Metrics

end ClusterBackup
