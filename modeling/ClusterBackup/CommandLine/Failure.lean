/-
ClusterBackup.CommandLine.Failure — errors that end a command, as text.

A failure is a chain of messages, each the reason for the one before. The
first stands behind the word "Error", the others are listed as causes,
with numbers if there are several; lines after the first of a cause are
indented like the first.
-/
import ClusterBackup.Error

namespace ClusterBackup

/-- The reason for an error, apart from its message. -/
def Error.source : Error → Option String
  | io reason | yamlParse reason | jsonParse reason => some reason
  | transport reason | metrics reason => some reason
  | _ => none

namespace CommandLine

/-- A message and the reasons for it, each for the one before. -/
structure Failure where
  message : String
  causes : List String
deriving DecidableEq, Repr

namespace Failure

/-- The failure that an error is. -/
def ofError (e : Error) : Failure := ⟨e.message, e.source.toList⟩

/-- An error, and what was attempted. -/
def within (attempt : String) (e : Error) : Failure := ⟨attempt, e.message :: e.source.toList⟩

/-- The text with spaces at the start of its lines, the first line aside. -/
def indented (spaces : Nat) (s : String) : String :=
  String.intercalate ("\n" ++ String.ofList (List.replicate spaces ' ')) (s.splitOn "\n")

/-- A number of a cause, to the right of five places. -/
def numberText (n : Nat) : String :=
  let digits := toString n
  String.ofList (List.replicate (5 - digits.length) ' ') ++ digits ++ ": "

/-- The lines of the causes. -/
def causeLines : List String → List String
  | [] => []
  | [cause] => ["    " ++ indented 4 cause]
  | causes => causes.mapIdx fun n cause => numberText n ++ indented 7 cause

/-- The full text. -/
def text (f : Failure) : String :=
  "Error: " ++ f.message
    ++ (if f.causes.isEmpty then ""
      else "\n\nCaused by:\n" ++ "\n".intercalate (causeLines f.causes))

end Failure

end CommandLine

end ClusterBackup
