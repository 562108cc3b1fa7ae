/-
ClusterBackup.Collection — names of collections.

A collection name is never blank and carries no white space at its ends.
The type holds both facts; `Collection.ofName?` is the one way in, and
trims what it is given.
-/
import ClusterBackup.Text.Blank
import ClusterBackup.Error

namespace ClusterBackup

/-- A collection of the cluster. -/
structure Collection where
  name : String
  /-- Nothing is left to trim. -/
  trimmed : Text.trim name = name
  /-- There is a name. -/
  nonempty : name ≠ ""
deriving DecidableEq

namespace Collection

instance : Repr Collection := ⟨fun c _ => repr c.name⟩

/-- The error of a blank collection name. -/
def blankName : Error := .invalidArgument "collection name must not be empty"

/-- The collection that a text names, white space at its ends aside. -/
def ofName? (s : String) : Except Error Collection :=
  if h : Text.trim s = "" then .error blankName
  else .ok ⟨Text.trim s, Text.trim_trim s, h⟩

/-- The collection that commands work on unless told otherwise. -/
def default : Collection :=
  ⟨"catalog", by decide, by decide⟩

end Collection

end ClusterBackup
