/-
ClusterBackup.Spec.Json — specifications as JSON.

A specification is written with all its members, null where there is
none. Read, only the collection has to be there. `Draft.mode?` is told
which values count as nothing, because the mode may also be given as an
object with the mode as its member, and how empty that member must be
depends on where the specification stands.
-/
import ClusterBackup.Spec
import ClusterBackup.Json.Reader

namespace ClusterBackup

open Json (Draft Fault)

/-- The collection that a draft names. -/
def Json.Draft.collection? (d : Draft) : Except Fault Collection := do
  match Collection.ofName? (← d.text?) with
  | .ok c => return c
  | .error _ => .error .mismatched

/-- The mode that a draft names. -/
def Json.Draft.mode? (hollow : Draft → Bool) : Draft → Except Fault Mode :=
  Draft.choice? ([Mode.sync, .async].map fun m => (m.label, m)) hollow

namespace SnapshotRequest

def toJson (r : SnapshotRequest) : Json :=
  .object [("collection", .string r.collection.name), ("location", .ofText? r.location),
    ("backupName", .ofText? r.backupName)]

end SnapshotRequest

namespace BackupSpec

/-- The members, in their order. -/
def fieldNames : List String := ["collection", "location", "backupName", "mode"]

/-- The members with their values. -/
def fields (s : BackupSpec) : List (String × Json) :=
  [("collection", .string s.collection.name), ("location", .ofText? s.location),
    ("backupName", .ofText? s.backupName), ("mode", .string s.mode.label)]

def toJson (s : BackupSpec) : Json := .object s.fields

/-- The specification of a record. -/
def ofRecord (hollow : Draft → Bool) (r : Draft.Record) : Except Fault BackupSpec := do
  let collection ← r.required "collection" Draft.collection?
  let location ← r.defaulted "location" none (Draft.optional? Draft.text?)
  let backupName ← r.defaulted "backupName" none (Draft.optional? Draft.text?)
  let mode ← r.defaulted "mode" .sync (Draft.mode? hollow)
  return { collection, location, backupName, mode }

/-- The specification that a draft writes. -/
def read (d : Draft) : Except Fault BackupSpec := do
  ofRecord Draft.isNull (← d.record fieldNames)

end BackupSpec

namespace RestoreSpec

/-- The members, in their order. -/
def fieldNames : List String := ["collection", "location", "backupName", "mode", "force"]

/-- The members with their values. -/
def fields (s : RestoreSpec) : List (String × Json) :=
  [("collection", .string s.collection.name), ("location", .ofText? s.location),
    ("backupName", .ofText? s.backupName), ("mode", .string s.mode.label),
    ("force", .bool s.force)]

def toJson (s : RestoreSpec) : Json := .object s.fields

/-- The specification of a record. -/
def ofRecord (hollow : Draft → Bool) (r : Draft.Record) : Except Fault RestoreSpec := do
  let collection ← r.required "collection" Draft.collection?
  let location ← r.defaulted "location" none (Draft.optional? Draft.text?)
  let backupName ← r.defaulted "backupName" none (Draft.optional? Draft.text?)
  let mode ← r.defaulted "mode" .sync (Draft.mode? hollow)
  let force ← r.defaulted "force" false Draft.flag?
  return { collection, location, backupName, mode, force }

/-- The specification that a draft writes. -/
def read (d : Draft) : Except Fault RestoreSpec := do
  ofRecord Draft.isNull (← d.record fieldNames)

end RestoreSpec

end ClusterBackup
