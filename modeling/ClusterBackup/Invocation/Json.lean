/-
ClusterBackup.Invocation.Json — requests as JSON.

A request is one flat object: the members of its specification, a flag and
a request id. Reading takes the members in the order of the text. Flag and
id are read where they stand; every other member has to be a JSON value,
known or not, and is kept until the object is closed. Only then is the
specification read from what was kept.
-/
import ClusterBackup.Invocation
import ClusterBackup.Spec.Json

namespace ClusterBackup

open Json (Draft Fault)

/-- Specifications that are the flat part of a request. -/
class FlatSpec (S : Type) extends JobSpec S where
  fieldNames : List String
  fields : S → List (String × Json)
  ofRecord : (Draft → Bool) → Draft.Record → Except Fault S

instance : FlatSpec BackupSpec :=
  { fieldNames := BackupSpec.fieldNames, fields := BackupSpec.fields,
    ofRecord := BackupSpec.ofRecord }

instance : FlatSpec RestoreSpec :=
  { fieldNames := RestoreSpec.fieldNames, fields := RestoreSpec.fields,
    ofRecord := RestoreSpec.ofRecord }

namespace JobRequest

variable {S : Type} [FlatSpec S]

def toJson (r : JobRequest S) : Json :=
  .object (FlatSpec.fields r.spec
    ++ [("status", .bool r.status), ("requestId", .ofText? r.requestId)])

/-- What has been read of a request: the flag and the id where they came up, and the other members
in reverse order. -/
structure Gathered where
  status : Option Bool := none
  requestId : Option (Option String) := none
  kept : List (String × Draft) := []

namespace Gathered

/-- Takes the next member. -/
def add (g : Gathered) : Option String × Draft → Except Fault Gathered
  | (none, _) => .error .malformed
  | (some "status", d) =>
    if g.status.isSome then .error .mismatched
    else do return { g with status := some (← d.flag?) }
  | (some "requestId", d) =>
    if g.requestId.isSome then .error .mismatched
    else do return { g with requestId := some (← d.optional? Draft.text?) }
  | (some name, d) => do
    let _ ← d.value? (Draft.depthLimit - 1)
    return { g with kept := (name, d) :: g.kept }

end Gathered

/-- The request that a draft writes. -/
def read : Draft → Except Fault (JobRequest S)
  | .object members closed => do
    let g ← members.foldlM Gathered.add {}
    if closed then
      let found ← Draft.knownMembers (FlatSpec.fieldNames S) []
        (g.kept.reverse.map fun m => (some m.1, m.2))
      let spec ← FlatSpec.ofRecord Draft.isEmptyValue ⟨false, found⟩
      return { spec, status := g.status.getD false, requestId := g.requestId.join }
    else .error .malformed
  | d => .error d.refusal

end JobRequest

end ClusterBackup
