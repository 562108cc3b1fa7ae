/-
ClusterBackup.Proofs.Invocation.Json — requests are read back from their
JSON.

A request reads its flag and its id where they stand and keeps the other
members for its specification. `LawfulFlatSpec` says what it takes of a
specification for this to work: its names are its own, its values are
plain, and it is read back from the record of its members. Both kinds of
specifications have it, so a request of either kind is read back from its
text (`JobRequest.read_toJson`).
-/
import ClusterBackup.Invocation.Json
import ClusterBackup.Proofs.Json.Records

namespace ClusterBackup

open Json (Draft required_of_mem defaulted_of_mem)
open Json.Draft (Record)

/-! ## Members of specifications -/

/-- A collection is what its name says. -/
theorem Collection.ofName?_name (c : Collection) : ofName? c.name = .ok c := by
  simp [ofName?, c.trimmed, c.nonempty]

theorem Json.Draft.collection?_name (c : Collection) :
    (Json.string c.name).draft.collection? = .ok c := by
  rw [Json.draft, collection?, text?, ok_bind, Collection.ofName?_name]
  rfl

theorem Json.Draft.mode?_label (hollow : Draft → Bool) (mode : Mode) :
    (Json.string mode.label).draft.mode? hollow = .ok mode := by
  cases mode <;> rfl

section

variable {members : List (String × Json)} (distinct : (members.map Prod.fst).Nodup)
include distinct

theorem Json.required_collection (c : Collection)
    (mem : ("collection", .string c.name) ∈ members) :
    (Record.ofMembers members).required "collection" Draft.collection? = .ok c :=
  (required_of_mem distinct mem).trans (Draft.collection?_name c)

theorem Json.defaulted_text (name : String) (o : Option String)
    (mem : (name, .ofText? o) ∈ members) :
    (Record.ofMembers members).defaulted name none (Draft.optional? Draft.text?) = .ok o :=
  (defaulted_of_mem distinct mem none).trans (optional?_ofText? o)

theorem Json.defaulted_mode (hollow : Draft → Bool) (mode : Mode)
    (mem : ("mode", .string mode.label) ∈ members) :
    (Record.ofMembers members).defaulted "mode" .sync (Draft.mode? hollow) = .ok mode :=
  (defaulted_of_mem distinct mem .sync).trans (Draft.mode?_label hollow mode)

end

/-! ## Specifications -/

/-- Specifications that are written under the names of their fields, none of them a name of the
request around them, as plain values, and that are read back from these. -/
class LawfulFlatSpec (S : Type) [FlatSpec S] : Prop where
  names : ∀ s : S, (FlatSpec.fields s).map Prod.fst = FlatSpec.fieldNames S
  distinct : (FlatSpec.fieldNames S).Nodup
  no_status : "status" ∉ FlatSpec.fieldNames S
  no_requestId : "requestId" ∉ FlatSpec.fieldNames S
  plain : ∀ s : S, ∀ m ∈ FlatSpec.fields s, m.2.isPlain = true
  ofRecord_fields : ∀ s : S,
    FlatSpec.ofRecord Draft.isEmptyValue (.ofMembers (FlatSpec.fields s)) = .ok s

theorem BackupSpec.ofRecord_fields (hollow : Draft → Bool) (s : BackupSpec) :
    ofRecord hollow (.ofMembers s.fields) = .ok s := by
  have distinct : (s.fields.map Prod.fst).Nodup := (by decide : fieldNames.Nodup)
  have collection := Json.required_collection distinct s.collection (.head _)
  have location := Json.defaulted_text distinct "location" s.location (by simp [fields])
  have backupName := Json.defaulted_text distinct "backupName" s.backupName (by simp [fields])
  have mode := Json.defaulted_mode distinct hollow s.mode (by simp [fields])
  rw [ofRecord, collection, ok_bind, location, ok_bind, backupName, ok_bind, mode]
  rfl

theorem RestoreSpec.ofRecord_fields (hollow : Draft → Bool) (s : RestoreSpec) :
    ofRecord hollow (.ofMembers s.fields) = .ok s := by
  have distinct : (s.fields.map Prod.fst).Nodup := (by decide : fieldNames.Nodup)
  have collection := Json.required_collection distinct s.collection (.head _)
  have location := Json.defaulted_text distinct "location" s.location (by simp [fields])
  have backupName := Json.defaulted_text distinct "backupName" s.backupName (by simp [fields])
  have mode := Json.defaulted_mode distinct hollow s.mode (by simp [fields])
  have force : (Record.ofMembers s.fields).defaulted "force" false Draft.flag? = .ok s.force :=
    defaulted_of_mem distinct (v := .bool s.force) (by simp [fields]) false
  rw [ofRecord, collection, ok_bind, location, ok_bind, backupName, ok_bind, mode, ok_bind, force]
  rfl

instance : LawfulFlatSpec BackupSpec where
  names _ := rfl
  distinct := by decide
  no_status := by decide
  no_requestId := by decide
  plain s := by simp [FlatSpec.fields, BackupSpec.fields]
  ofRecord_fields := BackupSpec.ofRecord_fields Draft.isEmptyValue

instance : LawfulFlatSpec RestoreSpec where
  names _ := rfl
  distinct := by decide
  no_status := by decide
  no_requestId := by decide
  plain s := by simp [FlatSpec.fields, RestoreSpec.fields]
  ofRecord_fields := RestoreSpec.ofRecord_fields Draft.isEmptyValue

/-! ## Requests -/

namespace JobRequest

/-- A member that is not the request's own is kept. -/
theorem Gathered.add_other (g : Gathered) {name : String} {v : Json} (status : name ≠ "status")
    (requestId : name ≠ "requestId") (plain : v.isPlain = true) :
    g.add (some name, v.draft) = .ok { g with kept := (name, v.draft) :: g.kept } := by
  unfold add
  split
  · next missing => cases missing
  · next same =>
    cases same
    exact absurd rfl status
  · next same =>
    cases same
    exact absurd rfl requestId
  · next same =>
    cases same
    rw [Json.value?_draft plain, ok_bind]
    rfl

/-- Members that are not the request's own are kept, the last one first. -/
theorem Gathered.foldlM_add (g : Gathered) {members : List (String × Json)}
    (status : "status" ∉ members.map Prod.fst) (requestId : "requestId" ∉ members.map Prod.fst)
    (plain : ∀ m ∈ members, m.2.isPlain = true) :
    (members.map fun m => (some m.1, m.2.draft)).foldlM Gathered.add g =
      .ok { g with kept := (Record.ofMembers members).members.reverse ++ g.kept } := by
  induction members generalizing g with
  | nil => rfl
  | cons m ms ih =>
    rw [List.map_cons, List.mem_cons, not_or] at status requestId
    have first := g.add_other (Ne.symm status.1) (Ne.symm requestId.1) (plain m (.head ms))
    have rest := ih { g with kept := (m.1, m.2.draft) :: g.kept } status.2 requestId.2
      fun m' mem => plain m' (.tail m mem)
    rw [List.map_cons, List.foldlM_cons, first, ok_bind, rest]
    simp [Record.ofMembers]

variable {S : Type} [FlatSpec S]

/-- The members that a request is written with. -/
def members (r : JobRequest S) : List (String × Json) :=
  FlatSpec.fields r.spec ++ [("status", .bool r.status), ("requestId", .ofText? r.requestId)]

variable [LawfulFlatSpec S] (r : JobRequest S)

/-- What is gathered of a request that was written. -/
theorem foldlM_add_members :
    (r.members.map fun m => (some m.1, m.2.draft)).foldlM Gathered.add {} =
      .ok { status := some r.status, requestId := some r.requestId,
            kept := (Record.ofMembers (FlatSpec.fields r.spec)).members.reverse } := by
  have names := LawfulFlatSpec.names r.spec
  have spec := Gathered.foldlM_add {} (names ▸ LawfulFlatSpec.no_status)
    (names ▸ LawfulFlatSpec.no_requestId) (LawfulFlatSpec.plain r.spec)
  rw [members, List.map_append, List.foldlM_append, spec, ok_bind]
  simp only [List.map_cons, List.map_nil, List.foldlM_cons, List.foldlM_nil, Gathered.add,
    Json.optional?_ofText?, List.append_nil]
  rfl

/-- **A request is read back from what was written**, whatever strings it holds. -/
theorem read_toJson : read r.toJson.draft = .ok r := by
  have ordered : ((FlatSpec.fields r.spec).map Prod.fst).Sublist (FlatSpec.fieldNames S) := by
    simp [LawfulFlatSpec.names r.spec]
  have known := Json.Draft.knownMembers_draft ordered LawfulFlatSpec.distinct
  have kept : (Record.ofMembers (FlatSpec.fields r.spec)).members.map (fun m => (some m.1, m.2)) =
      (FlatSpec.fields r.spec).map fun m => (some m.1, m.2.draft) := by
    rw [Record.ofMembers, List.map_map]
    rfl
  have spec : FlatSpec.ofRecord Draft.isEmptyValue
      ⟨false, (Record.ofMembers (FlatSpec.fields r.spec)).members⟩ = .ok r.spec :=
    LawfulFlatSpec.ofRecord_fields r.spec
  rw [toJson, ← members, Json.draft, Json.memberDrafts_eq, read, r.foldlM_add_members, ok_bind]
  simp only [if_true, List.reverse_reverse, kept, known, spec, ok_bind]
  rfl

theorem numberless_toJson : r.toJson.numberless = true := by
  rw [toJson, Json.numberless_object, List.forall_mem_append]
  constructor
  · intro m mem
    exact Json.numberless_of_isPlain (LawfulFlatSpec.plain r.spec m mem)
  · have requestId := Json.numberless_of_isPlain (Json.isPlain_ofText? r.requestId)
    simp only [List.forall_mem_cons]
    exact ⟨rfl, requestId, nofun⟩

end JobRequest

end ClusterBackup
