/-
ClusterBackup.Proofs.Outcome.Json — outcomes are read back from their JSON.

Each part first: the words for kinds and states, a failure that the cluster
listed, a status. Every record is read member by member, in the order of
its reader, and what its writer left out is nothing. `readText_write` puts
them together: the text of an outcome is the outcome.
-/
import ClusterBackup.Outcome.Json
import ClusterBackup.Proofs.Json.Records

namespace ClusterBackup

open Json (Draft required_of_mem nullable_of_mem nullable_of_missing)
open Json.Draft (Record)

theorem FailureKind.read_word (k : FailureKind) : read (Json.string k.word).draft = .ok k := by
  cases k <;> rfl

theorem JobState.read_word (s : JobState) : read (Json.string s.word).draft = .ok s := by
  cases s <;> rfl

theorem FailureDetail.read_toJson (e : FailureDetail) : read e.toJson.draft = .ok e := by
  have found : e.toJson.draft.record ["name", "value"] =
      .ok (.ofMembers [("name", .string e.name), ("value", .string e.value)]) :=
    Json.record_draft (.refl _) (by decide)
  rw [read, found]
  rfl

theorem FailureDetail.numberless_toJson (e : FailureDetail) : e.toJson.numberless = true := rfl

/-- A list of failures has no numbers in it. -/
theorem FailureDetail.numberless_list (errors : List FailureDetail) :
    (Json.array (errors.map toJson)).numberless = true := by
  rw [Json.numberless_array, List.forall_mem_map]
  exact fun e _ => e.numberless_toJson

namespace JobStatus

/-- The members that a status is written with. -/
def members (s : JobStatus) : List (String × Json) :=
  [("requestId", .string s.requestId), ("state", .string s.state.word),
    ("errors", .array (s.errors.map FailureDetail.toJson))]
    ++ Json.member? "message" (s.message.map .string)

theorem names_members (s : JobStatus) :
    (s.members.map Prod.fst).Sublist ["requestId", "state", "errors", "message"] := by
  rw [members, List.map_append]
  exact (List.Sublist.refl _).append (Json.names_member?_sublist "message" _)

theorem read_toJson (s : JobStatus) : read s.toJson.draft = .ok s := by
  have ordered := s.names_members
  have distinct : (s.members.map Prod.fst).Nodup := ordered.nodup (by decide)
  have requestId : (Record.ofMembers s.members).required "requestId" Draft.text? =
      .ok s.requestId := required_of_mem distinct (v := .string s.requestId) (by simp [members])
  have state : (Record.ofMembers s.members).required "state" JobState.read = .ok s.state :=
    (required_of_mem distinct (by simp [members])).trans s.state.read_word
  have errors : (Record.ofMembers s.members).required "errors" (Draft.list? FailureDetail.read) =
      .ok s.errors :=
    (required_of_mem distinct (by simp [members])).trans (Json.list?_array fun e _ => e.read_toJson)
  have message : (Record.ofMembers s.members).nullable "message" Draft.text? = .ok s.message := by
    cases said : s.message with
    | none => exact nullable_of_missing (by simp [members, said])
    | some text => exact nullable_of_mem distinct (v := .string text) (by simp [members, said])
  have found := Json.record_draft ordered (by decide)
  rw [read, toJson, ← members, found, ok_bind, requestId, ok_bind, state, ok_bind, errors, ok_bind,
    message]
  rfl

theorem numberless_toJson (s : JobStatus) : s.toJson.numberless = true := by
  rw [toJson, Json.numberless_object, List.forall_mem_append]
  constructor
  · simp only [List.forall_mem_cons]
    exact ⟨rfl, rfl, FailureDetail.numberless_list s.errors, nofun⟩
  · rintro ⟨name, v⟩ mem
    rw [Json.mem_member?, Option.map_eq_some_iff] at mem
    obtain ⟨-, text, -, rfl⟩ := mem
    rfl

end JobStatus

namespace Outcome

/-- The members that an outcome is written with. -/
def members (o : Outcome) : List (String × Json) :=
  [("success", .bool o.success), ("requestId", .ofText? o.requestId),
    ("errors", .array (o.errors.map FailureDetail.toJson)), ("message", .string o.message)]
    ++ Json.member? "kind" (o.kind.map fun k => .string k.word)
    ++ Json.member? "jobStatus" (o.jobStatus.map JobStatus.toJson)

theorem names_members (o : Outcome) : (o.members.map Prod.fst).Sublist
    ["success", "requestId", "errors", "message", "kind", "jobStatus"] := by
  rw [members, List.map_append, List.map_append]
  exact ((List.Sublist.refl _).append (Json.names_member?_sublist "kind" _)).append
    (Json.names_member?_sublist "jobStatus" _)

theorem read_toJson (o : Outcome) : read o.toJson.draft = .ok o := by
  have ordered := o.names_members
  have distinct : (o.members.map Prod.fst).Nodup := ordered.nodup (by decide)
  have success : (Record.ofMembers o.members).required "success" Draft.flag? = .ok o.success :=
    required_of_mem distinct (v := .bool o.success) (by simp [members])
  have requestId : (Record.ofMembers o.members).nullable "requestId" Draft.text? =
      .ok o.requestId :=
    (nullable_of_mem distinct (by simp [members])).trans (Json.optional?_ofText? o.requestId)
  have errors : (Record.ofMembers o.members).required "errors" (Draft.list? FailureDetail.read) =
      .ok o.errors :=
    (required_of_mem distinct (by simp [members])).trans (Json.list?_array fun e _ => e.read_toJson)
  have message : (Record.ofMembers o.members).required "message" Draft.text? = .ok o.message :=
    required_of_mem distinct (v := .string o.message) (by simp [members])
  have kind : (Record.ofMembers o.members).nullable "kind" FailureKind.read = .ok o.kind := by
    cases given : o.kind with
    | none => exact nullable_of_missing (by simp [members, given])
    | some k =>
      rw [nullable_of_mem distinct (v := .string k.word) (by simp [members, given])]
      exact congrArg (·.map some) k.read_word
  have jobStatus : (Record.ofMembers o.members).nullable "jobStatus" JobStatus.read =
      .ok o.jobStatus := by
    cases given : o.jobStatus with
    | none => exact nullable_of_missing (by simp [members, given])
    | some status =>
      rw [nullable_of_mem distinct (v := status.toJson) (by simp [members, given])]
      exact congrArg (·.map some) status.read_toJson
  have found := Json.record_draft ordered (by decide)
  rw [read, toJson, ← members, found, ok_bind, success, ok_bind, requestId, ok_bind, errors, ok_bind,
    message, ok_bind, kind, ok_bind, jobStatus]
  rfl

theorem numberless_toJson (o : Outcome) : o.toJson.numberless = true := by
  rw [toJson, Json.numberless_object, List.forall_mem_append, List.forall_mem_append]
  refine ⟨⟨?_, ?_⟩, ?_⟩
  · have requestId := Json.numberless_of_isPlain (Json.isPlain_ofText? o.requestId)
    simp only [List.forall_mem_cons]
    exact ⟨rfl, requestId, FailureDetail.numberless_list o.errors, rfl, nofun⟩
  · rintro ⟨name, v⟩ mem
    rw [Json.mem_member?, Option.map_eq_some_iff] at mem
    obtain ⟨-, k, -, rfl⟩ := mem
    rfl
  · rintro ⟨name, v⟩ mem
    rw [Json.mem_member?, Option.map_eq_some_iff] at mem
    obtain ⟨-, status, -, rfl⟩ := mem
    exact status.numberless_toJson

/-- **An outcome is read back from its text**, whatever strings it holds and whichever of its parts
are missing. -/
theorem readText_write (o : Outcome) : Json.readText read o.toJson.write = .ok o :=
  Json.readText_write o.numberless_toJson o.read_toJson

end Outcome

end ClusterBackup
