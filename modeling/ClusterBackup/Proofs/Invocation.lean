/-
ClusterBackup.Proofs.Invocation — what a request settles on.

`Malformed` lists the requests that are neither an issuance nor a status
query: these are refused as invalid arguments when they are resolved, and
no others. A status query that is not malformed keeps its request id,
without the white space around it.
-/
import ClusterBackup.Invocation
import ClusterBackup.Proofs.Text.Blank

namespace ClusterBackup.JobRequest

variable {S : Type} {r : JobRequest S}

/-- A request id is given exactly if there is one that is not blank. -/
theorem givenId_eq_some_iff {given : String} :
    r.givenId = some given ↔
      ∃ id, r.requestId = some id ∧ Text.isBlank id = false ∧ Text.trim id = given := by
  rw [givenId]
  cases r.requestId with
  | none => simp
  | some id =>
    simp only [Option.map_some, Option.some.injEq, exists_eq_left']
    split
    · next blank =>
      rw [Option.some.injEq, Text.trim_eq_empty_iff] at blank
      simp [blank]
    · next none => cases none
    · next trimmed nonempty same =>
      rw [Option.some.injEq] at same
      subst same
      have solid : Text.isBlank id = false := by
        rw [Bool.eq_false_iff, ne_eq, ← Text.trim_eq_empty_iff]
        exact fun blank => nonempty (by rw [blank])
      simp [solid]

variable [JobSpec S]

/-- Requests that are neither an issuance nor a status query. -/
inductive Malformed (r : JobRequest S) : Prop where
  /-- A status query that is to be queued itself. -/
  | asyncStatus (status : r.status = true) (async : JobSpec.mode r.spec = .async)
  /-- A status query without a request id, or with a blank one. -/
  | missingId (status : r.status = true)
      (blank : ∀ id, r.requestId = some id → Text.isBlank id = true)
  /-- An issuance with a request id. -/
  | strayId (status : r.status = false) {id : String} (given : r.requestId = some id)
      (solid : Text.isBlank id = false)

/-- What a request that is not malformed settles on. -/
theorem resolve_of_not_malformed (h : ¬ r.Malformed) :
    (r.status = false ∧ r.resolve = .ok (.issue r.spec)) ∨
      ∃ id, r.status = true ∧ r.requestId = some id ∧ Text.isBlank id = false ∧
        r.resolve = .ok (.status (Text.trim id)) := by
  cases status : r.status with
  | false =>
    refine .inl ⟨rfl, ?_⟩
    have none_given : r.givenId = none := by
      rw [Option.eq_none_iff_forall_ne_some]
      intro given found
      obtain ⟨id, asked, solid, -⟩ := givenId_eq_some_iff.mp found
      exact h (.strayId status asked solid)
    simp [resolve, status, none_given]
  | true =>
    refine .inr ?_
    have sync : JobSpec.mode r.spec ≠ .async := fun async => h (.asyncStatus status async)
    cases asked : r.requestId with
    | none => exact absurd (.missingId status (by simp [asked])) h
    | some id =>
      cases solid : Text.isBlank id with
      | true => exact absurd (.missingId status (by simp [asked, solid])) h
      | false =>
        have given : r.givenId = some (Text.trim id) :=
          givenId_eq_some_iff.mpr ⟨id, asked, solid, rfl⟩
        exact ⟨id, rfl, rfl, solid, by simp [resolve, status, sync, given]⟩

/-- A request for the status settles on an id with nothing to trim as it is. -/
theorem resolve_statusOf {spec : S} {id : String} (mode : JobSpec.mode spec ≠ .async)
    (trimmed : Text.trim id = id) (something : id ≠ "") :
    (statusOf spec id).resolve = .ok (.status id) := by
  have solid : Text.isBlank id = false := by
    rw [Bool.eq_false_iff, ne_eq, ← Text.trim_eq_empty_iff, trimmed]
    exact something
  have given : (statusOf spec id).givenId = some id :=
    givenId_eq_some_iff.mpr ⟨id, rfl, solid, trimmed⟩
  rw [resolve, given]
  simp [statusOf, mode]

/-- A malformed request settles on nothing. -/
theorem resolve_of_malformed (h : r.Malformed) :
    ∃ reason, r.resolve = .error (.invalidArgument reason) := by
  cases h with
  | asyncStatus status async => exact ⟨_, by simp [resolve, status, async]; rfl⟩
  | missingId status blank =>
    by_cases async : JobSpec.mode r.spec = .async
    · exact ⟨_, by simp [resolve, status, async]; rfl⟩
    · have none_given : r.givenId = none := by
        rw [Option.eq_none_iff_forall_ne_some]
        intro given found
        obtain ⟨id, asked, solid, -⟩ := givenId_eq_some_iff.mp found
        rw [blank id asked] at solid
        contradiction
      exact ⟨_, by simp [resolve, status, async, none_given]; rfl⟩
  | strayId status given solid =>
    have given : r.givenId = some _ := givenId_eq_some_iff.mpr ⟨_, given, solid, rfl⟩
    exact ⟨_, by simp [resolve, status, given]; rfl⟩

end ClusterBackup.JobRequest
