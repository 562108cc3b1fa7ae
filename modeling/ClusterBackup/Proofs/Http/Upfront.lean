/-
ClusterBackup.Proofs.Http.Upfront — a cluster behind HTTP is upfront.

A request is settled once it carries a name that is not blank. What
`prepareRestore` gives back is settled, and the name of a settled request
is found without looking at any file, so no later call can fail for want
of one: the files may change between the preparation and the restore. All
other errors are the network's or the cluster's.
-/
import ClusterBackup.Proofs.Http.Call
import ClusterBackup.Proofs.Snapshot.Latest
import ClusterBackup.Proofs.Upfront

namespace ClusterBackup.Http

/-! ## Settled requests -/

/-- The request has a name of its own. -/
def Settled (q : SnapshotRequest) : Prop := ∃ name, q.backupName.bind Text.nonBlank? = some name

theorem nonBlank?_eq_some {s t : String} (h : Text.nonBlank? s = some t) :
    s = t ∧ Text.isBlank t = false := by
  unfold Text.nonBlank? at h
  split at h
  · cases h
  · next solid =>
    cases h
    exact ⟨rfl, by simpa using solid⟩

theorem settled_of_solid {q : SnapshotRequest} {name : String} (named : q.backupName = some name)
    (solid : Text.isBlank name = false) : Settled q :=
  ⟨name, by simp [named, Text.nonBlank?, solid]⟩

variable {c : Config} {env : Surroundings} {operation : Operation}

/-- A settled request has its name, whatever the moment and the files are. -/
theorem backupName_of_settled {q : SnapshotRequest} (h : Settled q) :
    ∃ name, backupName c env operation q = .ok name := by
  obtain ⟨name, given⟩ := h
  exact ⟨name, by simp [backupName, given]⟩

/-- The latest backup at a location has a name that is not blank. -/
theorem isBlank_of_resolve? {location name : String}
    (h : Snapshot.resolve? env.files location = .ok (some name)) : Text.isBlank name = false := by
  unfold Snapshot.resolve? at h
  split at h
  · cases h
  · rw [Except.ok.injEq] at h
    obtain ⟨-, t, told, -⟩ := Snapshot.mem_of_latest? h
    exact Snapshot.isBlank_of_timestamp? told

/-- A name that was found for a restore is not blank. -/
theorem isBlank_of_backupName {r : SnapshotRequest} {name : String}
    (h : backupName c env .restore r = .ok name) : Text.isBlank name = false := by
  unfold backupName at h
  split at h
  · next given =>
    cases h
    obtain ⟨s, -, solid⟩ := Option.bind_eq_some_iff.mp given
    exact (nonBlank?_eq_some solid).2
  · simp only at h
    split at h
    · cases h
    · next location _ =>
      cases resolved : Snapshot.resolve? env.files location with
      | error e =>
        rw [resolved] at h
        cases h
      | ok found =>
        rw [resolved] at h
        cases found with
        | none => cases h
        | some name' =>
          cases h
          exact isBlank_of_resolve? resolved

/-- A preparation that succeeds puts in a name that is not blank, and changes nothing else. -/
theorem prepared_eq {ν : Type} {t : Transport ν} {s : State ν} {r q : SnapshotRequest}
    (prepared : (answer c env t (.prepareRestore r) s).1 = .ok q) :
    ∃ name, q = { r with backupName := some name } ∧ Text.isBlank name = false := by
  rw [answer] at prepared
  cases found : backupName c env .restore r with
  | error e =>
    rw [found] at prepared
    cases prepared
  | ok name =>
    rw [found] at prepared
    cases prepared
    exact ⟨name, rfl, isBlank_of_backupName found⟩

/-- The parameters of a request are found once it is settled; those of a backup always are. -/
theorem snapshotParams_ok {q : SnapshotRequest} (h : operation = .restore → Settled q) :
    ∃ params, snapshotParams c env operation q = .ok params := by
  have named : ∃ name, backupName c env operation q = .ok name := by
    cases operation with
    | restore => exact backupName_of_settled (h rfl)
    | backup =>
      unfold backupName
      split
      · exact ⟨_, rfl⟩
      · exact ⟨_, rfl⟩
  obtain ⟨name, named⟩ := named
  exact ⟨_, by rw [snapshotParams, named]; rfl⟩

/-! ## Errors of the network and of the cluster -/

variable {ν : Type} {t : Transport ν}

theorem blameless_bodyOf (r : Response) : Blameless (bodyOf r) := by
  unfold bodyOf
  split
  · exact .ok _
  · exact .error nofun

theorem blameless_send (url : String) (params : Params) (s : State ν) :
    Blameless (send t url params s).1 := by
  unfold send
  split
  · exact .error nofun
  · simp only
    split
    · exact .error nofun
    · exact blameless_bodyOf _

/-- A plan is blameless if what it settles on is, or what it reads off any body. -/
inductive Plan.Harmless {α : Type} : Plan α → Prop where
  | settled {answer : Except Error α} (blameless : Blameless answer) : Harmless (.settled answer)
  | posted (url : String) (params : Params) (nextId : Nat) {read : Json → Except Error α}
      (blameless : ∀ body, Blameless (read body)) : Harmless (.posted url params nextId read)

theorem Plan.Harmless.carryOut {α : Type} {p : Plan α} (h : p.Harmless) (s : State ν) :
    Blameless (p.carryOut t s).1 := by
  cases h with
  | settled blameless => exact blameless
  | posted url params nextId blameless =>
    have sent := blameless_send (t := t) url params { s with nextId }
    rw [Plan.carryOut]
    -- Unfolding `send` would have the URL computed: its result is any pair from here on.
    generalize send t url params { s with nextId } = answer at sent ⊢
    exact sent.bind blameless

theorem blameless_response (body : Json) : Blameless (AdminResponse.ofBody? body) := by
  unfold AdminResponse.ofBody?
  split
  · exact .error nofun
  · split
    · exact .ok _
    · exact .error nofun

theorem blameless_status (body : Json) : Blameless (RawJobStatus.ofBody? body) := by
  unfold RawJobStatus.ofBody?
  split
  · exact .error nofun
  · exact .ok _

theorem blameless_listHas (collection : Collection) (body : Json) :
    Blameless (listHas collection body) := by
  refine (blameless_response body).bind fun r => ?_
  split
  · split
    · exact .ok _
    · exact .error nofun
  · exact .error nofun

theorem blameless_submissionOf (id : String) (body : Json) :
    Blameless (submissionOf id body) := by
  refine (blameless_response body).bind fun r => ?_
  split
  · exact .ok _
  · exact .ok _

theorem harmless_runPlan {q : SnapshotRequest} (h : operation = .restore → Settled q)
    (number : Nat) : (runPlan c env number operation q).Harmless := by
  obtain ⟨params, found⟩ : ∃ params, snapshotParams c env operation q = .ok params :=
    snapshotParams_ok h
  rw [runPlan, found]
  exact .posted _ _ _ blameless_response

theorem harmless_submitPlan {q : SnapshotRequest} (h : operation = .restore → Settled q)
    (number : Nat) : (submitPlan c env number operation q).Harmless := by
  obtain ⟨params, found⟩ : ∃ params, snapshotParams c env operation q = .ok params :=
    snapshotParams_ok h
  rw [submitPlan, found]
  exact .posted _ _ _ (blameless_submissionOf _)

/-- Whatever is sent with a settled request comes back with no fault of the caller's. -/
theorem blameless_answer {call : AdminCall} (sent : Sendable Settled call) (s : State ν) :
    Blameless (answer c env t call s).1 := by
  rw [answer_eq]
  refine Plan.Harmless.carryOut ?_ s
  cases call with
  | prepareRestore r => cases sent
  | collectionExists collection => exact .posted _ _ _ (blameless_listHas collection)
  | delete collection => exact .posted _ _ _ blameless_response
  | backup r =>
    have unconditional : Operation.backup = .restore → Settled r := nofun
    exact harmless_runPlan unconditional _
  | submitBackup r =>
    have unconditional : Operation.backup = .restore → Settled r := nofun
    exact harmless_submitPlan unconditional _
  | restore r => exact harmless_runPlan (fun _ => sent) _
  | submitRestore r => exact harmless_submitPlan (fun _ => sent) _
  | optimize collection => exact .posted _ _ _ blameless_response
  | queryStatus requestId => exact .posted _ _ _ blameless_status

/-! ## The client -/

/-- The client finds fault with a restore in its preparation, and with nothing after that. -/
theorem upfront (c : Config) (env : Nat → Surroundings) (t : Transport ν) :
    Upfront (fun n => client c (env n) t) Settled where
  leaves _ _ _ := rfl
  settles n r s q prepared := by
    change (answer c (env n) t (.prepareRestore r) s).1 = .ok q at prepared
    obtain ⟨name, rfl, solid⟩ := prepared_eq prepared
    exact settled_of_solid rfl solid
  blameless n call s sent := by
    change Blameless (answer c (env n) t call s).1
    exact blameless_answer sent s

end ClusterBackup.Http
