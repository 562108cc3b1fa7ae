/-
ClusterBackup.Proofs.Pollable — whether a job that was accepted can be asked
about.

A status query trims the id that it is given and refuses a blank one. So it
asks for the very id exactly if there is something to ask for and nothing
to trim. The ids of a simulated cluster are of this kind, and so are those
that the client behind HTTP makes itself, since they start with a letter
and end in a digit. But a cluster behind HTTP may name the job in its
answer, and that name is taken as it is: a query for it fails its purpose
exactly if the name is blank or has white space at an end.
-/
import ClusterBackup.Proofs.Http.RequestIds
import ClusterBackup.Proofs.InvalidArgument
import ClusterBackup.Proofs.Outcome.WellFormed
import ClusterBackup.Proofs.Simulated.Findings

namespace ClusterBackup

/-- The entries that ask about a job: the queries of the workflows, and requests for the status
whose specification is not to be queued. -/
inductive Entry.AsksAbout (id : String) : Entry → Prop where
  | query (operation : Operation) : AsksAbout id (.status operation id)
  | backup {spec : BackupSpec} (mode : spec.mode = .sync) :
      AsksAbout id (.runBackup (.statusOf spec id))
  | restore {spec : RestoreSpec} (mode : spec.mode = .sync) :
      AsksAbout id (.runRestore (.statusOf spec id))

/-- A client can be asked about a job: no such entry is refused as an invalid argument, and each
asks the cluster once, for the very id. -/
def Pollable {σ : Type} (client : Client σ) (s : σ) (id : String) : Prop :=
  ∀ entry : Entry, entry.AsksAbout id →
    (entry.workflow.run client s).result.kind ≠ some .invalidArgument ∧
      entry.workflow.calls client s = [.queryStatus id]

/-! ## Which ids can be asked about -/

/-- An id with nothing to trim is what an entry asks about. -/
theorem Entry.AsksAbout.errand_eq {id : String} {entry : Entry} (h : entry.AsksAbout id)
    (trimmed : Text.trim id = id) (something : id ≠ "") :
    ∃ operation, entry.errand = .query operation id := by
  cases h with
  | query operation => exact ⟨operation, rfl⟩
  | @backup spec mode =>
    have sync : JobSpec.mode spec ≠ .async := by simp [JobSpec.mode, mode]
    exact ⟨.backup, by rw [errand, JobRequest.resolve_statusOf sync trimmed something]; rfl⟩
  | @restore spec mode =>
    have sync : JobSpec.mode spec ≠ .async := by simp [JobSpec.mode, mode]
    exact ⟨.restore, by rw [errand, JobRequest.resolve_statusOf sync trimmed something]; rfl⟩

section

variable {σ : Type} {clients : Nat → Client σ} {Settled : SnapshotRequest → Prop} {id : String}

/-- An upfront client can be asked about exactly the ids with something in them and nothing to
trim. -/
theorem Upfront.pollable_iff (h : Upfront clients Settled) (s : σ × Nat) :
    Pollable (.overTime clients) s id ↔ Text.trim id = id ∧ id ≠ "" := by
  constructor
  · intro pollable
    have asked := (pollable (.status .backup id) (.query .backup)).2
    have course : JobStatus.Course .backup id _ _ :=
      Entry.course (.overTime clients) (.status .backup id) s
    have something : Text.trim id ≠ "" := by
      intro nothing
      rw [Workflow.calls, course.calls_eq_nil nothing] at asked
      cases asked
    rw [Workflow.calls, course.calls_eq something] at asked
    have trimmed : Text.trim id = id := by simpa using asked
    exact ⟨trimmed, trimmed ▸ something⟩
  · rintro ⟨trimmed, something⟩ entry asks
    obtain ⟨operation, errand⟩ := asks.errand_eq trimmed something
    have course := entry.course (.overTime clients) s
    rw [errand] at course
    have solid : Text.trim id ≠ "" := by rwa [trimmed]
    have replayed := Workflow.replays_transcript (.overTime clients) entry.workflow s
    refine ⟨h.query_kind_ne course replayed solid, ?_⟩
    rw [Workflow.calls, JobStatus.Course.calls_eq course solid, trimmed]

end

/-! ## The ids that are accepted -/

/-- An id that an entry ends with is one that the client accepted a job under. -/
theorem Entry.accepted_of_requestId {σ : Type} {client : Client σ} {entry : Entry} {s : σ}
    {id : String} (found : (entry.workflow.run client s).result.requestId = some id) :
    ∃ s' r, (client.answer (.submitBackup r) s').1 = .ok (.accepted id) ∨
      (client.answer (.submitRestore r) s').1 = .ok (.accepted id) := by
  have accepted := ((every_outcome_settles client s entry).requestId_iff id).mp found
  generalize entry.errand = errand at accepted
  cases accepted with
  | backup mode answered =>
    obtain ⟨s', -, answer⟩ := Workflow.answered_transcript_iff.mp answered
    exact ⟨s', _, .inl answer⟩
  | restore mode answered =>
    obtain ⟨s', -, answer⟩ := Workflow.answered_transcript_iff.mp answered
    exact ⟨s', _, .inr answer⟩

/-- The ids of a simulated cluster are those that it makes. -/
theorem Simulated.Cluster.jobId_of_accepted {now : DateTime} {s : Cluster} {r : SnapshotRequest}
    {id : String} (accepted : (answer now (.submitBackup r) s).1 = .ok (.accepted id) ∨
      (answer now (.submitRestore r) s).1 = .ok (.accepted id)) :
    ∃ operation number, id = jobId operation number := by
  rcases accepted with accepted | accepted
  · rw [answer_eq] at accepted
    split at accepted
    · next fault met => cases fault <;> cases accepted
    · cases accepted
      exact ⟨.backup, _, rfl⟩
  · rw [answer_eq] at accepted
    split at accepted
    · next fault met => cases fault <;> cases accepted
    · cases accepted
      exact ⟨.restore, _, rfl⟩

namespace Http

variable {ν : Type} {c : Config} {env : Surroundings} {t : Transport ν} {s : State ν} {id : String}

/-- There is nothing to trim from an id that the client makes. -/
theorem trim_jobId (operation : Operation) (collection : Collection) (now : DateTime)
    (number : Nat) :
    Text.trim (jobId operation collection now number) =
      jobId operation collection now number :=
  have clean := clean_jobId operation collection now number
  Text.trim_eq_self_of_ends clean.first clean.last

theorem jobId_ne_empty (operation : Operation) (collection : Collection) (now : DateTime)
    (number : Nat) : jobId operation collection now number ≠ "" :=
  (clean_jobId operation collection now number).something

/-- A job is accepted under the client's own id, or under the one that the body names. -/
theorem id_of_submissionOf {own : String} {body : Json}
    (accepted : submissionOf own body = .ok (.accepted id)) :
    id = own ∨ body.get? "requestid" = some (.string id) := by
  cases read : AdminResponse.ofBody? body with
  | error e =>
    rw [submissionOf, read] at accepted
    cases accepted
  | ok r =>
    cases success : r.isSuccess with
    | false =>
      rw [submissionOf_of_failure own read success] at accepted
      cases accepted
    | true =>
      rw [submissionOf_of_success own read success, Except.ok.injEq,
        Submission.accepted.injEq] at accepted
      rw [← accepted]
      cases body.get? "requestid" with
      | none => exact .inl rfl
      | some v =>
        cases v with
        | string named => exact .inr rfl
        | _ => exact .inl rfl

theorem id_of_submitPlan {operation : Operation} {r : SnapshotRequest}
    (accepted : ((submitPlan c env s.nextId operation r).carryOut t s).1 = .ok (.accepted id)) :
    id = jobId operation r.collection env.now s.nextId ∨
      ∃ u body, t.Gives s.network u body ∧ body.get? "requestid" = some (.string id) := by
  unfold submitPlan at accepted
  cases found : snapshotParams c env operation r with
  | error e =>
    rw [found] at accepted
    cases accepted
  | ok params =>
    rw [found] at accepted
    obtain ⟨u, body, -, gives, read⟩ := Plan.gives_of_carryOut_posted accepted
    exact (id_of_submissionOf read).imp_right fun named => ⟨u, body, gives, named⟩

/-- The ids of a cluster behind HTTP are those that the client makes and those that the cluster
names in its answers. -/
theorem id_of_accepted {r : SnapshotRequest}
    (accepted : (answer c env t (.submitBackup r) s).1 = .ok (.accepted id) ∨
      (answer c env t (.submitRestore r) s).1 = .ok (.accepted id)) :
    (∃ operation, id = jobId operation r.collection env.now s.nextId) ∨
      ∃ u body, t.Gives s.network u body ∧ body.get? "requestid" = some (.string id) := by
  rcases accepted with accepted | accepted
  · rw [answer_eq] at accepted
    exact (id_of_submitPlan accepted).imp_left fun own => ⟨.backup, own⟩
  · rw [answer_eq] at accepted
    exact (id_of_submitPlan accepted).imp_left fun own => ⟨.restore, own⟩

end Http

/-! ## Both clients -/

/-- **Which accepted jobs can be asked about.** Every job that a simulated cluster accepts can be
asked about, whatever state the cluster is in later. So can every job that a cluster behind HTTP
accepts under the id that the client made for it; a job that the cluster names in its answer can be
exactly if there is something to its name and nothing to trim. -/
theorem accepted_pollable_iff (clock : Nat → DateTime) {ν : Type} (c : Config)
    (env : Nat → Http.Surroundings) (t : Http.Transport ν) (entry : Entry) (id : String) :
    (∀ s : Simulated.Cluster × Nat,
      let client := Client.overTime fun n => Simulated.client (clock n)
      (entry.workflow.run client s).result.requestId = some id →
      ∀ later, Pollable client later id) ∧
    ∀ s : Http.State ν × Nat,
      let client := Client.overTime fun n => Http.client c (env n) t
      (entry.workflow.run client s).result.requestId = some id →
      ((∃ operation collection now number, id = Http.jobId operation collection now number) ∧
          ∀ later, Pollable client later id) ∨
        (∃ network u body, t.Gives network u body ∧ body.get? "requestid" = some (.string id)) ∧
          ∀ later, Pollable client later id ↔ Text.trim id = id ∧ id ≠ "" := by
  constructor
  · intro s client found later
    obtain ⟨⟨s', n⟩, r, accepted⟩ := Entry.accepted_of_requestId found
    simp only [client, Client.answer_overTime] at accepted
    obtain ⟨operation, number, rfl⟩ := Simulated.Cluster.jobId_of_accepted accepted
    exact ((Simulated.upfront clock).pollable_iff later).mpr
      ⟨Simulated.Cluster.trim_jobId operation number,
        Simulated.Cluster.jobId_ne_empty operation number⟩
  · intro s client found
    have iff : ∀ later, Pollable client later id ↔ Text.trim id = id ∧ id ≠ "" :=
      (Http.upfront c env t).pollable_iff
    obtain ⟨⟨s', n⟩, r, accepted⟩ := Entry.accepted_of_requestId found
    simp only [client, Client.answer_overTime, Http.client] at accepted
    rcases Http.id_of_accepted accepted with ⟨operation, rfl⟩ | ⟨u, body, gives, named⟩
    · exact .inl ⟨⟨operation, _, _, _, rfl⟩, fun later =>
        (iff later).mpr ⟨Http.trim_jobId _ _ _ _, Http.jobId_ne_empty _ _ _ _⟩⟩
    · exact .inr ⟨⟨_, u, body, gives, named⟩, iff⟩

/-- A network whose cluster accepts everything under a blank name. -/
def namelessly : Http.Transport Unit :=
  .replying (.ok ⟨200, Text.Utf8.encode
    "\x7b\"responseHeader\":\x7b\"status\":0\x7d,\"requestid\":\" \"\x7d".toList⟩)

/-- A backup that is queued by a simulated cluster, and one that is queued under a blank name. -/
theorem accepted_pollable_iff_blank :
    let entry := Entry.backup { collection := .default, mode := .async }
    let simulated := Client.overTime fun _ => Simulated.client Simulated.noon
    let http := Client.overTime fun _ => Http.client {} ⟨Simulated.noon, .empty⟩ namelessly
    let catalog := Simulated.Cluster.default.createCollection "catalog"
    (entry.workflow.run simulated (catalog, 0)).result.requestId = some "backup-00000001" ∧
      (∀ later, Pollable simulated later "backup-00000001") ∧
      (entry.workflow.run http (⟨0, ()⟩, 0)).result.requestId = some " " ∧
      ∀ later, ¬ Pollable http later " " := by
  intro entry simulated http catalog
  have queued : (entry.workflow.run simulated (catalog, 0)).result.requestId =
      some "backup-00000001" := by decide +kernel
  have nameless : (entry.workflow.run http (⟨0, ()⟩, 0)).result.requestId = some " " := by
    decide +kernel
  refine ⟨queued, (accepted_pollable_iff (fun _ => Simulated.noon) {} (fun _ =>
    ⟨Simulated.noon, .empty⟩) namelessly entry _).1 _ queued, nameless, fun later => ?_⟩
  rcases (accepted_pollable_iff (fun _ => Simulated.noon) {} (fun _ => ⟨Simulated.noon, .empty⟩)
    namelessly entry _).2 _ nameless with
    ⟨⟨operation, collection, now, number, own⟩, -⟩ | ⟨-, iff⟩
  · have trimmed := Http.trim_jobId operation collection now number
    rw [← own] at trimmed
    exact absurd trimmed (by decide)
  · rw [iff later]
    decide

end ClusterBackup
