/-
ClusterBackup.Proofs.Upfront — clients that find fault with a request
before anything is touched, or not at all.

A client is upfront if its preparation of a restore leaves its state alone
and settles the request, and if it blames no other call on the caller,
once the request of a restore is settled. On such a client an outcome that
is an invalid argument means that the client is exactly as it was: nothing
was asked, or only the preparation.
-/
import ClusterBackup.Proofs.Entry

namespace ClusterBackup

/-- The error, if there is one, is not the caller's. -/
def Blameless {α : Type} (x : Except Error α) : Prop :=
  ∀ e, x = .error e → e.kind ≠ .invalidArgument

theorem Blameless.ok {α : Type} (a : α) : Blameless (.ok a) := by
  intro e h
  cases h

theorem Blameless.error {α : Type} {e : Error} (h : e.kind ≠ .invalidArgument) :
    Blameless (.error e : Except Error α) := by
  intro e' same
  cases same
  exact h

theorem Blameless.bind {α β : Type} {x : Except Error α} {f : α → Except Error β}
    (first : Blameless x) (rest : ∀ a, Blameless (f a)) : Blameless (x.bind f) := by
  cases x with
  | error e => exact .error (first e rfl)
  | ok a => exact rest a

/-- Calls that go to the cluster, with a settled request where they carry out a restore. -/
def Sendable (Settled : SnapshotRequest → Prop) : AdminCall → Prop
  | .prepareRestore _ => False
  | .restore q | .submitRestore q => Settled q
  | _ => True

/-- Clients that find fault with a request in its preparation or not at all. -/
structure Upfront {σ : Type} (clients : Nat → Client σ) (Settled : SnapshotRequest → Prop) :
    Prop where
  /-- The preparation changes nothing. -/
  leaves : ∀ n r s, ((clients n).answer (.prepareRestore r) s).2 = s
  /-- What was prepared is settled. -/
  settles : ∀ n r s q, ((clients n).answer (.prepareRestore r) s).1 = .ok q → Settled q
  /-- Nothing that is sent is blamed on the caller. -/
  blameless : ∀ n call s, Sendable Settled call → Blameless ((clients n).answer call s).1

/-- A state that a client cannot make sense of is no fault of the caller. -/
theorem JobStatus.blameless_ofRaw? (requestId : String) (raw : RawJobStatus) :
    Blameless (JobStatus.ofRaw? requestId raw) := by
  unfold JobStatus.ofRaw?
  split
  · exact .error nofun
  · exact .ok _

namespace Upfront

variable {σ : Type} {clients : Nat → Client σ} {Settled : SnapshotRequest → Prop}
  {t : List Exchange} {o : Outcome} {s : σ} {n : Nat} {s' : σ × Nat}

/-- An error that was answered to a call that was sent is no invalid argument. -/
theorem kind_ne (h : Upfront clients Settled) (call : AdminCall) {e : Error}
    (sent : Sendable Settled call)
    (answered : ((Client.overTime clients).answer call (s, n)).1 = .error e) :
    e.kind ≠ .invalidArgument :=
  h.blameless n call s sent e answered

theorem backup_kind_ne (h : Upfront clients Settled) {spec : BackupSpec}
    (course : Backup.Course spec t o)
    (replayed : Workflow.Replays (.overTime clients) (s, n) t s') :
    o.kind ≠ some .invalidArgument := by
  cases course with
  | unanswered mode e => simpa using h.kind_ne (.backup spec.request) trivial replayed.1
  | answered mode r => simp
  | unsubmitted mode e => simpa using h.kind_ne (.submitBackup spec.request) trivial replayed.1
  | submitted mode answer => cases answer <;> simp

theorem ending_kind_ne (h : Upfront clients Settled) {spec : RestoreSpec} {q : SnapshotRequest}
    (settled : Settled q) (course : Restore.Ending spec q t o)
    (replayed : Workflow.Replays (.overTime clients) (s, n) t s') :
    o.kind ≠ some .invalidArgument := by
  cases course with
  | unsubmitted mode e => simpa using h.kind_ne (.submitRestore q) settled replayed.1
  | submitted mode answer => cases answer <;> simp
  | unanswered mode e => simpa using h.kind_ne (.restore q) settled replayed.1
  | unrestored mode r failure => simp
  | restored mode r success answer => simp

/-- A restore ends in an invalid argument only if its preparation does. -/
theorem restore_untouched (h : Upfront clients Settled) {spec : RestoreSpec}
    (course : Restore.Course spec t o)
    (replayed : Workflow.Replays (.overTime clients) (s, n) t s')
    (kind : o.kind = some .invalidArgument) : s'.1 = s := by
  cases course with
  | unprepared e =>
    rw [← replayed.2]
    exact h.leaves n spec.request s
  | unchecked q e =>
    exact absurd (by simpa using kind)
      (h.kind_ne (.collectionExists spec.collection) trivial replayed.2.1)
  | refused q force => cases kind
  | undeleted q force e =>
    exact absurd (by simpa [Restore.deleteFailed, Outcome.failed] using kind)
      (h.kind_ne (.delete spec.collection) trivial replayed.2.2.1)
  | deletionRefused q force r failure => cases kind
  | absent q rest =>
    exact absurd kind (h.ending_kind_ne (h.settles n _ _ q replayed.1) rest replayed.2.2)
  | replaced q force r success rest =>
    exact absurd kind (h.ending_kind_ne (h.settles n _ _ q replayed.1) rest replayed.2.2.2)

/-- A query that asks for something is never refused as an invalid argument. -/
theorem query_kind_ne (h : Upfront clients Settled) {operation : Operation} {requestId : String}
    (course : JobStatus.Course operation requestId t o)
    (replayed : Workflow.Replays (.overTime clients) (s, n) t s')
    (something : Text.trim requestId ≠ "") : o.kind ≠ some .invalidArgument := by
  cases course with
  | blank nothing => exact absurd nothing something
  | unanswered something e =>
    simpa using h.kind_ne (.queryStatus (Text.trim requestId)) trivial replayed.1
  | unrecognized something unknown => simpa using JobStatus.blameless_ofRaw? _ _ _ unknown
  | recognized something known =>
    rw [Outcome.kind_outcome]
    split <;> simp

theorem query_untouched (h : Upfront clients Settled) {operation : Operation} {requestId : String}
    (course : JobStatus.Course operation requestId t o)
    (replayed : Workflow.Replays (.overTime clients) (s, n) t s')
    (kind : o.kind = some .invalidArgument) : s'.1 = s := by
  by_cases nothing : Text.trim requestId = ""
  · cases course with
    | blank nothing => rw [← (show (s, n) = s' from replayed)]
    | unanswered something e => exact absurd nothing something
    | unrecognized something unknown => exact absurd nothing something
    | recognized something known => exact absurd nothing something
  · exact absurd kind (h.query_kind_ne course replayed nothing)

/-- **An invalid argument leaves an upfront client untouched**, whichever entry it comes from. -/
theorem untouched (h : Upfront clients Settled) (entry : Entry) (s : σ)
    (kind : (entry.workflow.run (.overTime clients) (s, 0)).result.kind = some .invalidArgument) :
    (entry.workflow.run (.overTime clients) (s, 0)).state.1 = s := by
  have course := entry.course (.overTime clients) (s, 0)
  have replayed := Workflow.replays_transcript (.overTime clients) entry.workflow (s, 0)
  cases errand : entry.errand with
  | backup spec =>
    rw [errand] at course
    exact absurd kind (h.backup_kind_ne course replayed)
  | restore spec =>
    rw [errand] at course
    exact h.restore_untouched course replayed kind
  | query operation requestId =>
    rw [errand] at course
    exact h.query_untouched course replayed kind
  | refuse e =>
    rw [errand] at course
    rw [course.1] at replayed
    rw [← (show (s, 0) = _ from replayed)]

end Upfront

end ClusterBackup
