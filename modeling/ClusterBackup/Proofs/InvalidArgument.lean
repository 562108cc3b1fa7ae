/-
ClusterBackup.Proofs.InvalidArgument — an invalid argument means that the
cluster was never contacted.

Both clients are upfront, so an outcome that is an invalid argument leaves
them as they were: the simulated cluster with its log, and the client
behind HTTP with its counter and without a request. The other way round,
what makes a request malformed is found out before anything is asked, on
every client, and a status query that is not malformed asks once.
-/
import ClusterBackup.Proofs.Http.Upfront
import ClusterBackup.Proofs.Simulated.Upfront

namespace ClusterBackup

/-- The transport with a list of the URLs that it was asked for. -/
def Http.Transport.recording {ν : Type} (t : Transport ν) : Transport (ν × List Url) := fun u s =>
  let (answer, network) := t u s.1
  (answer, (network, s.2 ++ [u]))

/-- What becomes of a request before the cluster has a say in it. -/
structure Decided {S σ : Type} [JobSpec S] (client : Client σ) (s : σ) (r : JobRequest S)
    (w : Workflow Outcome) : Prop where
  /-- A malformed request is refused without a call. -/
  malformed : r.Malformed →
    (w.run client s).result.kind = some .invalidArgument ∧ w.calls client s = []
  /-- Any other request for a status is one query, for the trimmed id. -/
  status : ¬ r.Malformed → r.status = true →
    ∃ id, r.requestId = some id ∧ w.calls client s = [.queryStatus (Text.trim id)]

/-- Entries for requests decide on them before the cluster has a say. -/
theorem Entry.decided {S σ : Type} [JobSpec S] {r : JobRequest S} (entry : Entry)
    {operation : Operation} {issue : S → Errand}
    (h : entry.errand = .ofResolved operation issue r.resolve) (client : Client σ) (s : σ) :
    Decided client s r entry.workflow := by
  have course := entry.course client s
  rw [h] at course
  constructor
  · intro malformed
    obtain ⟨reason, refused⟩ := JobRequest.resolve_of_malformed malformed
    rw [refused] at course
    obtain ⟨silent, outcome⟩ := course
    exact ⟨by rw [outcome]; rfl, by rw [Workflow.calls, silent]; rfl⟩
  · intro wellFormed status
    rcases JobRequest.resolve_of_not_malformed wellFormed with
      ⟨issued, -⟩ | ⟨id, -, asked, solid, settled⟩
    · rw [status] at issued
      contradiction
    · rw [settled] at course
      have something : Text.trim (Text.trim id) ≠ "" := by
        rw [Text.trim_trim, ne_eq, Text.trim_eq_empty_iff, solid]
        exact Bool.false_ne_true
      refine ⟨id, asked, ?_⟩
      rw [Workflow.calls, JobStatus.Course.calls_eq course something, Text.trim_trim]

/-- **An invalid argument means that the cluster was never contacted**: a simulated cluster with
any faults is left as it was, and over any network, whatever it answers and whichever files there
are at each moment, no URL is asked for and no number is taken. What is malformed is refused on
every client, and every other status query asks once. -/
theorem invalid_argument_means_no_contact :
    (∀ (clock : Nat → DateTime) (entry : Entry) (s : Simulated.Cluster),
      let r := entry.workflow.run (.overTime fun n => Simulated.client (clock n)) (s, 0)
      r.result.kind = some .invalidArgument → r.state.1 = s) ∧
    (∀ {ν : Type} (c : Config) (env : Nat → Http.Surroundings) (t : Http.Transport ν)
      (entry : Entry) (network : ν) (counter : Nat),
      let r := entry.workflow.run (.overTime fun n => Http.client c (env n) t.recording)
        (⟨counter, (network, [])⟩, 0)
      r.result.kind = some .invalidArgument →
        r.state.1.network = (network, []) ∧ r.state.1.nextId = counter) ∧
    (∀ {σ : Type} (client : Client σ) (s : σ) (r : JobRequest BackupSpec),
      Decided client s r (Backup.run r)) ∧
    ∀ {σ : Type} (client : Client σ) (s : σ) (r : JobRequest RestoreSpec),
      Decided client s r (Restore.run r) := by
  refine ⟨?_, ?_, ?_, ?_⟩
  · intro clock entry s r kind
    exact (Simulated.upfront clock).untouched entry s kind
  · intro ν c env t entry network counter r kind
    have same := (Http.upfront c env t.recording).untouched entry ⟨counter, (network, [])⟩ kind
    exact ⟨congrArg Http.State.network same, congrArg Http.State.nextId same⟩
  · intro σ client s r
    exact Entry.decided (.runBackup r) rfl client s
  · intro σ client s r
    exact Entry.decided (.runRestore r) rfl client s

/-- A forced restore without a name and a location, over a network that lists the collection; and
a blank status query of a simulated cluster. -/
theorem invalid_argument_means_no_contact_unnamed :
    ((Entry.restore { collection := .default, force := true }).workflow.run
        (.overTime fun _ => Http.client {} ⟨Simulated.noon, .empty⟩
          (Http.Transport.replying (.ok ⟨200, []⟩)).recording)
        (⟨7, ((), [])⟩, 0)).state.1.network = ((), []) ∧
      ((Entry.status .backup " ").workflow.run
        (.overTime fun _ => Simulated.client Simulated.noon)
        (Simulated.Cluster.default, 0)).state.1 = Simulated.Cluster.default :=
  ⟨(invalid_argument_means_no_contact.2.1 _ _ _ _ () 7 rfl).1,
    invalid_argument_means_no_contact.1 _ _ _ rfl⟩

end ClusterBackup
