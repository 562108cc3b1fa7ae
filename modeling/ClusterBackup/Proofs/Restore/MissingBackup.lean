/-
ClusterBackup.Proofs.Restore.MissingBackup — restoring a backup that a
simulated cluster does not have.

The preparation of a restore is where a request that cannot be met should
stop. A simulated cluster lets every request pass it, so a forced restore
of a missing backup deletes the collection and is refused after that: the
collection survives such a request exactly if the restore was not forced.
-/
import ClusterBackup.Proofs.Restore.Protocol
import ClusterBackup.Proofs.Simulated.Effect
import ClusterBackup.Proofs.Table

namespace ClusterBackup

namespace Simulated

namespace Cluster

/-- The cluster has the backup that a restore asks for. -/
def holdsWanted (s : Cluster) (r : SnapshotRequest) : Bool :=
  match s.wantedBackup r with
  | some name => (s.backupsAt (s.locationKey r.location)).contains name
  | none => false

/-- A restore of a missing backup is refused and does nothing. -/
theorem performRestore_missing {s : Cluster} {r : SnapshotRequest}
    (missing : s.holdsWanted r = false) :
    ∃ refusal : AdminResponse, refusal.isSuccess = false ∧ performRestore r s = (refusal, s) := by
  unfold holdsWanted at missing
  cases wanted : s.wantedBackup r with
  | none =>
    refine ⟨refused 400 "Backup not found" (s.locationKey r.location ++ "/"), rfl, ?_⟩
    simp [performRestore, wanted]
  | some name =>
    rw [wanted] at missing
    refine ⟨refused 400 "Backup not found" (s.locationKey r.location ++ "/" ++ name), rfl, ?_⟩
    simp [performRestore, wanted, missing]

end Cluster

end Simulated

namespace Restore

open Simulated

variable {spec : RestoreSpec} {t : List Exchange} {o : Outcome}

/-- Once the way is free, a restore of a missing backup leaves the collections as they are. -/
theorem Ending.collections_eq {q : SnapshotRequest} (h : Ending spec q t o)
    {clock : Nat → DateTime} {s : Cluster} {n : Nat} {s' : Cluster × Nat}
    (missing : s.holdsWanted q = false)
    (replayed : Workflow.Replays (.overTime fun n => unhindered (clock n)) (s, n) t s') :
    s'.1.collections = s.collections := by
  obtain ⟨r, failed, performed⟩ := Cluster.performRestore_missing missing
  cases h with
  | unsubmitted mode e => simp [unhindered] at replayed
  | submitted mode answer =>
    obtain ⟨-, last⟩ := replayed
    rw [← last]
    simp [unhindered, Cluster.effect, performed, Cluster.queue, Cluster.track]
  | unanswered mode e => simp [unhindered] at replayed
  | unrestored mode r' failure =>
    obtain ⟨-, last⟩ := replayed
    rw [← last]
    simp [unhindered, Cluster.effect, performed]
  | restored mode r' success answer =>
    obtain ⟨same, -⟩ := replayed
    simp only [Client.answer_overTime, unhindered, Cluster.effect, performed,
      Except.ok.injEq] at same
    rw [same, success] at failed
    contradiction

/-- A restore of a missing backup takes away the collection that it was to replace if it is
forced, and changes no collection if it is not. -/
theorem Course.collections_eq (h : Course spec t o) {clock : Nat → DateTime} {s : Cluster}
    {n : Nat} {s' : Cluster × Nat} (present : s.hasCollection spec.collection.name = true)
    (missing : s.holdsWanted spec.request = false)
    (replayed : Workflow.Replays (.overTime fun n => unhindered (clock n)) (s, n) t s') :
    s'.1.collections =
      if spec.force then s.collections.erase spec.collection.name else s.collections := by
  cases h with
  | unprepared e => simp [unhindered] at replayed
  | unchecked q e => simp [unhindered] at replayed
  | refused q force =>
    obtain ⟨-, -, last⟩ := replayed
    rw [← last, force]
    rfl
  | undeleted q force e => simp [unhindered] at replayed
  | deletionRefused q force r failure =>
    obtain ⟨-, -, refused, -⟩ := replayed
    simp only [Client.answer_overTime, unhindered, Cluster.effect, Cluster.performDelete, present,
      if_true, Except.ok.injEq] at refused
    rw [← refused] at failure
    contradiction
  | absent q rest =>
    obtain ⟨-, found, -⟩ := replayed
    simp [unhindered, Cluster.effect, present] at found
  | replaced q force r success rest =>
    obtain ⟨prepared, -, -, rest'⟩ := replayed
    simp only [Client.answer_overTime, unhindered, Cluster.effect, Except.ok.injEq] at prepared
    subst prepared
    rw [force, if_pos rfl]
    have deleted : (Cluster.performDelete spec.collection s).2 =
        { s with collections := s.collections.erase spec.collection.name } := by
      simp [Cluster.performDelete, present]
    simp only [Client.answer_overTime, unhindered, Cluster.effect, deleted] at rest'
    -- What is wanted does not depend on the collections.
    exact rest.collections_eq (s := { s with collections := _ }) missing rest'

/-- **Exactly the forced restores of a missing backup cost the collection**: on a simulated
cluster without faults a restore that is not forced keeps it with its layout, and a forced one
leaves none in its place. Every other collection stays either way. -/
theorem missing_backup_costs_iff_forced (clock : Nat → DateTime) {s : Cluster}
    (faultless : s.faults = []) {spec : RestoreSpec} {w : Workflow Outcome} (h : Issues spec w)
    {l : Layout} (present : s.collections.get? spec.collection.name = some l)
    (missing : s.holdsWanted spec.request = false) :
    let after := (w.run (.overTime fun n => Simulated.client (clock n)) (s, 0)).state.1.collections
    after.get? spec.collection.name = (if spec.force then none else some l) ∧
      ∀ other, other ≠ spec.collection.name → after.get? other = s.collections.get? other := by
  intro after
  have executed : after = ((execute spec).run
      (.overTime fun n => Simulated.client (clock n)) (s, 0)).state.1.collections := by
    cases h with
    | direct => simp [after, issue]
    | requested r resolved => simp [after, run, resolved]
  have collections_eq : after =
      if spec.force then s.collections.erase spec.collection.name else s.collections := by
    have start : s.withLog s.calls [] = s := by rw [← faultless, Cluster.withLog_self]
    obtain ⟨calls, run_eq⟩ := run_faultless clock (execute spec) s s.calls 0
    rw [start] at run_eq
    rw [executed, run_eq]
    simp only [Cluster.withLog_collections]
    have found : s.hasCollection spec.collection.name = true := by
      simp [Cluster.hasCollection, Table.contains, present]
    exact (course_execute _ spec (s, 0)).collections_eq found missing
      (Workflow.replays_transcript _ _ _)
  rw [collections_eq]
  cases spec.force with
  | false => exact ⟨present, fun other _ => rfl⟩
  | true =>
    refine ⟨by simp [Table.get?_erase], fun other ne => ?_⟩
    simp [Table.get?_erase, ne]

/-- A forced restore of a backup that was never taken, on a cluster with nothing but the
collection. -/
theorem missing_backup_costs_catalog :
    ((issue { collection := .default, backupName := some "nightly", force := true }).run
        (.overTime fun _ => Simulated.client noon)
        (Cluster.default.createCollection "catalog", 0)).state.1.collections.get? "catalog" =
      none :=
  (missing_backup_costs_iff_forced (fun _ => noon) rfl .direct rfl rfl).1

end Restore

end ClusterBackup
