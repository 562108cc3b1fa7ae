/-
ClusterBackup.Proofs.Simulated.Backups — what becomes of the backups of a
simulated cluster.

A backup is known by its location and its name, and `record?` tells which
collection it is of. Taking a backup either adds a record where there was
none, or changes no record; a preparation may put another record in the
place of one; nothing else touches the backups. So a backup that is there
stays, whatever happens.
-/
import ClusterBackup.Proofs.Simulated.Effect
import ClusterBackup.Proofs.Simulated.Step
import ClusterBackup.Proofs.Table

namespace ClusterBackup.Simulated

namespace Cluster

/-- The collection of which there is a backup with a name at a location. -/
def record? (s : Cluster) (location name : String) : Option String :=
  (s.backupsAt location).get? name

theorem contains_backupsAt (s : Cluster) (location name : String) :
    (s.backupsAt location).contains name = (s.record? location name).isSome := rfl

/-! ## Taking a backup -/

/-- The records of a cluster after another table was put at a location. -/
theorem record?_of_backups {s s' : Cluster} {key : String} {present : Table String}
    (backups : s'.backups = s.backups.insert key present) (location name : String) :
    s'.record? location name =
      if location = key then present.get? name else s.record? location name := by
  rw [record?, backupsAt, backups, Table.get?_insert]
  split
  · rfl
  · rfl

/-- What becomes of a backup that is to be taken. -/
inductive BackedUp (now : DateTime) (r : SnapshotRequest) (s : Cluster)
    (done : AdminResponse × Cluster) : Prop where
  /-- There is a new record. -/
  | made (name : String) (named : name = r.backupName.getD (Snapshot.name now))
      (fresh : s.record? (s.locationKey r.location) name = none)
      (answer : done.1 = AdminResponse.ok.withMessage name)
      (records : ∀ location n, done.2.record? location n =
        if location = s.locationKey r.location ∧ n = name then some r.collection.name
        else s.record? location n)
  /-- All records are as they were. -/
  | refused (failure : done.1.isSuccess = false)
      (records : ∀ location n, done.2.record? location n = s.record? location n)

theorem backedUp_performBackup (now : DateTime) (r : SnapshotRequest) (s : Cluster) :
    BackedUp now r s (performBackup now r s) := by
  unfold performBackup
  simp only
  split
  · split
    · refine .refused rfl fun location n => ?_
      rw [record?_of_backups rfl]
      split
      · next same => rw [same]; rfl
      · rfl
    · next fresh =>
      refine .made _ rfl ?_ rfl fun location n => ?_
      · simpa [contains_backupsAt] using fresh
      · rw [record?_of_backups rfl, Table.get?_insert]
        by_cases same : location = s.locationKey r.location
        · subst same
          by_cases named : n = r.backupName.getD (Snapshot.name now)
          · simp [named]
          · simp [named, record?]
        · simp [same]
  · exact .refused rfl fun _ _ => rfl

/-- A backup that was taken is there. -/
theorem record?_of_success {now : DateTime} {r : SnapshotRequest} {s : Cluster} {name : String}
    (success : (performBackup now r s).1.isSuccess = true)
    (named : (performBackup now r s).1.message = some name) :
    name = r.backupName.getD (Snapshot.name now) ∧
      (performBackup now r s).2.record? (s.locationKey r.location) name =
        some r.collection.name := by
  cases backedUp_performBackup now r s with
  | refused failure =>
    rw [success] at failure
    contradiction
  | made name' same fresh answer records =>
    rw [answer] at named
    obtain rfl : name' = name := Option.some.inj named
    exact ⟨same, (records _ _).trans (if_pos ⟨rfl, rfl⟩)⟩

/-! ## What leaves the backups alone -/

theorem backups_performRestore (r : SnapshotRequest) (s : Cluster) :
    (performRestore r s).2.backups = s.backups := by
  unfold performRestore
  simp only
  split
  · rfl
  · split
    · split <;> rfl
    · rfl

theorem backups_performDelete (c : Collection) (s : Cluster) :
    (performDelete c s).2.backups = s.backups := by
  unfold performDelete
  split <;> rfl

theorem backups_performOptimize (c : Collection) (s : Cluster) :
    (performOptimize c s).2.backups = s.backups := by
  unfold performOptimize
  split <;> rfl

theorem backups_poll (id : String) (s : Cluster) : (s.poll id).2.backups = s.backups := by
  unfold poll
  split <;> rfl

theorem record?_congr {s s' : Cluster} (same : s'.backups = s.backups) (location name : String) :
    s'.record? location name = s.record? location name := by
  rw [record?, backupsAt, same]
  rfl

/-- No call takes a record away or changes one. -/
theorem record?_effect {s : Cluster} {location name collection : String}
    (there : s.record? location name = some collection) (now : DateTime) (call : AdminCall) :
    (effect now call s).2.record? location name = some collection := by
  have kept_by_backup : ∀ r, (performBackup now r s).2.record? location name = some collection := by
    intro r
    cases backedUp_performBackup now r s with
    | refused failure records => rw [records, there]
    | made name' named fresh answer records =>
      rw [records, if_neg, there]
      rintro ⟨rfl, rfl⟩
      rw [fresh] at there
      contradiction
  cases call with
  | prepareRestore r => exact there
  | collectionExists c => exact there
  | delete c => exact (record?_congr (backups_performDelete c s) _ _).trans there
  | backup r => exact kept_by_backup r
  | submitBackup r => exact kept_by_backup r
  | restore r => exact (record?_congr (backups_performRestore r s) _ _).trans there
  | submitRestore r => exact (record?_congr (backups_performRestore r s) _ _).trans there
  | optimize c => exact (record?_congr (backups_performOptimize c s) _ _).trans there
  | queryStatus id => exact (record?_congr (backups_poll id s) _ _).trans there

/-! ## Step by step -/

/-- A backup that is there stays at every step. -/
theorem record?_take {s : Cluster} {location name : String}
    (there : s.record? location name ≠ none) (step : Step) :
    (s.take step).record? location name ≠ none := by
  obtain ⟨collection, found⟩ := Option.ne_none_iff_exists'.mp there
  cases step with
  | call now call =>
    rw [take]
    cases met : s.met? call with
    | some fault => rwa [answer_of_fault met]
    | none =>
      rw [answer_of_clear met]
      have kept : (effect now call s).2.record? location name = some collection :=
        record?_effect found now call
      rw [Option.ne_none_iff_exists']
      exact ⟨collection, kept⟩
  | createCollection n => exact there
  | addBackup location' n collection' =>
    rw [take, record?_of_backups rfl]
    split
    · rw [Table.get?_insert]
      split
      · exact Option.some_ne_none _
      · next same _ => rwa [← same]
    · exact there
  | inject kind fault persistent => exact there

/-- A backup that is there stays through all steps. -/
theorem record?_after {s : Cluster} {location name : String}
    (there : s.record? location name ≠ none) (steps : List Step) :
    (s.after steps).record? location name ≠ none :=
  after_invariant (P := fun s => s.record? location name ≠ none)
    (fun _ step kept => record?_take kept step) there steps

end Cluster

end ClusterBackup.Simulated
