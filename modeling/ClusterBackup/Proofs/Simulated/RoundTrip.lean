/-
ClusterBackup.Proofs.Simulated.RoundTrip — what was backed up can be
restored.

A backup that a cluster took stays where it is, so a later restore finds it
by its name, whatever happened in between. A restore that gives no name
looks for the latest backup: it finds one that was named by the moment at
which it was taken, as long as no other name at its location tells of a
moment that is as late.
-/
import ClusterBackup.Proofs.Simulated.Backups
import ClusterBackup.Proofs.Simulated.Collections
import ClusterBackup.Proofs.Simulated.JobTable
import ClusterBackup.Proofs.Snapshot.Latest
import ClusterBackup.Proofs.Snapshot.Stamp

namespace ClusterBackup.Simulated

/-- A step puts a fault into the cluster. -/
def Step.injects : Step → Bool
  | .inject .. => true
  | _ => false

namespace Cluster

/-! ## What stays -/

/-- The settings of a cluster never change. -/
theorem config_take (s : Cluster) (step : Step) : (s.take step).config = s.config := by
  cases jobStep_take s step with
  | idle queued polled same => exact congrArg Prod.fst same
  | queue operation result queued polled same => exact congrArg Prod.fst same
  | poll id queued polled same => exact congrArg Prod.fst same

theorem config_after (s : Cluster) (steps : List Step) : (s.after steps).config = s.config :=
  after_invariant (P := fun s' => s'.config = s.config)
    (fun s' step same => (config_take s' step).trans same) rfl steps

theorem locationKey_congr {s s' : Cluster} (config : s'.config = s.config)
    (location : Option String) : s'.locationKey location = s.locationKey location := by
  rw [locationKey, config]
  rfl

/-- Where no fault waits, none waits after a step that puts none there. -/
theorem faults_take {s : Cluster} (faultless : s.faults = []) {step : Step}
    (clear : step.injects = false) : (s.take step).faults = [] := by
  cases step with
  | call now call => rw [take, answer_of_faultless faultless, withLog_faults]
  | createCollection name => exact faultless
  | addBackup location name collection => exact faultless
  | inject kind fault persistent => cases clear

theorem faults_after {s : Cluster} (faultless : s.faults = []) {steps : List Step}
    (clear : ∀ step ∈ steps, step.injects = false) : (s.after steps).faults = [] := by
  induction steps generalizing s with
  | nil => exact faultless
  | cons step steps ih =>
    rw [after_cons]
    exact ih (faults_take faultless (clear step List.mem_cons_self)) fun step inside =>
      clear step (List.mem_cons_of_mem _ inside)

/-! ## Taking a backup, and restoring it -/

/-- A step takes a backup under a name: at once, or as the work of a job that it queues. -/
inductive Takes (s : Cluster) (now : DateTime) (r : SnapshotRequest) (name : String) :
    Step → Prop where
  | atOnce {response : AdminResponse} (answered : (answer now (.backup r) s).1 = .ok response)
      (success : response.isSuccess = true) (named : response.message = some name) :
      Takes s now r name (.call now (.backup r))
  | queued {id : String} {result : AdminResponse}
      (queued : s.queued? (.call now (.submitBackup r)) = some (id, result))
      (success : result.isSuccess = true) (named : result.message = some name) :
      Takes s now r name (.call now (.submitBackup r))

/-- A backup that was taken has the name that was given, or else that of the moment, and is
there. -/
theorem Takes.record? {s : Cluster} (faultless : s.faults = []) {now : DateTime}
    {r : SnapshotRequest} {name : String} {step : Step} (h : Takes s now r name step) :
    name = r.backupName.getD (Snapshot.name now) ∧
      (s.take step).record? (s.locationKey r.location) name ≠ none := by
  cases h with
  | atOnce answered success named =>
    rw [answer_of_faultless faultless, Except.ok.injEq] at answered
    subst answered
    obtain ⟨same, there⟩ := record?_of_success success named
    refine ⟨same, ?_⟩
    rw [take, answer_of_faultless faultless]
    exact Option.ne_none_iff_exists'.mpr ⟨_, there⟩
  | queued queued success named =>
    rw [queued?_submitBackup now (met?_of_faultless faultless (.submitBackup r)), Option.some.injEq,
      Prod.mk.injEq] at queued
    obtain ⟨-, rfl⟩ := queued
    obtain ⟨same, there⟩ := record?_of_success success named
    refine ⟨same, ?_⟩
    rw [take, answer_of_faultless faultless]
    exact Option.ne_none_iff_exists'.mpr ⟨_, there⟩

/-- A restore succeeds with the backup of a name and makes its collection in the layout of the
settings, whether it is done at once or queued. -/
structure RestoresFrom (config : Config) (s : Cluster) (q : SnapshotRequest) (name : String) :
    Prop where
  atOnce : ∀ now, (answer now (.restore q) s).1 = .ok (AdminResponse.ok.withMessage name)
  queued : ∀ now, ∃ id, s.queued? (.call now (.submitRestore q)) =
    some (id, AdminResponse.ok.withMessage name)
  collections : ∀ now, ∀ call ∈ [AdminCall.restore q, .submitRestore q], ∀ n,
    (s.take (.call now call)).collections.get? n =
      if n = q.collection.name then some ⟨config.shardCount, config.replicationFactor, false⟩
      else s.collections.get? n

/-- A restore of a backup that is there makes its collection where there is none. -/
theorem performRestore_of_record? {s : Cluster} {q : SnapshotRequest} {name : String}
    (wanted : s.wantedBackup q = some name)
    (there : s.record? (s.locationKey q.location) name ≠ none)
    (absent : s.collections.get? q.collection.name = none) :
    performRestore q s =
      (AdminResponse.ok.withMessage name, s.createCollection q.collection.name) := by
  have held : (s.backupsAt (s.locationKey q.location)).contains name = true := by
    rw [contains_backupsAt, Option.isSome_iff_ne_none]
    exact there
  simp [performRestore, wanted, held, hasCollection_eq_false_iff.mpr absent]

theorem restoresFrom_of_record? {s : Cluster} (faultless : s.faults = []) {q : SnapshotRequest}
    {name : String} (wanted : s.wantedBackup q = some name)
    (there : s.record? (s.locationKey q.location) name ≠ none)
    (absent : s.collections.get? q.collection.name = none) :
    RestoresFrom s.config s q name := by
  have performed := performRestore_of_record? wanted there absent
  constructor
  · intro now
    rw [answer_of_faultless faultless, effect, performed]
  · intro now
    refine ⟨jobId .restore (s.nextRequest + 1), ?_⟩
    rw [queued?_submitRestore now (met?_of_faultless faultless (.submitRestore q)), performed]
  · intro now call restores n
    have made : (effect now call s).2.collections =
        (s.createCollection q.collection.name).collections := by
      rcases List.mem_pair.mp restores with rfl | rfl
      · rw [effect, performed]
      · rw [effect, performed]
        rfl
    rw [take, answer_of_faultless faultless, withLog_collections, made, get?_createCollection]
    rfl

/-! ## The round trip -/

/-- A restore that gives no name wants the backup that was taken last. -/
theorem wantedBackup_of_latest {s : Cluster} {q : SnapshotRequest} (unnamed : q.backupName = none)
    {t : DateTime} (valid : t.IsValid) (first : 0 ≤ t.year) (last : t.year ≤ 9999)
    (there : s.record? (s.locationKey q.location) (Snapshot.name t) ≠ none)
    (latest : ∀ m ∈ s.backupNames q.location, m ≠ Snapshot.name t →
      ∀ u ∈ Snapshot.timestamp? m, u.rank < t.truncated.rank) :
    s.wantedBackup q = some (Snapshot.name t) := by
  rw [wantedBackup, unnamed]
  exact Snapshot.latest?_eq_some (Table.mem_names_iff.mpr there)
    (Snapshot.timestamp?_name valid first last) latest

/-- **What was backed up can be restored.** On a cluster without faults, let a backup be taken, and
let anything happen after that. A restore of the backup by its name then makes its collection,
where there is none. So does a restore from the same location that gives no name, if the backup got
its name from a moment that is later, by the millisecond, than what all other names there tell. -/
theorem taken_backup_is_restored {s : Cluster} (faultless : s.faults = []) {now : DateTime}
    {r : SnapshotRequest} {name : String} {step : Step} (taken : Takes s now r name step)
    {steps : List Step} (clear : ∀ step ∈ steps, step.injects = false) {q : SnapshotRequest}
    (place : s.locationKey q.location = s.locationKey r.location)
    (absent : ((s.take step).after steps).collections.get? q.collection.name = none) :
    name = r.backupName.getD (Snapshot.name now) ∧
      (q.backupName = some name → RestoresFrom s.config ((s.take step).after steps) q name) ∧
      (q.backupName = none → r.backupName = none →
        now.IsValid → 0 ≤ now.year → now.year ≤ 9999 →
        (∀ m ∈ ((s.take step).after steps).backupNames q.location, m ≠ name →
          ∀ u ∈ Snapshot.timestamp? m, u.rank < now.truncated.rank) →
        RestoresFrom s.config ((s.take step).after steps) q name) := by
  obtain ⟨named, there⟩ := taken.record? faultless
  have config : ((s.take step).after steps).config = s.config :=
    (config_after _ steps).trans (config_take s step)
  have faultless' : ((s.take step).after steps).faults = [] := by
    refine faults_after (faults_take faultless ?_) clear
    cases taken <;> rfl
  have there' : ((s.take step).after steps).record?
      (((s.take step).after steps).locationKey q.location) name ≠ none := by
    rw [locationKey_congr config, place]
    exact record?_after there steps
  refine ⟨named, fun asked => ?_, fun unasked generated valid first last latest => ?_⟩
  · have wanted : ((s.take step).after steps).wantedBackup q = some name := by
      rw [wantedBackup, asked]
    exact config ▸ restoresFrom_of_record? faultless' wanted there' absent
  · obtain rfl : name = Snapshot.name now := by rw [named, generated, Option.getD_none]
    have wanted := wantedBackup_of_latest unasked valid first last there' latest
    exact config ▸ restoresFrom_of_record? faultless' wanted there' absent

/-- A collection is deleted, a backup of it cannot be queued any more, and other backups turn up. -/
def meanwhile : List Step :=
  [.addBackup none "snapshot.20231231235959999" "other", .call noon (.delete .default),
    .call noon (.submitBackup ⟨.default, none, none⟩), .addBackup none "manual" "other"]

/-- A backup without a name is restored from its location, by its name and as the latest one. -/
theorem taken_backup_is_restored_noon :
    let s := Cluster.after { config := .simulated } [.createCollection "catalog"]
    let later := (s.take (.call noon (.backup ⟨.default, none, none⟩))).after meanwhile
    RestoresFrom .simulated later ⟨.default, some "default", some "snapshot.20240101120000000"⟩
        "snapshot.20240101120000000" ∧
      RestoresFrom .simulated later ⟨.default, some "default", none⟩
        "snapshot.20240101120000000" := by
  intro s later
  have taken : Takes s noon ⟨.default, none, none⟩ "snapshot.20240101120000000"
      (.call noon (.backup ⟨.default, none, none⟩)) := .atOnce rfl rfl rfl
  have clear : ∀ step ∈ meanwhile, step.injects = false := by decide
  have latest : ∀ m ∈ later.backupNames (some "default"), m ≠ "snapshot.20240101120000000" →
      ∀ u ∈ Snapshot.timestamp? m, u.rank < noon.truncated.rank := by decide
  have restored := fun q place absent =>
    taken_backup_is_restored (q := q) rfl taken clear place absent
  obtain ⟨-, byName, -⟩ :=
    restored ⟨.default, some "default", some "snapshot.20240101120000000"⟩ rfl rfl
  obtain ⟨-, -, asLatest⟩ := restored ⟨.default, some "default", none⟩ rfl rfl
  exact ⟨byName rfl, asLatest rfl rfl (by decide) (by decide) (by decide) latest⟩

end Cluster

end ClusterBackup.Simulated
