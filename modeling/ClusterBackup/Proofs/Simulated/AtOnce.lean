/-
ClusterBackup.Proofs.Simulated.AtOnce — what a restore that is carried out
at once makes of a simulated cluster.

Five calls share the work, and each of them may end it. `AtOnce` says what
they come to together, in terms of what can be seen of the cluster before
and after: when the restore succeeds, what it leaves, and what it never
touches. The proof splits where the workflow does. A restore that stops at
an existing collection has only looked (`run_blocked`); every other one
does its work on a cluster that no longer has the collection
(`answered_sync`), so whether it succeeds is a question of the backup
alone.
-/
import ClusterBackup.Proofs.Restore.MissingBackup
import ClusterBackup.Proofs.Simulated.Backups
import ClusterBackup.Proofs.Simulated.Modes

namespace ClusterBackup.Simulated

namespace Cluster

/-! ## The backup that is asked for -/

/-- The backup that a request asks for: the one that it names, or else the latest of those at its
location that are named by the time. -/
def IsWanted (s : Cluster) (r : SnapshotRequest) (name : String) : Prop :=
  match r.backupName with
  | some given => name = given
  | none => Snapshot.latest? (s.backupNames r.location) = some name

/-- The backup that a request asks for is at its location. -/
def Available (s : Cluster) (r : SnapshotRequest) : Prop :=
  ∃ name ∈ s.backupNames r.location, s.IsWanted r name

theorem isWanted_iff {s : Cluster} {r : SnapshotRequest} {name : String} :
    s.IsWanted r name ↔ s.wantedBackup r = some name := by
  unfold IsWanted wantedBackup
  cases r.backupName with
  | some given => simp [eq_comm]
  | none => rfl

instance (s : Cluster) (r : SnapshotRequest) (name : String) : Decidable (s.IsWanted r name) :=
  decidable_of_iff _ isWanted_iff.symm

/-- The names at a location are those of the backups there. -/
theorem mem_backupNames_iff {s : Cluster} {location : Option String} {name : String} :
    name ∈ s.backupNames location ↔
      (s.backupsAt (s.locationKey location)).contains name = true := by
  rw [backupNames, Table.mem_names_iff, Table.contains, Option.isSome_iff_ne_none]

theorem holdsWanted_iff {s : Cluster} {r : SnapshotRequest} :
    s.holdsWanted r = true ↔ s.Available r := by
  simp only [Available, isWanted_iff, mem_backupNames_iff]
  unfold holdsWanted
  cases wanted : s.wantedBackup r with
  | none => simp
  | some name => simp

/-- What is asked for is looked up among the backups alone, by the settings. -/
theorem available_congr {s s' : Cluster} (config : s'.config = s.config)
    (backups : s'.backups = s.backups) (r : SnapshotRequest) :
    s'.Available r ↔ s.Available r := by
  have names : s'.backupNames r.location = s.backupNames r.location := by
    unfold backupNames backupsAt locationKey
    rw [config, backups]
  simp only [Available, IsWanted, names]

/-- A restore succeeds exactly if there is the backup and not the collection. -/
theorem performRestore_success_iff (r : SnapshotRequest) (s : Cluster) :
    (performRestore r s).1.isSuccess = true ↔
      s.Available r ∧ s.hasCollection r.collection.name = false := by
  rw [← holdsWanted_iff]
  cases held : s.holdsWanted r with
  | false =>
    obtain ⟨refusal, failure, performed⟩ := performRestore_missing held
    simp [performed, failure]
  | true =>
    unfold holdsWanted at held
    cases wanted : s.wantedBackup r with
    | none => simp [wanted] at held
    | some name =>
      rw [wanted] at held
      cases present : s.hasCollection r.collection.name with
      | false =>
        simp only [performRestore, wanted, held, present, if_true, Bool.false_eq_true, if_false]
        exact ⟨fun _ => ⟨trivial, trivial⟩, fun _ => rfl⟩
      | true =>
        simp only [performRestore, wanted, held, present, if_true, Bool.true_eq_false, and_false,
          iff_false]
        exact Bool.false_ne_true

end Cluster

open Cluster

/-! ## Cleared and completed -/

section

variable {spec : RestoreSpec} {s : Cluster}

/-- Once the way is free, the collection is gone, and all else is as it was. -/
theorem hasCollection_cleared :
    ((Commission.restore spec).cleared s).hasCollection spec.collection.name = false :=
  hasCollection_eq_false_iff.mpr ((get?_performDelete spec.collection s _).trans (if_pos rfl))

theorem config_cleared : ((Commission.restore spec).cleared s).config = s.config :=
  congrArg (·.1) (Commission.desk_cleared s (.restore spec))

theorem newLayout_cleared : ((Commission.restore spec).cleared s).newLayout = s.newLayout := by
  rw [newLayout, newLayout, config_cleared]

/-- Whatever the work came to, completing it leaves backups and jobs alone. -/
theorem backups_completed :
    ((Commission.restore spec).completed (performRestore spec.request s)).backups =
      s.backups := by
  simp only [Commission.completed]
  split
  · rw [backups_performOptimize, backups_performRestore]
  · exact backups_performRestore spec.request s

theorem desk_completed :
    ((Commission.restore spec).completed (performRestore spec.request s)).desk = s.desk := by
  simp only [Commission.completed]
  split
  · rw [desk_performOptimize, desk_performRestore]
  · exact desk_performRestore spec.request s

/-- Completed work has made its collection if it succeeded, and done nothing to any other. -/
theorem get?_completed (n : String) :
    ((Commission.restore spec).completed (performRestore spec.request s)).collections.get? n =
      if (performRestore spec.request s).1.isSuccess ∧ n = spec.collection.name then
        some { s.newLayout with optimized := true }
      else s.collections.get? n := by
  simp only [Commission.completed]
  cases restored_performRestore spec.request s with
  | refused failure state => simp [failure, state]
  | made absent success state =>
    have name : spec.request.collection.name = spec.collection.name := rfl
    rw [success, if_pos rfl, get?_performOptimize, state, get?_createCollection, name]
    by_cases own : n = spec.collection.name
    · simp [own]
    · simp [own]

end

/-! ## Whole runs -/

/-- What a restore that is carried out at once tells, and what it leaves. -/
structure AtOnce (spec : RestoreSpec) (s : Cluster) (o : Outcome) (s' : Cluster) : Prop where
  /-- It succeeds exactly if the backup is there and nothing stands in the way. -/
  success_iff : o.success = true ↔ s.Available spec.request ∧
    (s.hasCollection spec.collection.name = false ∨ spec.force = true)
  /-- A success binds the collection to a new layout, optimized, and has nothing to warn of. -/
  made : o.success = true →
    o.message = Outcome.sentence .restore spec.collection "complete." ∧
      s'.collections.get? spec.collection.name = some { s.newLayout with optimized := true }
  others : ∀ n, n ≠ spec.collection.name → s'.collections.get? n = s.collections.get? n
  backups : s'.backups = s.backups
  jobs : s'.jobs = s.jobs
  nextRequest : s'.nextRequest = s.nextRequest
  /-- What stops at an existing collection has looked at it, and done nothing else. -/
  refused : s.hasCollection spec.collection.name = true → spec.force = false →
    o.kind = some .preconditionFailed ∧ s'.collections = s.collections ∧
      s'.calls = logCall s.calls ⟨.collectionExists, spec.collection.name⟩

section

variable {spec : RestoreSpec} {s s' : Cluster} {o : Outcome}

/-- A restore that was refused has left nothing but its look at the collection. -/
theorem atOnce_of_refused (present : s.hasCollection spec.collection.name = true)
    (force : spec.force = false) (result : o = Restore.refusal spec.collection)
    (state : s' = s.withLog (logCall s.calls ⟨.collectionExists, spec.collection.name⟩) []) :
    AtOnce spec s o s' := by
  subst result state
  exact
    { success_iff := by simp [Restore.refusal, present, force]
      made := fun success => Bool.noConfusion success
      others := fun n _ => rfl
      backups := rfl
      jobs := rfl
      nextRequest := rfl
      refused := fun _ _ => ⟨rfl, rfl, rfl⟩ }

/-- A restore that did its work once the way was free has left what the work left. -/
theorem atOnce_of_worked (way : s.hasCollection spec.collection.name = false ∨ spec.force = true)
    {done : AdminResponse × Cluster}
    (work : performRestore spec.request ((Commission.restore spec).cleared s) = done)
    (result : o = .ofResponse .restore spec.collection done.1) {log : List LoggedCall}
    (state : s' = ((Commission.restore spec).completed done).withLog log []) :
    AtOnce spec s o s' := by
  subst work result
  have collections : ∀ n, s'.collections.get? n = _ := fun n =>
    (congrArg (·.collections.get? n) state).trans (get?_completed n)
  have desk : s'.desk = s.desk := by
    rw [state, desk_withLog, desk_completed, Commission.desk_cleared]
  exact
    { success_iff := by
        rw [Outcome.success_ofResponse, performRestore_success_iff,
          available_congr config_cleared (backups_performDelete spec.collection s)]
        exact ⟨fun h => ⟨h.1, way⟩, fun h => ⟨h.1, hasCollection_cleared⟩⟩
      made := fun success => by
        rw [Outcome.success_ofResponse] at success
        constructor
        · rw [Outcome.ofResponse, if_pos success]
          rfl
        · rw [collections, newLayout_cleared]
          exact if_pos ⟨success, rfl⟩
      others := fun n other => by
        rw [collections, if_neg fun own => other own.2]
        exact (get?_performDelete spec.collection s n).trans (if_neg other)
      backups := by
        rw [state]
        exact backups_completed.trans (backups_performDelete spec.collection s)
      jobs := congrArg (·.2.1) desk
      nextRequest := congrArg (·.2.2) desk
      refused := fun present force => by simp [present, force] at way }

end

section

variable (clock : Nat → DateTime) {s : Cluster} {entry : Entry} {spec : RestoreSpec}

/-- A restore that stops at an existing collection has logged nothing but the look at it. -/
theorem calls_of_blocked (faultless : s.faults = []) (issued : entry.errand = .restore spec)
    (present : s.hasCollection spec.collection.name = true) (force : spec.force = false) :
    (entry.workflow.run (.overTime fun n => client (clock n)) (s, 0)).state.1.calls =
      logCall s.calls ⟨.collectionExists, spec.collection.name⟩ := by
  have looked : answer (clock 1) (.collectionExists spec.collection) s =
      (.ok true, s.withLog (logCall s.calls ⟨.collectionExists, spec.collection.name⟩) []) := by
    rw [answer_of_faultless faultless, effect, present]
    rfl
  have prepared : answer (clock 0) (.prepareRestore spec.request) s = (.ok spec.request, s) := rfl
  rw [entry.workflow_eq, Workflow.state_reported, issued]
  simp only [Errand.workflow, Restore.execute, Workflow.bind_eq, Workflow.call, Workflow.ask_bind,
    Workflow.done_bind, Workflow.run_ask, Client.answer_overTime, client, prepared, looked, force]
  rfl

/-- **What a restore comes to that is carried out at once**, on every simulated cluster without
faults and whichever entry it comes through. -/
theorem restores_at_once (faultless : s.faults = []) (issued : entry.errand = .restore spec)
    (sync : spec.mode = .sync) :
    let r := entry.workflow.run (.overTime fun n => client (clock n)) (s, 0)
    AtOnce spec s r.result r.state.1 := by
  intro r
  have errand : entry.errand = (Commission.restore spec).errand .sync := by
    rw [issued, Commission.errand, ← sync]
  obtain ⟨result, log, state⟩ := run_entry clock faultless entry
  rw [errand] at result state
  cases blocked : (Commission.restore spec).blocked s with
  | true =>
    rw [run_blocked clock blocked] at result state
    rw [Commission.blocked, Bool.and_eq_true, Bool.not_eq_true'] at blocked
    obtain ⟨present, force⟩ := blocked
    have logged : log = _ := (congrArg Cluster.calls state).symm.trans
      (calls_of_blocked clock faultless issued present force)
    exact atOnce_of_refused present force result (logged ▸ state)
  | false =>
    obtain ⟨answer, completed⟩ := answered_sync clock blocked
    rw [answer] at result
    rw [completed] at state
    have way : s.hasCollection spec.collection.name = false ∨ spec.force = true := by
      cases present : s.hasCollection spec.collection.name with
      | false => exact .inl rfl
      | true => exact .inr (by simpa [Commission.blocked, present] using blocked)
    exact atOnce_of_worked way rfl result state

end

/-- A cluster with a collection and a backup of it that is named by the time. -/
def backedUp : Cluster :=
  (Cluster.default.createCollection "catalog").addBackup none "snapshot.20240101120000000" "catalog"

/-- A forced restore of the latest backup replaces the collection by an optimized one, and a restore
that is not forced only looks. -/
theorem restores_at_once_latest :
    let forced := (Entry.restore { collection := .default, force := true }).workflow.run
      (.overTime fun _ => client noon) (backedUp, 0)
    let unforced := (Entry.restore { collection := .default }).workflow.run
      (.overTime fun _ => client noon) (backedUp, 0)
    forced.result.success = true ∧
      forced.state.1.collections.get? "catalog" = some ⟨2, 2, true⟩ ∧
      unforced.state.1.calls = [⟨.collectionExists, "catalog"⟩] := by
  intro forced unforced
  have replaced : AtOnce { collection := .default, force := true } backedUp forced.result
      forced.state.1 := restores_at_once (fun _ => noon) rfl rfl rfl
  have kept : AtOnce { collection := .default } backedUp unforced.result unforced.state.1 :=
    restores_at_once (fun _ => noon) rfl rfl rfl
  have success : forced.result.success = true :=
    replaced.success_iff.mpr
      ⟨⟨"snapshot.20240101120000000", by decide, by decide⟩, .inr rfl⟩
  exact ⟨success, (replaced.made success).2, (kept.refused (by decide) rfl).2.2⟩

end ClusterBackup.Simulated
