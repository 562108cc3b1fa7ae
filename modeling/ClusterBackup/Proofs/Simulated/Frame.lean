/-
ClusterBackup.Proofs.Simulated.Frame — what a call to a workflow leaves as
it was.

`Frame` says what each errand may change of a simulated cluster, which is
little: a backup adds one record at most, a query counts a poll of its own
job, and a restore is confined to its own collection. It holds with any
faults, though a fault may hide a collection that is there or make a
restore look like a success.

A restore makes several calls, so its frame is a relation that every one of
its calls keeps (`Spares`) and that is carried along the run. A backup and
a query make one call each, and their frames are read off that call.
-/
import ClusterBackup.Proofs.Entry
import ClusterBackup.Proofs.Restore.Protocol
import ClusterBackup.Proofs.Simulated.Backups
import ClusterBackup.Proofs.Simulated.Collections
import ClusterBackup.Proofs.Simulated.PollSchedule

namespace ClusterBackup.Simulated

open Cluster

/-! ## Frames -/

/-- A record of a backup was added at the location of a request, under a name that was free there;
or none was. -/
def AddsAtMostOne (r : SnapshotRequest) (s s' : Cluster) : Prop :=
  (∀ location n, s'.record? location n = s.record? location n) ∨
    ∃ name, s.record? (s.locationKey r.location) name = none ∧
      ∀ location n, s'.record? location n =
        if location = s.locationKey r.location ∧ n = name then some r.collection.name
        else s.record? location n

/-- What an errand may change of a cluster. -/
structure Frame (errand : Errand) (s s' : Cluster) : Prop where
  /-- Only a restore changes collections. -/
  collections : (∀ spec, errand ≠ .restore spec) → s'.collections = s.collections
  /-- A restore changes no collection but its own. -/
  others : ∀ spec, errand = .restore spec → ∀ n, n ≠ spec.collection.name →
    s'.collections.get? n = s.collections.get? n
  /-- A restore that is not forced keeps its collection, if there is one, with its layout. -/
  layout : ∀ spec, errand = .restore spec → spec.force = false →
    ∀ l, s.layout? spec.collection.name = some l → s'.layout? spec.collection.name = some l
  /-- No record of a backup goes away or changes. -/
  records : ∀ location name collection, s.record? location name = some collection →
    s'.record? location name = some collection
  /-- Only a backup adds records. -/
  backups : (∀ spec, errand ≠ .backup spec) → s'.backups = s.backups
  added : ∀ spec, errand = .backup spec → AddsAtMostOne spec.request s s'
  /-- A query changes no job but the one that it asks about. -/
  jobs : ∀ operation id, errand = .query operation id → ∀ other, other ≠ Text.trim id →
    s'.jobs.lookup other = s.jobs.lookup other

/-- The two clusters differ in their logs and their faults at most. -/
def SameButLog (s s' : Cluster) : Prop := ∃ calls faults, s' = s.withLog calls faults

theorem SameButLog.refl (s : Cluster) : SameButLog s s := ⟨s.calls, s.faults, rfl⟩

theorem SameButLog.trans {s s' s'' : Cluster} (h : SameButLog s s') (h' : SameButLog s' s'') :
    SameButLog s s'' := by
  obtain ⟨calls, faults, rfl⟩ := h
  obtain ⟨calls', faults', rfl⟩ := h'
  exact ⟨calls', faults', rfl⟩

/-! ## One call -/

namespace Cluster

variable {s : Cluster} {now : DateTime} {call : AdminCall}

/-- A call leaves the log and the faults behind, and its effect unless it meets a fault. -/
theorem sameButLog_answer (now : DateTime) (call : AdminCall) (s : Cluster) :
    SameButLog s (answer now call s).2 ∨
      s.met? call = none ∧ SameButLog (effect now call s).2 (answer now call s).2 := by
  cases met : s.met? call with
  | some fault => exact .inl ⟨_, _, congrArg Prod.snd (answer_of_fault met)⟩
  | none => exact .inr ⟨rfl, _, _, congrArg Prod.snd (answer_of_clear met)⟩

/-- What no effect changes, and what the log has no part in, no call changes. -/
theorem answer_related {R : Cluster → Cluster → Prop} (refl : R s s)
    (blind : ∀ s' calls faults, R s s' → R s (s'.withLog calls faults))
    (effected : R s (effect now call s).2) : R s (answer now call s).2 := by
  rcases sameButLog_answer now call s with ⟨calls, faults, same⟩ | ⟨-, calls, faults, same⟩
  · rw [same]
    exact blind s calls faults refl
  · rw [same]
    exact blind _ calls faults effected

theorem collections_queue (operation : Operation) (done : AdminResponse × Cluster) :
    (queue operation done).2.collections = done.2.collections := rfl

theorem backups_queue (operation : Operation) (done : AdminResponse × Cluster) :
    (queue operation done).2.backups = done.2.backups := rfl

/-- A restore changes no collection but its own. -/
theorem get?_performRestore_of_ne {r : SnapshotRequest} {n : String}
    (other : n ≠ r.collection.name) :
    (performRestore r s).2.collections.get? n = s.collections.get? n := by
  cases restored_performRestore r s with
  | made absent success state => rw [state, get?_createCollection, if_neg other]
  | refused failure state => rw [state]

/-- A call changes no collection but the one that it is about. -/
theorem get?_effect_of_ne {n : String} (other : n ≠ target call) :
    (effect now call s).2.collections.get? n = s.collections.get? n := by
  cases call with
  | prepareRestore r => rfl
  | collectionExists c => rfl
  | delete c =>
    simp only [effect, performDelete]
    split
    · exact (Table.get?_erase s.collections c.name n).trans (if_neg other)
    · rfl
  | backup r => rw [effect, collections_performBackup]
  | submitBackup r => rw [effect, collections_queue, collections_performBackup]
  | restore r => exact get?_performRestore_of_ne other
  | submitRestore r => exact get?_performRestore_of_ne other
  | optimize c => exact (get?_performOptimize c s n).trans (if_neg other)
  | queryStatus id => rw [effect, collections_poll]

theorem layout?_congr {s s' : Cluster} {n : String}
    (same : s'.collections.get? n = s.collections.get? n) : s'.layout? n = s.layout? n := by
  rw [layout?, layout?, same]

/-- A restore keeps the layout of every collection that is there. -/
theorem layout?_performRestore {r : SnapshotRequest} {n : String} {l : UInt32 × UInt32}
    (there : s.layout? n = some l) : (performRestore r s).2.layout? n = some l := by
  cases restored_performRestore r s with
  | refused failure state => rw [state, there]
  | made absent success state =>
    by_cases own : n = r.collection.name
    · subst own
      rw [layout?, absent] at there
      contradiction
    · rw [layout?_congr (get?_performRestore_of_ne own), there]

/-- Every call but a deletion keeps the layout of every collection that is there. -/
theorem layout?_effect {n : String} {l : UInt32 × UInt32} (there : s.layout? n = some l)
    (kept : ∀ c, call ≠ .delete c) : (effect now call s).2.layout? n = some l := by
  cases call with
  | prepareRestore r => exact there
  | collectionExists c => exact there
  | delete c => exact absurd rfl (kept c)
  | backup r => rw [effect, layout?, collections_performBackup, ← layout?, there]
  | submitBackup r =>
    rw [effect, layout?, collections_queue, collections_performBackup, ← layout?, there]
  | restore r => exact layout?_performRestore there
  | submitRestore r => exact layout?_performRestore there
  | optimize c =>
    rw [effect, layout?, get?_performOptimize]
    split
    · rw [Option.map_map]
      exact there
    · exact there
  | queryStatus id => rw [effect, layout?, collections_poll, ← layout?, there]

/-- Only what takes or queues a backup changes the backups. -/
theorem backups_effect (other : ∀ r, call ≠ .backup r ∧ call ≠ .submitBackup r) :
    (effect now call s).2.backups = s.backups := by
  cases call with
  | prepareRestore r => rfl
  | collectionExists c => rfl
  | delete c => exact backups_performDelete c s
  | backup r => exact absurd rfl (other r).1
  | submitBackup r => exact absurd rfl (other r).2
  | restore r => exact backups_performRestore r s
  | submitRestore r => rw [effect, backups_queue, backups_performRestore]
  | optimize c => exact backups_performOptimize c s
  | queryStatus id => exact backups_poll id s

/-- A backup adds one record at most. -/
theorem adds_performBackup (now : DateTime) (r : SnapshotRequest) (s : Cluster) :
    AddsAtMostOne r s (performBackup now r s).2 := by
  cases backedUp_performBackup now r s with
  | made name named fresh answer records => exact .inr ⟨name, fresh, records⟩
  | refused failure records => exact .inl records

end Cluster

/-! ## Backups and queries -/

/-- Records that were there stay if one is added at most. -/
theorem AddsAtMostOne.kept {r : SnapshotRequest} {s s' : Cluster} (h : AddsAtMostOne r s s')
    {location name collection : String} (there : s.record? location name = some collection) :
    s'.record? location name = some collection := by
  rcases h with same | ⟨new, free, records⟩
  · rw [same, there]
  · rw [records, if_neg, there]
    rintro ⟨rfl, rfl⟩
    rw [free] at there
    contradiction

/-- The call of a backup leaves the collections alone, and adds one record at most. -/
theorem backup_call (now : DateTime) (spec : BackupSpec) (s : Cluster) :
    (answer now (Backup.carried spec) s).2.collections = s.collections ∧
      AddsAtMostOne spec.request s (answer now (Backup.carried spec) s).2 := by
  refine answer_related (R := fun s s' => s'.collections = s.collections ∧
    AddsAtMostOne spec.request s s') ⟨rfl, .inl fun _ _ => rfl⟩ (fun _ _ _ h => h) ?_
  have collections := collections_performBackup now spec.request s
  have added := adds_performBackup now spec.request s
  cases mode : spec.mode with
  | sync =>
    have carried : Backup.carried spec = .backup spec.request := by simp [Backup.carried, mode]
    rw [carried]
    exact ⟨collections, added⟩
  | async =>
    have carried : Backup.carried spec = .submitBackup spec.request := by
      simp [Backup.carried, mode]
    rw [carried]
    exact ⟨collections, added⟩

theorem frame_backup {spec : BackupSpec} {s s' : Cluster}
    (collections : s'.collections = s.collections)
    (added : AddsAtMostOne spec.request s s') : Frame (.backup spec) s s' where
  collections _ := collections
  others _ same := by cases same
  layout _ same := by cases same
  records _ _ _ there := added.kept there
  backups other := absurd rfl (other spec)
  added _ same := by
    cases same
    exact added
  jobs _ _ same := by cases same

/-- The call of a query leaves collections and backups alone, and every job but its own. -/
theorem query_call (now : DateTime) (id : String) (s : Cluster) :
    let s' := (answer now (.queryStatus id) s).2
    s'.collections = s.collections ∧ s'.backups = s.backups ∧
      ∀ other, other ≠ id → s'.jobs.lookup other = s.jobs.lookup other :=
  answer_related (R := fun s s' => s'.collections = s.collections ∧ s'.backups = s.backups ∧
      ∀ other, other ≠ id → s'.jobs.lookup other = s.jobs.lookup other)
    ⟨rfl, rfl, fun _ _ => rfl⟩ (fun _ _ _ h => h)
    ⟨collections_poll id s, backups_poll id s, fun _ ne => lookup_poll_of_ne ne⟩

theorem frame_query {operation : Operation} {id : String} {s s' : Cluster}
    (collections : s'.collections = s.collections) (backups : s'.backups = s.backups)
    (jobs : ∀ other, other ≠ Text.trim id → s'.jobs.lookup other = s.jobs.lookup other) :
    Frame (.query operation id) s s' where
  collections _ := collections
  others _ same := by cases same
  layout _ same := by cases same
  records _ _ _ there := (record?_congr backups _ _).trans there
  backups _ := backups
  added _ same := by cases same
  jobs _ _ same := by
    cases same
    exact jobs

theorem frame_refuse (e : Error) (s : Cluster) : Frame (.refuse e) s s where
  collections _ := rfl
  others _ same := by cases same
  layout _ same := by cases same
  records _ _ _ there := there
  backups _ := rfl
  added _ same := by cases same
  jobs _ _ same := by cases same

/-! ## Restores -/

/-- Of the collections nothing changes but the one of a restore, which keeps its layout unless it
may be deleted; of the backups nothing changes at all. -/
structure Spares (spec : RestoreSpec) (s s' : Cluster) : Prop where
  backups : s'.backups = s.backups
  others : ∀ n, n ≠ spec.collection.name → s'.collections.get? n = s.collections.get? n
  layout : spec.force = false →
    ∀ l, s.layout? spec.collection.name = some l → s'.layout? spec.collection.name = some l

theorem Spares.refl (spec : RestoreSpec) (s : Cluster) : Spares spec s s :=
  ⟨rfl, fun _ _ => rfl, fun _ _ there => there⟩

theorem Spares.trans {spec : RestoreSpec} {s s' s'' : Cluster} (h : Spares spec s s')
    (h' : Spares spec s' s'') : Spares spec s s'' where
  backups := h'.backups.trans h.backups
  others n ne := (h'.others n ne).trans (h.others n ne)
  layout unforced l there := h'.layout unforced l (h.layout unforced l there)

/-- A simulated cluster gives back the request that it prepares, so a restore makes no call but
those of its script for its own request. -/
theorem mem_script_of_made {spec : RestoreSpec} {t : List Exchange} {o : Outcome}
    (course : Restore.Course spec t o)
    (prepared : ∀ q, Answered t (.prepareRestore spec.request) (.ok q) → q = spec.request)
    {call : AdminCall} (made : Made t call) : call ∈ Restore.script spec spec.request := by
  obtain ⟨q, order⟩ := course.order
  have scripted : call ∈ Restore.script spec q := order.subset made
  by_cases carried : call = Restore.carried spec q
  · subst carried
    rw [prepared q (course.carried_prepared q made)]
    simp [Restore.script]
  · simp only [Restore.script, List.mem_cons, carried, false_or] at scripted ⊢
    tauto

/-- Every call of the script of a restore is about its collection. -/
theorem target_of_scripted {spec : RestoreSpec} {call : AdminCall}
    (scripted : call ∈ Restore.script spec spec.request) : target call = spec.collection.name := by
  simp only [Restore.script, List.mem_cons, List.not_mem_nil, or_false] at scripted
  rcases scripted with rfl | rfl | rfl | rfl | rfl
  · rfl
  · rfl
  · rfl
  · unfold Restore.carried
    split <;> rfl
  · rfl

/-- No call of the script of a restore is one of a backup. -/
theorem not_backup_of_scripted {spec : RestoreSpec} {call : AdminCall}
    (scripted : call ∈ Restore.script spec spec.request) (r : SnapshotRequest) :
    call ≠ .backup r ∧ call ≠ .submitBackup r := by
  constructor
  · rintro rfl
    cases mode : spec.mode <;> simp [Restore.script, Restore.carried, mode] at scripted
  · rintro rfl
    cases mode : spec.mode <;> simp [Restore.script, Restore.carried, mode] at scripted

/-- Every call of a restore spares what the restore is not about. -/
theorem spares_call {spec : RestoreSpec} {call : AdminCall}
    (scripted : call ∈ Restore.script spec spec.request)
    (kept : spec.force = false → ∀ c, call ≠ .delete c) (now : DateTime) (s : Cluster) :
    Spares spec s (answer now call s).2 := by
  have own := target_of_scripted scripted
  exact answer_related (R := Spares spec) (Spares.refl spec s)
    (fun _ _ _ h => ⟨h.backups, h.others, h.layout⟩)
    { backups := backups_effect (not_backup_of_scripted scripted)
      others := fun n ne => get?_effect_of_ne (by rwa [own])
      layout := fun unforced l there => layout?_effect there (kept unforced) }

theorem frame_restore {spec : RestoreSpec} {s s' : Cluster} (h : Spares spec s s') :
    Frame (.restore spec) s s' where
  collections other := absurd rfl (other spec)
  others _ same := by
    cases same
    exact h.others
  layout _ same := by
    cases same
    exact h.layout
  records _ _ _ there := (record?_congr h.backups _ _).trans there
  backups _ := h.backups
  added _ same := by cases same
  jobs _ _ same := by cases same

/-! ## Whole runs -/

section

variable {clock : Nat → DateTime} {entry : Entry} {s : Cluster}

/-- A simulated cluster prepares a request as it is. -/
theorem prepared_eq {w : Workflow Outcome} {r q : SnapshotRequest} {p : Cluster × Nat}
    (prepared : Answered (w.transcript (.overTime fun n => client (clock n)) p)
      (.prepareRestore r) (.ok q)) : q = r := by
  obtain ⟨p', -, same⟩ := Workflow.answered_transcript_iff.mp prepared
  exact (Except.ok.inj same).symm

/-- What every call of a run keeps of the cluster that it meets, the run keeps. -/
theorem related_run {R : Cluster → Cluster → Prop} (refl : ∀ s, R s s)
    (trans : ∀ {s s' s''}, R s s' → R s' s'' → R s s'') (w : Workflow Outcome)
    (kept : ∀ call s' n, (call, s', n) ∈ w.visits (.overTime fun n => client (clock n)) (s, 0) →
      R s' (answer (clock n) call s').2) :
    R s (w.run (.overTime fun n => client (clock n)) (s, 0)).state.1 :=
  Workflow.related_of_visits (R := fun p p' : Cluster × Nat => R p.1 p'.1)
    (.overTime fun n => client (clock n)) (fun p => refl p.1) (fun h h' => trans h h') w (s, 0)
    fun v visited => kept v.1 v.2.1 v.2.2 visited

/-- A backup makes one call, and leaves what that call leaves. -/
theorem frame_run_backup {spec : BackupSpec} (issued : entry.errand = .backup spec) :
    Frame (.backup spec) s
      (entry.workflow.run (.overTime fun n => client (clock n)) (s, 0)).state.1 := by
  have course := entry.course (.overTime fun n => client (clock n)) (s, 0)
  have replayed := Workflow.replays_transcript (.overTime fun n => client (clock n))
    entry.workflow (s, 0)
  rw [issued] at course
  rw [replayed.eq_of_single (Backup.Course.calls_eq course)]
  obtain ⟨collections, added⟩ := backup_call (clock 0) spec s
  exact frame_backup collections added

/-- A query makes one call, or none if nothing is left of its id. -/
theorem frame_run_query {operation : Operation} {id : String}
    (issued : entry.errand = .query operation id) :
    Frame (.query operation id) s
      (entry.workflow.run (.overTime fun n => client (clock n)) (s, 0)).state.1 := by
  have course := entry.course (.overTime fun n => client (clock n)) (s, 0)
  have replayed := Workflow.replays_transcript (.overTime fun n => client (clock n))
    entry.workflow (s, 0)
  rw [issued] at course
  by_cases nothing : Text.trim id = ""
  · have silent : entry.workflow.transcript (.overTime fun n => client (clock n)) (s, 0) = [] :=
      List.map_eq_nil_iff.mp (JobStatus.Course.calls_eq_nil course nothing)
    rw [silent] at replayed
    rw [← (replayed : (s, 0) = _)]
    exact frame_query rfl rfl fun _ _ => rfl
  · rw [replayed.eq_of_single (JobStatus.Course.calls_eq course nothing)]
    obtain ⟨collections, backups, jobs⟩ := query_call (clock 0) (Text.trim id) s
    exact frame_query collections backups jobs

/-- What is refused makes no call. -/
theorem frame_run_refuse {e : Error} (refused : entry.errand = .refuse e) :
    Frame (.refuse e) s
      (entry.workflow.run (.overTime fun n => client (clock n)) (s, 0)).state.1 := by
  have course := entry.course (.overTime fun n => client (clock n)) (s, 0)
  have replayed := Workflow.replays_transcript (.overTime fun n => client (clock n))
    entry.workflow (s, 0)
  rw [refused] at course
  rw [course.1] at replayed
  rw [← (replayed : (s, 0) = _)]
  exact frame_refuse e s

/-- A restore spares what it is not about, call by call. -/
theorem spares_run {spec : RestoreSpec} (issued : entry.errand = .restore spec) :
    Spares spec s (entry.workflow.run (.overTime fun n => client (clock n)) (s, 0)).state.1 := by
  have course := entry.course (.overTime fun n => client (clock n)) (s, 0)
  rw [issued] at course
  refine related_run (.refl spec) .trans entry.workflow fun call s' n visited => ?_
  have made := Workflow.made_of_mem_visits visited
  have scripted := mem_script_of_made course (fun q => prepared_eq) made
  refine spares_call scripted (fun unforced c deletion => ?_) (clock n) s'
  rw [deletion] at scripted made
  have own : c = spec.collection := by
    simpa [Restore.script, (Restore.carried_ne_delete _ _ _).symm] using scripted
  rw [own] at made
  have forced := (course.delete_iff.mp made).2
  rw [unforced] at forced
  contradiction

/-- A run of which every call meets a fault changes nothing but the log and the faults. -/
theorem sameButLog_run
    (faulted : ∀ v ∈ entry.workflow.visits (.overTime fun n => client (clock n)) (s, 0),
      kind? v.1 ≠ none → v.2.1.met? v.1 ≠ none) :
    SameButLog s (entry.workflow.run (.overTime fun n => client (clock n)) (s, 0)).state.1 := by
  refine related_run .refl .trans entry.workflow fun call s' n visited => ?_
  rcases sameButLog_answer (clock n) call s' with same | ⟨clear, -⟩
  · exact same
  · -- Only a preparation gets through where everything meets a fault, and it changes nothing.
    have unlogged : kind? call = none := by
      by_contra logged
      exact faulted _ visited logged clear
    cases call with
    | prepareRestore r => exact .refl s'
    | _ => cases unlogged

end

/-- **Every call to a workflow keeps its frame**, whatever faults there are and whichever entry it
comes through; and one that met a fault at each of its calls changed nothing. Preparations are
never logged and meet no fault. -/
theorem every_entry_keeps_its_frame (clock : Nat → DateTime) (entry : Entry) (s : Cluster) :
    let cluster := Client.overTime fun n => client (clock n)
    let s' := (entry.workflow.run cluster (s, 0)).state.1
    Frame entry.errand s s' ∧
      ((∀ v ∈ entry.workflow.visits cluster (s, 0), kind? v.1 ≠ none → v.2.1.met? v.1 ≠ none) →
        s'.collections = s.collections ∧ s'.backups = s.backups ∧ s'.jobs = s.jobs ∧
          s'.nextRequest = s.nextRequest) := by
  intro cluster s'
  constructor
  · cases issued : entry.errand with
    | backup spec => exact frame_run_backup issued
    | restore spec => exact frame_restore (spares_run issued)
    | query operation id => exact frame_run_query issued
    | refuse e => exact frame_run_refuse issued
  · intro faulted
    obtain ⟨calls, faults, same⟩ := sameButLog_run faulted
    have last : s' = s.withLog calls faults := same
    rw [last]
    exact ⟨rfl, rfl, rfl, rfl⟩

/-- A cluster with a collection that one fault hides, and that another pretends to restore. -/
def pretending : Cluster :=
  ((Cluster.default.createCollection "catalog").inject .collectionExists
    (.respond (.failed 404 [])) false).inject .restore (.respond .ok) false

/-- A cluster that no look at a collection reaches. -/
def unreached : Cluster :=
  (Cluster.default.createCollection "catalog").inject .collectionExists (.unreachable "down") true

/-- The collection is optimized by a restore that never took place, and keeps its layout; a forced
restore that cannot reach the cluster leaves it. -/
theorem every_entry_keeps_its_frame_pretence :
    ((Entry.restore { collection := .default }).workflow.run
        (.overTime fun _ => client noon) (pretending, 0)).state.1.layout? "catalog" =
      some (2, 2) ∧
    ((Entry.restore { collection := .default, force := true }).workflow.run
        (.overTime fun _ => client noon) (unreached, 0)).state.1.collections =
      unreached.collections :=
  ⟨(every_entry_keeps_its_frame (fun _ => noon) (.restore { collection := .default })
      pretending).1.layout { collection := .default } rfl rfl (2, 2) rfl,
    ((every_entry_keeps_its_frame (fun _ => noon)
      (.restore { collection := .default, force := true }) unreached).2 (by decide)).1⟩

end ClusterBackup.Simulated
