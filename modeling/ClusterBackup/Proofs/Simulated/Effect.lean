/-
ClusterBackup.Proofs.Simulated.Effect — a call to a simulated cluster, in
two parts.

A call is noted first: it goes into the log and uses up the fault that it
meets, if there is one. It then has an effect, unless a fault stands in
for it. `noted` and `effect` are the two parts, `faulted` is the answer to
a call that met a fault, and `answer_eq` puts them together for all calls
at once, so what holds of every call is proved of its parts.

The log and the faults are of no concern to an effect: `effect_withLog`
says that it neither reads nor writes them.
-/
import ClusterBackup.Proofs.Workflow.Run
import ClusterBackup.Simulated.Client

namespace ClusterBackup.Simulated

/-- The kind under which a call is logged. A preparation is not logged and meets no fault. -/
def kind? : AdminCall → Option CallKind
  | .prepareRestore _ => none
  | .collectionExists _ => some .collectionExists
  | .delete _ => some .delete
  | .backup _ => some .backup
  | .submitBackup _ => some .submitBackup
  | .restore _ => some .restore
  | .submitRestore _ => some .submitRestore
  | .optimize _ => some .optimize
  | .queryStatus _ => some .queryStatus

/-- What a call is about: a collection, or a request id. -/
def target : AdminCall → String
  | .collectionExists c | .delete c | .optimize c => c.name
  | .prepareRestore r | .backup r | .submitBackup r | .restore r | .submitRestore r =>
    r.collection.name
  | .queryStatus id => id

namespace Cluster

/-- The cluster with another log and other faults. -/
def withLog (s : Cluster) (calls : List LoggedCall) (faults : List Injected) : Cluster :=
  { s with calls, faults }

/-- The fault that a call meets. -/
def met? (s : Cluster) (call : AdminCall) : Option Fault :=
  (kind? call).bind fun kind => (s.enter kind (target call)).1

/-- The cluster once a call is in its log and has used up its fault. -/
def noted (s : Cluster) (call : AdminCall) : Cluster :=
  match kind? call with
  | none => s
  | some kind => (s.enter kind (target call)).2

/-- The answer to a call that met a fault. -/
def faulted : (call : AdminCall) → Fault → Except Error call.Answer
  | _, .unreachable reason => .error (.connection reason)
  | .prepareRestore r, .respond _ => .ok r
  | .collectionExists _, .respond r => .ok r.isSuccess
  | .delete _, .respond r | .backup _, .respond r | .restore _, .respond r
  | .optimize _, .respond r => .ok r
  | .submitBackup _, .respond r | .submitRestore _, .respond r => .ok (.rejected r)
  | .queryStatus _, .respond r => .ok { RawJobStatus.ofState "failed" with errors := r.errors }

/-- Queues a job that did its work, and accepts it. -/
def queue (operation : Operation) (done : AdminResponse × Cluster) : Submission × Cluster :=
  let (id, s) := done.2.track operation done.1
  (.accepted id, s)

/-- The answer to a call that meets no fault, and what it does to the cluster. -/
def effect (now : DateTime) : (call : AdminCall) → Cluster → call.Answer × Cluster
  | .prepareRestore r, s => (r, s)
  | .collectionExists c, s => (s.hasCollection c.name, s)
  | .delete c, s => performDelete c s
  | .backup r, s => performBackup now r s
  | .submitBackup r, s => queue .backup (performBackup now r s)
  | .restore r, s => performRestore r s
  | .submitRestore r, s => queue .restore (performRestore r s)
  | .optimize c, s => performOptimize c s
  | .queryStatus id, s => s.poll id

/-! ## The log and the faults -/

section

variable (s : Cluster) (calls : List LoggedCall) (faults : List Injected)

@[simp] theorem withLog_config : (s.withLog calls faults).config = s.config := rfl
@[simp] theorem withLog_collections : (s.withLog calls faults).collections = s.collections := rfl
@[simp] theorem withLog_backups : (s.withLog calls faults).backups = s.backups := rfl
@[simp] theorem withLog_jobs : (s.withLog calls faults).jobs = s.jobs := rfl
@[simp] theorem withLog_nextRequest : (s.withLog calls faults).nextRequest = s.nextRequest := rfl
@[simp] theorem withLog_faults : (s.withLog calls faults).faults = faults := rfl

theorem withLog_self : s.withLog s.calls s.faults = s := rfl

@[simp] theorem withLog_hasCollection (name : String) :
    (s.withLog calls faults).hasCollection name = s.hasCollection name := rfl
@[simp] theorem withLog_locationKey (location : Option String) :
    (s.withLog calls faults).locationKey location = s.locationKey location := rfl
@[simp] theorem withLog_backupsAt (location : String) :
    (s.withLog calls faults).backupsAt location = s.backupsAt location := rfl
@[simp] theorem withLog_wantedBackup (r : SnapshotRequest) :
    (s.withLog calls faults).wantedBackup r = s.wantedBackup r := rfl
@[simp] theorem withLog_createCollection (name : String) :
    (s.withLog calls faults).createCollection name =
      (s.createCollection name).withLog calls faults := rfl

end

/-- What is done to a cluster neither reads nor writes the log and the faults. -/
def Oblivious {α : Type} (act : Cluster → α × Cluster) : Prop :=
  ∀ s calls faults, act (s.withLog calls faults) = ((act s).1, (act s).2.withLog calls faults)

theorem oblivious_performDelete (c : Collection) : Oblivious (performDelete c) := by
  intro s calls faults
  cases present : s.hasCollection c.name with
  | false => simp [performDelete, present]
  | true =>
    simp only [performDelete, withLog_hasCollection, present, if_true]
    rfl

theorem oblivious_performOptimize (c : Collection) : Oblivious (performOptimize c) := by
  intro s calls faults
  simp only [performOptimize, withLog_collections]
  cases s.collections.get? c.name <;> rfl

theorem oblivious_performBackup (now : DateTime) (r : SnapshotRequest) :
    Oblivious (performBackup now r) := by
  intro s calls faults
  cases present : s.hasCollection r.collection.name with
  | false => simp [performBackup, present]
  | true =>
    cases taken : (s.backupsAt (s.locationKey r.location)).contains
        (r.backupName.getD (Snapshot.name now)) with
    | false =>
      simp only [performBackup, withLog_hasCollection, withLog_locationKey, withLog_backupsAt,
        present, taken, if_true]
      rfl
    | true =>
      simp only [performBackup, withLog_hasCollection, withLog_locationKey, withLog_backupsAt,
        present, taken, if_true]
      rfl

theorem oblivious_performRestore (r : SnapshotRequest) : Oblivious (performRestore r) := by
  intro s calls faults
  cases wanted : s.wantedBackup r with
  | none => simp [performRestore, wanted]
  | some name =>
    cases held : (s.backupsAt (s.locationKey r.location)).contains name with
    | false => simp [performRestore, wanted, held]
    | true =>
      cases present : s.hasCollection r.collection.name with
      | false => simp [performRestore, wanted, held, present]
      | true => simp [performRestore, wanted, held, present]

theorem oblivious_poll (id : String) : Oblivious (poll id) := by
  intro s calls faults
  simp only [poll, withLog_jobs]
  cases s.jobs.lookup id <;> rfl

theorem Oblivious.queue {act : Cluster → AdminResponse × Cluster} (h : Oblivious act)
    (operation : Operation) : Oblivious fun s => queue operation (act s) := by
  intro s calls faults
  simp only [h s calls faults]
  rfl

/-- No effect reads or writes the log and the faults. -/
theorem oblivious_effect (now : DateTime) (call : AdminCall) : Oblivious (effect now call) := by
  cases call with
  | prepareRestore r => exact fun _ _ _ => rfl
  | collectionExists c => exact fun _ _ _ => rfl
  | delete c => exact oblivious_performDelete c
  | backup r => exact oblivious_performBackup now r
  | submitBackup r => exact (oblivious_performBackup now r).queue .backup
  | restore r => exact oblivious_performRestore r
  | submitRestore r => exact (oblivious_performRestore r).queue .restore
  | optimize c => exact oblivious_performOptimize c
  | queryStatus id => exact oblivious_poll id

/-! ## The two parts of a call -/

/-- Noting a call changes the log and the faults alone. -/
theorem noted_eq (s : Cluster) (call : AdminCall) :
    s.noted call = s.withLog (s.noted call).calls (s.noted call).faults := by
  cases call <;> rfl

/-- A call is noted, and then has its effect or is stopped by a fault. -/
theorem answer_eq (now : DateTime) (call : AdminCall) (s : Cluster) :
    answer now call s =
      match s.met? call with
      | some fault => (faulted call fault, s.noted call)
      | none => (.ok (effect now call (s.noted call)).1, (effect now call (s.noted call)).2) := by
  cases call with
  | prepareRestore r => rfl
  | collectionExists c =>
    simp only [answer, existsCall, met?, noted, kind?, target, Option.bind]
    rcases s.enter _ _ with ⟨_ | _ | _, s⟩ <;> rfl
  | queryStatus id =>
    simp only [answer, queryCall, met?, noted, kind?, target, Option.bind]
    rcases s.enter _ _ with ⟨_ | _ | _, s⟩ <;> rfl
  | submitBackup r | submitRestore r =>
    simp only [answer, submit, met?, noted, kind?, target, Option.bind]
    rcases s.enter _ _ with ⟨_ | _ | _, s⟩ <;> rfl
  | delete c | backup r | restore r | optimize c =>
    simp only [answer, guarded, met?, noted, kind?, target, Option.bind]
    rcases s.enter _ _ with ⟨_ | _ | _, s⟩ <;> rfl

/-- A call that meets a fault changes the log and the faults alone. -/
theorem answer_of_fault {now : DateTime} {call : AdminCall} {s : Cluster} {fault : Fault}
    (h : s.met? call = some fault) :
    answer now call s =
      (faulted call fault, s.withLog (s.noted call).calls (s.noted call).faults) := by
  rw [answer_eq, h, ← noted_eq]

/-- A call that meets no fault has its effect, apart from the log and the faults. -/
theorem answer_of_clear {now : DateTime} {call : AdminCall} {s : Cluster}
    (h : s.met? call = none) :
    answer now call s = (.ok (effect now call s).1,
      (effect now call s).2.withLog (s.noted call).calls (s.noted call).faults) := by
  rw [answer_eq, h, noted_eq, oblivious_effect]
  rfl

/-! ## Clusters without faults -/

theorem met?_of_faultless {s : Cluster} (h : s.faults = []) (call : AdminCall) :
    s.met? call = none := by
  cases call <;> simp [met?, kind?, enter, h, takeFault]

/-- Where no fault waits, none is met, and none waits afterwards. -/
theorem answer_of_faultless {now : DateTime} {call : AdminCall} {s : Cluster}
    (h : s.faults = []) :
    answer now call s =
      (.ok (effect now call s).1, (effect now call s).2.withLog (s.noted call).calls []) := by
  have none_left : (s.noted call).faults = [] := by
    cases call <;> simp [noted, kind?, enter, h, takeFault]
  rw [answer_of_clear (met?_of_faultless h call), none_left]

end Cluster

/-- A moment at which a cluster can be looked at. -/
def noon : DateTime := ⟨2024, 1, 1, 12, 0, 0, 0⟩

/-- A simulated cluster without log and faults. -/
def unhindered (now : DateTime) : Client Cluster where
  name := "memory"
  answer call s := (.ok (Cluster.effect now call s).1, (Cluster.effect now call s).2)

/-- **On a cluster without faults, a workflow runs as if there were neither faults nor a log.** -/
theorem run_faultless {α : Type} (clock : Nat → DateTime) (w : Workflow α) (s : Cluster)
    (calls : List LoggedCall) (n : Nat) :
    ∃ calls', w.run (Client.overTime fun n => client (clock n)) (s.withLog calls [], n) =
      let r := w.run (Client.overTime fun n => unhindered (clock n)) (s, n)
      ⟨r.result, r.reports, (r.state.1.withLog calls' [], r.state.2)⟩ := by
  -- The log is any log, since what comes after a call starts with a longer one.
  induction w generalizing s calls n with
  | done a => exact ⟨calls, rfl⟩
  | ask c next ih =>
    have answered : Cluster.answer (clock n) c (s.withLog calls []) = _ :=
      Cluster.answer_of_faultless (Cluster.withLog_faults s calls [])
    rw [Cluster.oblivious_effect] at answered
    obtain ⟨calls', h⟩ := ih (.ok (Cluster.effect (clock n) c s).1)
      (Cluster.effect (clock n) c s).2 ((s.withLog calls []).noted c).calls (n + 1)
    refine ⟨calls', ?_⟩
    simp only [Workflow.run_ask, Client.overTime, client, unhindered, answered] at h ⊢
    exact h
  | tell report next ih =>
    obtain ⟨calls', h⟩ := ih s calls n
    refine ⟨calls', ?_⟩
    simp only [Workflow.run]
    rw [h]

end ClusterBackup.Simulated
