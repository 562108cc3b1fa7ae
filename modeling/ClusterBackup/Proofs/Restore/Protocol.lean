/-
ClusterBackup.Proofs.Restore.Protocol — what a restore may ask of a
cluster, and when.

`Protocol` states the rules over a transcript and an outcome alone: the
preparation comes first, an existing collection is deleted only when the
restore is forced, the restore is asked for only once the way is free and
exactly as it was prepared, and only a restore that was carried out is
followed by an optimization, of which the outcome takes no notice.

`follows_protocol` proves them of every restore on every client. Its proof
goes through the list of courses: `Ending.tail` says all that the end of a
restore can contribute to a transcript, and the rules about the calls
before it do not see that end.
-/
import ClusterBackup.Proofs.Restore.Course

namespace ClusterBackup

namespace Restore

/-- Nothing stands in the way of a restore: its collection does not exist, or was deleted by a
forced one. -/
def Cleared (spec : RestoreSpec) (t : List Exchange) : Prop :=
  Answered t (.collectionExists spec.collection) (.ok false) ∨
    (Answered t (.collectionExists spec.collection) (.ok true) ∧ spec.force = true ∧
      ∃ r, Answered t (.delete spec.collection) (.ok r) ∧ r.isSuccess = true)

/-- The restore was carried out, and the cluster called it a success. -/
def Succeeded (t : List Exchange) : Prop :=
  ∃ q r, Answered t (.restore q) (.ok r) ∧ r.isSuccess = true

/-- The calls of a restore that nothing stops. -/
def script (spec : RestoreSpec) (q : SnapshotRequest) : List AdminCall :=
  [.prepareRestore spec.request, .collectionExists spec.collection, .delete spec.collection,
    carried spec q, .optimize spec.collection]

/-- The rules of a restore. -/
structure Protocol (spec : RestoreSpec) (t : List Exchange) (o : Outcome) : Prop where
  /-- The preparation is the first call. -/
  prepared_first : ∃ answer, t.head? = some ⟨.prepareRestore spec.request, answer⟩
  /-- No call is made but the five of the script, each at most once and in their order. -/
  order : ∃ q, (t.map (·.call)).Sublist (script spec q)
  exists_iff : Made t (.collectionExists spec.collection) ↔
    ∃ q, Answered t (.prepareRestore spec.request) (.ok q)
  delete_iff : Made t (.delete spec.collection) ↔
    Answered t (.collectionExists spec.collection) (.ok true) ∧ spec.force = true
  carried_iff : (∃ q, Made t (carried spec q)) ↔ Cleared spec t
  /-- What is carried out or queued is the request that the preparation gave back. -/
  carried_prepared : ∀ q, Made t (carried spec q) →
    Answered t (.prepareRestore spec.request) (.ok q)
  optimize_iff : Made t (.optimize spec.collection) ↔ spec.mode = .sync ∧ Succeeded t
  sync_success_iff : spec.mode = .sync → (o.success = true ↔ Succeeded t)
  async_success_iff : spec.mode = .async →
    (o.success = true ↔ ∃ q id, Answered t (.submitRestore q) (.ok (.accepted id)))

/-! ## The call that carries a restore out -/

section

variable (spec : RestoreSpec) (q : SnapshotRequest)

@[simp] theorem carried_inj (q' : SnapshotRequest) :
    carried spec q = carried spec q' ↔ q = q' := by
  cases mode : spec.mode <;> simp [carried, mode]

@[simp] theorem carried_ne_prepareRestore (r : SnapshotRequest) :
    carried spec q ≠ .prepareRestore r := by
  cases mode : spec.mode <;> simp [carried, mode]

@[simp] theorem carried_ne_collectionExists (c : Collection) :
    carried spec q ≠ .collectionExists c := by
  cases mode : spec.mode <;> simp [carried, mode]

@[simp] theorem carried_ne_delete (c : Collection) : carried spec q ≠ .delete c := by
  cases mode : spec.mode <;> simp [carried, mode]

@[simp] theorem carried_ne_optimize (c : Collection) : carried spec q ≠ .optimize c := by
  cases mode : spec.mode <;> simp [carried, mode]

@[simp] theorem carried_ne_queryStatus (id : String) : carried spec q ≠ .queryStatus id := by
  cases mode : spec.mode <;> simp [carried, mode]

end

/-! ## The end of a restore -/

section

variable {spec : RestoreSpec} {q : SnapshotRequest} {t : List Exchange} {o : Outcome}

/-- The end of a restore asks for the restore, and then perhaps for an optimization. -/
theorem Ending.calls_eq (h : Ending spec q t o) :
    t.map (·.call) = [carried spec q] ∨
      t.map (·.call) = [carried spec q, .optimize spec.collection] := by
  cases h with
  | unsubmitted mode e => simp [carried, mode]
  | submitted mode answer => simp [carried, mode]
  | unanswered mode e => simp [carried, mode]
  | unrestored mode r failure => simp [carried, mode]
  | restored mode r success answer => simp [carried, mode]

theorem Ending.made_carried_iff (h : Ending spec q t o) (q' : SnapshotRequest) :
    Made t (carried spec q') ↔ q' = q := by
  unfold Made
  rcases h.calls_eq with hc | hc <;> rw [hc] <;> simp

/-- Once the way is free, nothing is asked that clears it. -/
theorem Ending.not_made (h : Ending spec q t o) :
    (∀ r, ¬ Made t (.prepareRestore r)) ∧ (∀ c, ¬ Made t (.collectionExists c)) ∧
      ∀ c, ¬ Made t (.delete c) := by
  unfold Made
  rcases h.calls_eq with hc | hc <;> rw [hc] <;> cases mode : spec.mode <;> simp [carried, mode]

/-- An optimization follows exactly a restore that was carried out. -/
theorem Ending.optimize_iff (h : Ending spec q t o) :
    Made t (.optimize spec.collection) ↔ spec.mode = .sync ∧ Succeeded t := by
  unfold Succeeded
  cases h with
  | unsubmitted mode e => simp [mode]
  | submitted mode answer => simp [mode]
  | unanswered mode e => simp
  | unrestored mode r failure => simp [failure]
  | restored mode r success answer =>
    exact ⟨fun _ => ⟨mode, q, r, by simp, success⟩, fun _ => by simp⟩

/-- The outcome is the success of the restore, whatever becomes of the optimization. -/
theorem Ending.sync_success_iff (h : Ending spec q t o) (sync : spec.mode = .sync) :
    o.success = true ↔ Succeeded t := by
  unfold Succeeded
  cases h with
  | unsubmitted mode e => simp [sync] at mode
  | submitted mode answer => simp [sync] at mode
  | unanswered mode e => simp
  | unrestored mode r failure => simp [failure]
  | restored mode r success answer =>
    exact ⟨fun _ => ⟨q, r, by simp, success⟩, fun _ => by simp [success]⟩

theorem Ending.async_success_iff (h : Ending spec q t o) (async : spec.mode = .async) :
    o.success = true ↔ ∃ q id, Answered t (.submitRestore q) (.ok (.accepted id)) := by
  cases h with
  | unsubmitted mode e => simp
  | submitted mode answer =>
    cases answer with
    | accepted id => simp
    | rejected r => simp
  | unanswered mode e => simp [async] at mode
  | unrestored mode r failure => simp [async] at mode
  | restored mode r success answer => simp [async] at mode

/-! ## The whole restore -/

theorem Course.exists_iff (h : Course spec t o) : Made t (.collectionExists spec.collection) ↔
    ∃ q, Answered t (.prepareRestore spec.request) (.ok q) := by
  cases h with
  | absent q rest => simp
  | replaced q force r success rest => simp
  | _ => simp

theorem Course.delete_iff (h : Course spec t o) : Made t (.delete spec.collection) ↔
    Answered t (.collectionExists spec.collection) (.ok true) ∧ spec.force = true := by
  cases h with
  | absent q rest => simp [rest.not_made, not_answered]
  | replaced q force r success rest => simp [force]
  | refused q force => simp [force]
  | undeleted q force e => simp [force]
  | deletionRefused q force r failure => simp [force]
  | _ => simp

theorem Course.carried_iff (h : Course spec t o) :
    (∃ q, Made t (carried spec q)) ↔ Cleared spec t := by
  unfold Cleared
  cases h with
  | absent q rest => simp [rest.made_carried_iff]
  | replaced q force r success rest => simp [rest.made_carried_iff, force, success]
  | refused q force => simp [force]
  | undeleted q force e => simp [force]
  | deletionRefused q force r failure => simp [failure]
  | _ => simp

theorem Course.carried_prepared (h : Course spec t o) (q : SnapshotRequest)
    (made : Made t (carried spec q)) : Answered t (.prepareRestore spec.request) (.ok q) := by
  cases h with
  | absent q' rest =>
    have same : q = q' := by simpa [rest.made_carried_iff] using made
    simp [same]
  | replaced q' force r success rest =>
    have same : q = q' := by simpa [rest.made_carried_iff] using made
    simp [same]
  | _ => simp at made

theorem Course.optimize_iff (h : Course spec t o) :
    Made t (.optimize spec.collection) ↔ spec.mode = .sync ∧ Succeeded t := by
  cases h with
  | absent q rest => simpa [Succeeded] using rest.optimize_iff
  | replaced q force r success rest => simpa [Succeeded] using rest.optimize_iff
  | _ => simp [Succeeded]

theorem Course.sync_success_iff (h : Course spec t o) (sync : spec.mode = .sync) :
    o.success = true ↔ Succeeded t := by
  cases h with
  | absent q rest => simpa [Succeeded] using rest.sync_success_iff sync
  | replaced q force r success rest => simpa [Succeeded] using rest.sync_success_iff sync
  | _ => simp [Succeeded, refusal, deleteFailed, deleteRefused]

theorem Course.async_success_iff (h : Course spec t o) (async : spec.mode = .async) :
    o.success = true ↔ ∃ q id, Answered t (.submitRestore q) (.ok (.accepted id)) := by
  cases h with
  | absent q rest => simpa using rest.async_success_iff async
  | replaced q force r success rest => simpa using rest.async_success_iff async
  | _ => simp [refusal, deleteFailed, deleteRefused]

theorem Course.prepared_first (h : Course spec t o) :
    ∃ answer, t.head? = some ⟨.prepareRestore spec.request, answer⟩ := by
  cases h <;> exact ⟨_, rfl⟩

/-- A restore stops where its preparation fails. -/
theorem Course.of_unprepared (h : Course spec t o) {e : Error}
    (first : t.head? = some ⟨.prepareRestore spec.request, .error e⟩) :
    t.map (·.call) = [.prepareRestore spec.request] ∧
      o = .ofFailure .restore spec.collection e := by
  cases h with
  | unprepared e' =>
    cases first
    exact ⟨rfl, rfl⟩
  | _ => cases first

/-- A restore makes the calls of the script for the request that its preparation gave back. -/
theorem Course.order_of_prepared (h : Course spec t o) {q : SnapshotRequest}
    (first : t.head? = some ⟨.prepareRestore spec.request, .ok q⟩) :
    (t.map (·.call)).Sublist (script spec q) := by
  unfold script
  cases h with
  | unprepared e => cases first
  | absent q' rest =>
    cases first
    rcases rest.calls_eq with hc | hc <;> simp [hc]
  | replaced q' force r success rest =>
    cases first
    rcases rest.calls_eq with hc | hc <;> simp [hc]
  | unchecked q' e =>
    cases first
    simp
  | refused q' force =>
    cases first
    simp
  | undeleted q' force e =>
    cases first
    simp
  | deletionRefused q' force r failure =>
    cases first
    simp

/-- A restore makes the calls of its script, as far as it comes, and leaves out at most the
deletion. -/
theorem Course.order (h : Course spec t o) : ∃ q, (t.map (·.call)).Sublist (script spec q) := by
  obtain ⟨answer, first⟩ := h.prepared_first
  cases answer with
  | error e =>
    refine ⟨spec.request, ?_⟩
    rw [(h.of_unprepared first).1]
    simp [script]
  | ok q => exact ⟨q, h.order_of_prepared first⟩

theorem Course.protocol (h : Course spec t o) : Protocol spec t o where
  prepared_first := h.prepared_first
  order := h.order
  exists_iff := h.exists_iff
  delete_iff := h.delete_iff
  carried_iff := h.carried_iff
  carried_prepared := h.carried_prepared
  optimize_iff := h.optimize_iff
  sync_success_iff := h.sync_success_iff
  async_success_iff := h.async_success_iff

end

/-! ## Every restore -/

/-- The workflows that issue a restore: the entry made for it, and a request that turns out to
issue it. -/
inductive Issues (spec : RestoreSpec) : Workflow Outcome → Prop where
  | direct : Issues spec (issue spec)
  | requested (r : JobRequest RestoreSpec) (resolved : r.resolve = .ok (.issue spec)) :
      Issues spec (run r)

/-- A workflow that issues a restore makes it and reports what it comes to. -/
theorem Issues.eq_reported {spec : RestoreSpec} {w : Workflow Outcome} (h : Issues spec w) :
    w = (execute spec).reported := by
  cases h with
  | direct => rfl
  | requested r resolved => rw [run, resolved]

/-- A workflow that issues a restore takes a course of it. -/
theorem Issues.course {σ : Type} (client : Client σ) {spec : RestoreSpec} {w : Workflow Outcome}
    (h : Issues spec w) (s : σ) :
    Course spec (w.transcript client s) (w.run client s).result := by
  rw [h.eq_reported, Workflow.transcript_reported, Workflow.result_reported]
  exact course_execute client spec s

/-- A workflow that issues a restore starts with its preparation. -/
theorem Issues.head?_transcript {σ : Type} (client : Client σ) {spec : RestoreSpec}
    {w : Workflow Outcome} (h : Issues spec w) (s : σ) :
    (w.transcript client s).head? =
      some ⟨.prepareRestore spec.request, (client.answer (.prepareRestore spec.request) s).1⟩ := by
  rw [h.eq_reported, Workflow.transcript_reported, execute, Workflow.bind_eq, Workflow.call,
    Workflow.ask_bind, Workflow.transcript_ask]
  rfl

/-- **Every restore follows the protocol**, whatever the cluster answers. -/
theorem follows_protocol {σ : Type} (client : Client σ) (s : σ) {spec : RestoreSpec}
    {w : Workflow Outcome} (h : Issues spec w) :
    Protocol spec (w.transcript client s) (w.run client s).result := by
  have executed : Protocol spec ((execute spec).transcript client s)
      ((execute spec).run client s).result := (course_execute client spec s).protocol
  cases h with
  | direct => simpa [issue] using executed
  | requested r resolved => simpa [run, resolved] using executed

/-- A cluster that refuses every second call, and lies about its collections. -/
def moody : Client Nat where
  name := "moody"
  answer
    | .prepareRestore r, n => (.ok { r with backupName := some "latest" }, n + 1)
    | .collectionExists _, n => (.ok true, n + 1)
    | .delete _, n | .backup _, n | .restore _, n | .optimize _, n =>
      (.ok (if n % 2 = 0 then .ok else .failed 500 []), n + 1)
    | .submitBackup _, n | .submitRestore _, n => (.ok (.rejected .ok), n + 1)
    | .queryStatus _, n => (.error (.connection "lost"), n + 1)

/-- A forced restore, asked for with a blank request id, on a cluster that deletes the collection
and then refuses to restore it. -/
theorem follows_protocol_forced :
    Issues { collection := .default, force := true }
        (run ⟨{ collection := .default, force := true }, false, some " "⟩) ∧
      Protocol { collection := .default, force := true }
        ((run ⟨{ collection := .default, force := true }, false, some " "⟩).transcript moody 0)
        ((run ⟨{ collection := .default, force := true }, false, some " "⟩).run moody 0).result :=
  ⟨.requested _ rfl, follows_protocol moody 0 (.requested _ rfl)⟩

end Restore

end ClusterBackup
