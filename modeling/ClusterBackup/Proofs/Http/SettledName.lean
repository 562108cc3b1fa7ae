/-
ClusterBackup.Proofs.Http.SettledName — the name of a restore is settled
before anything is touched.

The preparation of a restore puts a name into the request that is not
blank. From then on no file is looked at: the request is prepared as it is,
and its parameters are the same in all surroundings. So of the requests
that a run sends after its preparation, whatever becomes of the files in
between, the one that restores has the name that was found in the
preparation. If the preparation fails, nothing is sent.
-/
import ClusterBackup.Proofs.Http.Requests
import ClusterBackup.Proofs.Restore.Protocol
import Mathlib

namespace ClusterBackup.Http

variable {ν : Type} {c : Config} {env : Surroundings} {t : Transport ν}

/-! ## Requests that have a name -/

/-- The parameters of a restore under a name. -/
def restoreParams (c : Config) (r : SnapshotRequest) (name : String) : Params :=
  [("action", "RESTORE"), ("name", name), ("collection", r.collection.name)]
    ++ ((c.locationFor r.location).map fun location => ("location", location)).toList
    ++ [("replicationFactor", toString c.replicationFactor.toNat),
      ("maxShardsPerNode", toString c.maxShardsPerNode.toNat)]

variable {q r : SnapshotRequest} {name : String}

theorem backupName_of_solid (solid : Text.isBlank name = false) (operation : Operation) :
    backupName c env operation { r with backupName := some name } = .ok name := by
  simp [backupName, Text.nonBlank?, solid]

/-- The parameters of a request with a name do not depend on the surroundings. -/
theorem snapshotParams_of_solid (solid : Text.isBlank name = false) :
    snapshotParams c env .restore { r with backupName := some name } =
      .ok (restoreParams c r name) := by
  rw [snapshotParams, backupName_of_solid solid]
  rfl

/-- A request with a name is prepared as it is. -/
theorem prepareRestore_of_solid (solid : Text.isBlank name = false) (s : State ν) :
    answer c env t (.prepareRestore { r with backupName := some name }) s =
      (.ok { r with backupName := some name }, s) := by
  rw [answer, backupName_of_solid solid]
  rfl

/-! ## What a restore sends -/

/-- The requests of a restore under a name: the URL of each without its query, and the parameters
that are added to it. -/
inductive Sent (c : Config) (spec : RestoreSpec) (name : String) : String → Params → Prop where
  | list : Sent c spec name (adminUrl c) [("action", "LIST")]
  | delete (force : spec.force = true) :
      Sent c spec name (adminUrl c) [("action", "DELETE"), ("name", spec.collection.name)]
  | restore (mode : spec.mode = .sync) :
      Sent c spec name (adminUrl c) (restoreParams c spec.request name)
  | submit (mode : spec.mode = .async) (id : String) :
      Sent c spec name (adminUrl c) (restoreParams c spec.request name ++ [("async", id)])
  | optimize :
      Sent c spec name (updateUrl c spec.collection) [("optimize", "true"), ("waitSearcher", "true")]

/-- What a call of the script asks for is one of these requests. -/
theorem sent_of_asked? {spec : RestoreSpec} (solid : Text.isBlank name = false) {number : Nat}
    {call : AdminCall}
    (scripted : call ∈ Restore.script spec { spec.request with backupName := some name })
    (forced : call = .delete spec.collection → spec.force = true) {u : Url}
    (asked : asked? c env number call = some u) :
    ∃ url params, Sent c spec name url params ∧ requestUrl? url params = some u := by
  simp only [Restore.script, List.mem_cons, List.not_mem_nil, or_false] at scripted
  rcases scripted with rfl | rfl | rfl | rfl | rfl
  · cases asked
  · exact ⟨_, _, .list, asked⟩
  · exact ⟨_, _, .delete (forced rfl), asked⟩
  · cases mode : spec.mode with
    | sync =>
      rw [Restore.carried, mode, asked?, plan, runPlan, snapshotParams_of_solid solid] at asked
      exact ⟨_, _, .restore mode, asked⟩
    | async =>
      rw [Restore.carried, mode, asked?, plan, submitPlan, snapshotParams_of_solid solid] at asked
      exact ⟨_, _, .submit mode _, asked⟩
  · exact ⟨_, _, .optimize, asked⟩

/-! ## Runs -/

section

variable {spec : RestoreSpec} {w : Workflow Outcome} {s : State (ν × List Url)}

/-- A run starts with a preparation in the surroundings of its first call. -/
theorem head?_transcript_overTime (env : Nat → Surroundings) (h : Restore.Issues spec w) :
    (w.transcript (.overTime fun n => client c (env n) t.recording) (s, 0)).head? =
      some ⟨.prepareRestore spec.request,
        (answer c (env 0) t.recording (.prepareRestore spec.request) s).1⟩ := by
  rw [h.head?_transcript, Client.answer_overTime]
  rfl

/-- A run whose preparation fails sends nothing. -/
theorem run_of_unprepared (env : Nat → Surroundings) (h : Restore.Issues spec w) {e : Error}
    (failed : (answer c (env 0) t.recording (.prepareRestore spec.request) s).1 = .error e) :
    let run := w.run (.overTime fun n => client c (env n) t.recording) (s, 0)
    run.state.1.network.2 = s.network.2 ∧ run.result = .ofFailure .restore spec.collection e := by
  intro run
  have first := head?_transcript_overTime (c := c) (t := t) (s := s) env h
  rw [failed] at first
  obtain ⟨calls, result⟩ := (h.course _ (s, 0)).of_unprepared first
  refine ⟨?_, result⟩
  have unasked : ∀ v ∈ w.visits (.overTime fun n => client c (env n) t.recording) (s, 0),
      asked? c (env v.2.2) v.2.1.nextId v.1 = none := by
    intro v visited
    have only := Workflow.made_of_mem_visits visited
    rw [Made, calls, List.mem_singleton] at only
    rw [only]
    rfl
  rw [requests_of_run, List.filterMap_eq_nil_iff.mpr unasked, List.append_nil]

/-- A run whose preparation gave back a name sends the requests of a restore under it. -/
theorem sent_of_prepared (env : Nat → Surroundings) (h : Restore.Issues spec w) {name : String}
    (solid : Text.isBlank name = false)
    (prepared : (answer c (env 0) t.recording (.prepareRestore spec.request) s).1 =
      .ok { spec.request with backupName := some name }) {u : Url}
    (asked : u ∈ (w.visits (.overTime fun n => client c (env n) t.recording) (s, 0)).filterMap
      fun v => asked? c (env v.2.2) v.2.1.nextId v.1) :
    ∃ url params, Sent c spec name url params ∧ requestUrl? url params = some u := by
  have first := head?_transcript_overTime (c := c) (t := t) (s := s) env h
  rw [prepared] at first
  have course := h.course (.overTime fun n => client c (env n) t.recording) (s, 0)
  obtain ⟨v, visited, asked⟩ := List.mem_filterMap.mp asked
  have made := Workflow.made_of_mem_visits visited
  refine sent_of_asked? solid ((course.order_of_prepared first).subset made) ?_ asked
  intro deletion
  rw [deletion] at made
  exact (course.delete_iff.mp made).2

end

/-- **The name of a restore is settled before anything is touched.** What a preparation gives back
is the request with a name that is not blank; from then on it is prepared as it is and its
parameters are known, in any surroundings. A run whose preparation fails sends nothing. Any other
run sends, over any network and whatever becomes of the files in between, requests of a restore
under the name that its preparation gave back, each with exactly its parameters after the pairs of
the base URL. -/
theorem restore_keeps_settled_name (c : Config) (t : Transport ν) :
    (∀ (env : Surroundings) (r q : SnapshotRequest) (s : State ν),
      (answer c env t (.prepareRestore r) s).1 = .ok q →
      ∃ name, q = { r with backupName := some name } ∧ Text.isBlank name = false ∧
        ∀ (later : Surroundings) (s : State ν),
          answer c later t (.prepareRestore q) s = (.ok q, s) ∧
          snapshotParams c later .restore q = .ok (restoreParams c r name)) ∧
    ∀ (env : Nat → Surroundings) (spec : RestoreSpec) (w : Workflow Outcome) (network : ν)
      (counter : Nat), Restore.Issues spec w →
      let run := w.run (.overTime fun n => client c (env n) t.recording)
        (⟨counter, (network, [])⟩, 0)
      let prepared :=
        (answer c (env 0) t.recording (.prepareRestore spec.request) ⟨counter, (network, [])⟩).1
      (∀ e, prepared = .error e →
        run.state.1.network.2 = [] ∧ run.result = .ofFailure .restore spec.collection e) ∧
      ∀ q name, prepared = .ok q → q.backupName = some name →
        ∀ u ∈ run.state.1.network.2, ∃ url params base, Sent c spec name url params ∧
          Url.parse? url = some base ∧ u.pairs = base.pairs ++ params ++ [formatParam] := by
  constructor
  · intro env r q s prepared
    obtain ⟨name, rfl, solid⟩ := prepared_eq prepared
    exact ⟨name, rfl, solid, fun later s =>
      ⟨prepareRestore_of_solid solid s, snapshotParams_of_solid solid⟩⟩
  intro env spec w network counter issues run prepared
  refine ⟨fun e failed => run_of_unprepared env issues failed, ?_⟩
  intro q name given named u requested
  obtain ⟨name', rfl, solid⟩ := prepared_eq given
  obtain rfl : name' = name := Option.some.inj named
  rw [requests_of_run, List.nil_append] at requested
  obtain ⟨url, params, sent, asked⟩ := sent_of_prepared env issues solid given requested
  obtain ⟨base, written, pairs⟩ := pairs_of_requestUrl? asked
  exact ⟨url, params, base, sent, written, pairs⟩

/-- Surroundings in which the only backup at a location is gone after the first call. -/
def vanishing (n : Nat) : Surroundings :=
  ⟨⟨2024, 1, 1, 12, 0, 0, 0⟩,
    if n = 0 then
      ⟨.directory [("data", .directory [("snapshot.20231231235959999", .directory [])])], []⟩
    else .empty⟩

/-- A forced restore of the latest backup there, whichever that is. -/
def latestThere : RestoreSpec := { collection := .default, location := some "/data", force := true }

/-- What it is prepared to. -/
def settledThere : SnapshotRequest := ⟨.default, some "/data", some "snapshot.20231231235959999"⟩

/-- A network that carries out whatever it is asked for. -/
def obliging : Transport Unit :=
  .replying (.ok ⟨200, Text.Utf8.encode
    "\x7b\"responseHeader\":\x7b\"status\":0\x7d,\"collections\":[\"catalog\"]\x7d".toList⟩)

theorem prepared_vanishing (s : State (Unit × List Url)) :
    answer {} (vanishing 0) obliging.recording (.prepareRestore latestThere.request) s =
      (.ok settledThere, s) := by
  have found : backupName {} (vanishing 0) .restore latestThere.request =
      .ok "snapshot.20231231235959999" := by cbv
  rw [answer, found]
  rfl

/-- A restore of a backup that is gone before the restore is asked for. -/
theorem restore_keeps_settled_name_vanishing :
    let run := (Restore.issue latestThere).run
      (.overTime fun n => client {} (vanishing n) obliging.recording) (⟨0, ((), [])⟩, 0)
    (∀ u ∈ run.state.1.network.2, ∃ url params base,
      Sent {} latestThere "snapshot.20231231235959999" url params ∧
        Url.parse? url = some base ∧ u.pairs = base.pairs ++ params ++ [formatParam]) ∧
      run.state.1.network.2.length = 4 := by
  intro run
  refine ⟨((restore_keeps_settled_name {} obliging).2 vanishing latestThere _ () 0 .direct).2
    settledThere _ (by rw [prepared_vanishing]) rfl, ?_⟩
  simp only [run, Restore.issue, Workflow.state_reported, Restore.execute, Workflow.bind_eq,
    Workflow.call, Workflow.ask_bind, Workflow.run_ask, Client.answer_overTime, client,
    prepared_vanishing]
  decide +kernel

end ClusterBackup.Http
