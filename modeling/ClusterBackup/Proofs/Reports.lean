/-
ClusterBackup.Proofs.Reports — one report of every call to a workflow.

`Workflow.events` is a run as it is seen from outside: the calls to the
cluster and the reports to the watchers, in one order. A silent workflow
shows its calls alone, and reporting it adds one report at the very end
(`events_reported`); every entry is of that form.

A `session` is a caller who makes one call after another, each on what the
ones before have left of the cluster. `Entry.turns` lists its calls with
the states that they meet, so that each of them can be looked at alone.
-/
import ClusterBackup.Proofs.Entry

namespace ClusterBackup

/-! ## Events of a run -/

/-- What is seen of a run from outside. -/
inductive Event where
  | exchange (x : Exchange)
  | report (r : Report)

namespace Workflow

variable {α β σ : Type} (client : Client σ)

/-- The calls and the reports of a run, in their order. -/
def events : Workflow α → σ → List Event
  | done _, _ => []
  | ask call next, s =>
    .exchange ⟨call, (client.answer call s).1⟩ ::
      (next (client.answer call s).1).events (client.answer call s).2
  | tell report next, s => .report report :: next.events s

/-- The events of a workflow that goes on are those of its first part, and then the others. -/
theorem events_bind (w : Workflow α) (f : α → Workflow β) (s : σ) :
    (w.bind f).events client s =
      w.events client s ++
        (f (w.run client s).result).events client (w.run client s).state := by
  induction w generalizing s with
  | done a => rfl
  | ask c next ih => exact congrArg (_ :: ·) (ih _ _)
  | tell report next ih => exact congrArg (_ :: ·) (ih s)

/-- Of a silent workflow nothing is seen but its calls. -/
theorem events_of_silent {w : Workflow α} (silent : w.Silent) (s : σ) :
    w.events client s = (w.transcript client s).map .exchange := by
  induction w generalizing s with
  | done a => rfl
  | ask c next ih => rw [events, transcript_ask, List.map_cons, ih _ (silent _)]
  | tell report next ih => cases silent

/-- The report of a workflow that tells nothing by itself comes after all of its calls. -/
theorem events_reported {w : Workflow Outcome} (silent : w.Silent) (s : σ) :
    w.reported.events client s =
      (w.transcript client s).map .exchange ++
        [.report (Report.ofOutcome (w.run client s).result)] := by
  rw [reported, bind_eq, events_bind, events_of_silent client silent]
  rfl

end Workflow

/-! ## Calls one after another -/

namespace Entry

variable {σ : Type} (client : Client σ)

/-- The events of an entry: its calls, and the report of its outcome. -/
theorem events_eq (e : Entry) (s : σ) :
    e.workflow.events client s =
      (e.workflow.transcript client s).map .exchange ++
        [.report (Report.ofOutcome (e.workflow.run client s).result)] := by
  rw [workflow_eq, Workflow.events_reported client e.errand.silent_workflow,
    Workflow.transcript_reported, Workflow.result_reported]

/-- Makes one call after another, and gives their outcomes. -/
def session : List Entry → Workflow (List Outcome)
  | [] => pure []
  | e :: es => do
    let o ← e.workflow
    let os ← session es
    return o :: os

/-- The calls of a session, each with the state of the client that it meets. -/
def turns : List Entry → σ → List (Entry × σ)
  | [], _ => []
  | e :: es, s => (e, s) :: turns es (e.workflow.run client s).state

theorem map_fst_turns (entries : List Entry) (s : σ) :
    (turns client entries s).map (·.1) = entries := by
  induction entries generalizing s with
  | nil => rfl
  | cons e es ih => rw [turns, List.map_cons, ih]

/-- A session starts with its first call and goes on with the others. -/
theorem run_session_cons (e : Entry) (es : List Entry) (s : σ) :
    let first := e.workflow.run client s
    let rest := (session es).run client first.state
    (session (e :: es)).run client s =
      ⟨first.result :: rest.result, first.reports ++ rest.reports, rest.state⟩ := by
  simp only [session, Workflow.bind_eq, Workflow.run_bind, Workflow.pure_eq_done,
    Workflow.run_done, List.append_nil]

theorem events_session_cons (e : Entry) (es : List Entry) (s : σ) :
    (session (e :: es)).events client s =
      e.workflow.events client s ++
        (session es).events client (e.workflow.run client s).state := by
  simp only [session, Workflow.bind_eq, Workflow.events_bind, Workflow.pure_eq_done,
    Workflow.events, List.append_nil]

/-- A session gives the outcome of every call. -/
theorem result_session (entries : List Entry) (s : σ) :
    ((session entries).run client s).result =
      (turns client entries s).map fun turn => (turn.1.workflow.run client turn.2).result := by
  induction entries generalizing s with
  | nil => rfl
  | cons e es ih => rw [run_session_cons, turns, List.map_cons, ih]

/-- A session reports every outcome once, in the order of the calls. -/
theorem reports_session (entries : List Entry) (s : σ) :
    ((session entries).run client s).reports =
      ((session entries).run client s).result.map Report.ofOutcome := by
  induction entries generalizing s with
  | nil => rfl
  | cons e es ih =>
    rw [run_session_cons, reports_eq, ih]
    rfl

/-- The events of a session are those of its calls, one call after another. -/
theorem events_session (entries : List Entry) (s : σ) :
    (session entries).events client s =
      (turns client entries s).flatMap fun turn => turn.1.workflow.events client turn.2 := by
  induction entries generalizing s with
  | nil => rfl
  | cons e es ih => rw [events_session_cons, turns, List.flatMap_cons, ih]

/-- **Every call is reported exactly once, when its last call to the cluster is made**: with the
text of the outcome that it gives, and as a success exactly if that outcome is one. This holds on
every client, for calls through any entries and with any arguments, in any order. -/
theorem one_report_per_call (entries : List Entry) (s : σ) :
    let calls := turns client entries s
    let run := (session entries).run client s
    calls.map (·.1) = entries ∧
      run.result = calls.map (fun call => (call.1.workflow.run client call.2).result) ∧
      run.reports = run.result.map (fun o => ⟨o.success, Report.render o⟩) ∧
      (session entries).events client s = calls.flatMap fun call =>
        let o := (call.1.workflow.run client call.2).result
        (call.1.workflow.transcript client call.2).map .exchange ++
          [.report ⟨o.success, Report.render o⟩] := by
  intro calls run
  refine ⟨map_fst_turns client entries s, result_session client entries s,
    reports_session client entries s, ?_⟩
  rw [events_session]
  simp only [events_eq]
  rfl

end Entry

end ClusterBackup
