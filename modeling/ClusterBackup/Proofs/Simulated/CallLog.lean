/-
ClusterBackup.Proofs.Simulated.CallLog — the log of a simulated cluster
against the history of all calls that were made.

The history is told without the log. `Pool.made` lists the calls of a run:
those that come through the port one by one, those of callers who take
turns, and those of workflows that run from start to end. What they are
answered with does not matter, so calls that fail or meet a fault are in
it as well. A run may go on in any way, and tests may prepare the cluster
in between.

The log is a window of fixed width on what there is to log of the history
(`Cluster.Logs`). To log one more call is to move the window on by one,
before the log is full and afterwards (`logCall_rtake`). Every call is
logged in this one way (`calls_noted`), so the window goes along with a
run, act by act.
-/
import ClusterBackup.Proofs.Pool
import ClusterBackup.Proofs.Simulated.FaultQueues
import Mathlib.Data.List.DropRight

namespace ClusterBackup

/-- The call that the next move of a workflow makes, if it makes one. -/
def Workflow.next? {α : Type} : Workflow α → Option AdminCall
  | .ask call _ => some call
  | .done _ | .tell _ _ => none

namespace Simulated

/-- The entry of a call in the log: its kind, and what it is about. Preparations have none. -/
def logged? (call : AdminCall) : Option LoggedCall := (kind? call).map (⟨·, target call⟩)

/-! ## One more call -/

namespace Cluster

/-- The log has the last of what there is to log of the calls that were made. -/
def Logs (s : Cluster) (made : List AdminCall) : Prop :=
  s.calls = (made.filterMap logged?).rtake callLogCapacity

theorem length_window (history : List LoggedCall) (width : Nat) :
    (history.rtake width).length = min history.length width := by
  rw [List.rtake, List.length_drop]
  omega

/-- A window that is wide enough shows everything. -/
theorem window_of_length_le {history : List LoggedCall} {width : Nat}
    (room : history.length ≤ width) : history.rtake width = history := by
  rw [List.rtake, Nat.sub_eq_zero_of_le room, List.drop_zero]

theorem window_min (history : List LoggedCall) (width : Nat) :
    history.rtake (min history.length width) = history.rtake width := by
  rcases Nat.le_total history.length width with room | full
  · rw [Nat.min_eq_left room, window_of_length_le room, window_of_length_le (Nat.le_refl _)]
  · rw [Nat.min_eq_right full]

/-- To log a call moves the window on: the first call drops out of a full log. -/
theorem logCall_rtake (history : List LoggedCall) (call : LoggedCall) :
    logCall (history.rtake callLogCapacity) call =
      (history ++ [call]).rtake callLogCapacity := by
  have positive : 0 < callLogCapacity := by decide
  rw [logCall, length_window]
  -- A full log loses as many calls at its front as the window loses; another one only grows.
  by_cases full : callLogCapacity ≤ history.length
  · rw [Nat.min_eq_right full, if_pos rfl, List.rtake, List.rtake, List.drop_drop,
      List.length_append, List.length_singleton, List.drop_append_of_le_length (by omega),
      Nat.sub_add_comm full]
  · have longer : (history ++ [call]).length ≤ callLogCapacity := by
      rw [List.length_append, List.length_singleton]
      omega
    rw [if_neg (by omega), window_of_length_le (by omega), window_of_length_le longer]

/-- Noting a call logs it, if it is one that is logged. -/
theorem calls_noted (s : Cluster) (call : AdminCall) :
    (s.noted call).calls = (logged? call).elim s.calls (logCall s.calls) := by
  rw [noted, logged?]
  cases kind? call <;> rfl

/-- A call is noted in the log, and nothing else that it does reaches the log. -/
theorem calls_answer (now : DateTime) (call : AdminCall) (s : Cluster) :
    (answer now call s).2.calls = (s.noted call).calls := by
  cases met : s.met? call with
  | some fault =>
    rw [answer_of_fault met]
    rfl
  | none =>
    rw [answer_of_clear met]
    rfl

namespace Logs

variable {s : Cluster} {made : List AdminCall}

theorem empty (config : Config) : Logs { config } [] := rfl

/-- What makes no call is in keeping with the history if it leaves the log alone. -/
theorem idle {s' : Cluster} (h : s.Logs made) (same : s'.calls = s.calls) :
    s'.Logs (made ++ []) := by
  rw [List.append_nil]
  exact same.trans h

/-- Whatever a call is answered with, it comes last in the window. -/
theorem answer (h : s.Logs made) (now : DateTime) (call : AdminCall) :
    (Cluster.answer now call s).2.Logs (made ++ [call]) := by
  have before : s.calls = (made.filterMap logged?).rtake callLogCapacity := h
  rw [Logs, calls_answer, calls_noted, List.filterMap_append, before]
  cases entry : logged? call with
  | none => simp [entry]
  | some l => simpa [entry] using logCall_rtake (made.filterMap logged?) l

/-- Of all that can happen to a cluster, calls alone reach the log. -/
theorem take (h : s.Logs made) (step : Step) :
    (s.take step).Logs (made ++ step.call?.toList) := by
  cases step with
  | call now call => exact h.answer now call
  | createCollection _ | addBackup _ _ _ | inject _ _ _ => exact h.idle rfl

/-- The next move of a workflow logs the call that it makes. -/
theorem move (h : s.Logs made) (now : DateTime) (w : Workflow Outcome) :
    (w.step (client now) s).2.Logs (made ++ w.next?.toList) := by
  cases w with
  | ask call next => exact h.answer now call
  | done o => exact h.idle rfl
  | tell report next => exact h.idle rfl

/-- A workflow that runs to its end logs its calls, one after another. -/
theorem run (h : s.Logs made) (clock : Nat → DateTime) (w : Workflow Outcome) (n : Nat) :
    (w.run (.overTime fun n => client (clock n)) (s, n)).state.1.Logs
      (made ++ w.calls (.overTime fun n => client (clock n)) (s, n)) := by
  -- The history is any one, since what follows a call starts with a longer one.
  induction w generalizing s made n with
  | done o => exact h.idle rfl
  | tell report next ih => exact ih h n
  | ask call next ih =>
    rw [Workflow.calls_ask, List.append_cons, Workflow.run_ask]
    exact ih _ (h.answer (clock n) call) (n + 1)

end Logs

end Cluster

/-! ## Runs -/

/-- What can happen around a cluster. -/
inductive Act where
  /-- A call comes through the port, or a test prepares something. -/
  | step (step : Step)
  /-- A caller makes the next move, at a moment. -/
  | turn (now : DateTime) (who : Nat)
  /-- A workflow runs from its start to its end, with nothing in between. -/
  | entry (clock : Nat → DateTime) (entry : Entry)

namespace Pool

/-- The pool after an act. -/
def act (pool : Pool) : Act → Pool
  | .step step => { pool with cluster := pool.cluster.take step }
  | .turn now who => pool.move (now, who)
  | .entry clock entry =>
    let run := entry.workflow.run (.overTime fun n => client (clock n)) (pool.cluster, 0)
    { pool with cluster := run.state.1 }

/-- The pool after acts. -/
def run (pool : Pool) (acts : List Act) : Pool := acts.foldl act pool

/-- The calls that an act makes, in their order. -/
def calls (pool : Pool) : Act → List AdminCall
  | .step step => step.call?.toList
  | .turn _ who => (pool.parties[who]?.bind (·.rest.next?)).toList
  | .entry clock entry =>
    entry.workflow.calls (.overTime fun n => client (clock n)) (pool.cluster, 0)

/-- The calls that acts make, in their order. -/
def made : Pool → List Act → List AdminCall
  | _, [] => []
  | pool, act :: acts => pool.calls act ++ made (pool.act act) acts

/-- An act logs the calls that it makes. -/
theorem logs_act {pool : Pool} {before : List AdminCall} (h : pool.cluster.Logs before)
    (act : Act) : (pool.act act).cluster.Logs (before ++ pool.calls act) := by
  cases act with
  | step step => exact h.take step
  | entry clock entry => exact h.run clock entry.workflow 0
  | turn now who =>
    simp only [Pool.act, calls]
    cases found : pool.parties[who]? with
    | none => exact h.idle (by rw [move, found])
    | some p =>
      rw [cluster_move found]
      exact h.move now p.rest

/-- Acts log the calls that they make. -/
theorem logs_run {pool : Pool} {before : List AdminCall} (h : pool.cluster.Logs before)
    (acts : List Act) : (pool.run acts).cluster.Logs (before ++ pool.made acts) := by
  induction acts generalizing pool before with
  | nil => exact h.idle rfl
  | cons act acts ih =>
    rw [Pool.made, ← List.append_assoc]
    exact ih (logs_act h act)

/-- From an empty cluster on, the log is a window on the history. -/
theorem calls_run (config : Config) (entries : List Entry) (acts : List Act) :
    let pool := start { config } entries
    (pool.run acts).cluster.calls =
      ((pool.made acts).filterMap logged?).rtake callLogCapacity := by
  intro pool
  have empty : pool.cluster.Logs [] := .empty config
  exact logs_run empty acts

/-- **The log has the latest calls of the history.** From an empty cluster on, whatever happens, it
has the last of all calls that were made, in their order, as many as it keeps. Only preparations
are missing. The calls of a kind are counted in this window and nowhere else. -/
theorem log_has_latest_calls (config : Config) (entries : List Entry) (acts : List Act) :
    let pool := start { config } entries
    let history := (pool.made acts).filterMap logged?
    let latest := history.rtake (min history.length callLogCapacity)
    (pool.run acts).cluster.calls = latest ∧
      ∀ kind, (pool.run acts).cluster.callCount kind =
        (latest.filter (·.kind = kind)).length := by
  intro pool history latest
  have logged : (pool.run acts).cluster.calls = latest :=
    (calls_run config entries acts).trans (Cluster.window_min history callLogCapacity).symm
  refine ⟨logged, fun kind => ?_⟩
  rw [Cluster.callCount, logged, List.countP_eq_length_filter]
  rfl

/-- The log is the whole history exactly as long as it has room for it. -/
theorem log_complete_iff (config : Config) (entries : List Entry) (acts : List Act) :
    let pool := start { config } entries
    let history := (pool.made acts).filterMap logged?
    (pool.run acts).cluster.calls = history ↔ history.length ≤ callLogCapacity := by
  intro pool history
  rw [calls_run config entries acts]
  constructor
  · intro whole
    have length := Cluster.length_window history callLogCapacity
    rw [whole] at length
    omega
  · exact Cluster.window_of_length_le

/-- A deletion that does not reach the cluster is logged like any other call, and so is a query
about no job; the preparation of the restore is not. -/
example :
    let pool := (start .default []).run
      [.step (.createCollection "catalog"), .step (.inject .delete (.unreachable "down") false),
        .entry (fun _ => noon) (.restore { collection := .default, force := true }),
        .step (.call noon (.queryStatus "nope"))]
    pool.cluster.calls =
      [⟨.collectionExists, "catalog"⟩, ⟨.delete, "catalog"⟩, ⟨.queryStatus, "nope"⟩] := by
  decide

end Pool

end Simulated

end ClusterBackup
