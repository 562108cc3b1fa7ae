/-
ClusterBackup.Proofs.Simulated.FaultQueues — the faults of a simulated
cluster, in a queue for each kind of calls.

A cluster has all its faults in one list and takes them out of the middle
of it. `FaultQueues` keeps them apart: a call meets the fault at the front
of the queue for its kind and removes it, unless it is persistent.
`Cluster.queues` is what the list comes to for each kind, and every step
does to these queues what it does in the simple model (`queues_take`), so
the two agree over all steps.

In the simple model a step touches the queue of its own kind alone, which
makes the queue of a kind a matter of the steps about that kind
(`FaultQueues.after_apply`).
-/
import ClusterBackup.Proofs.Simulated.Effect
import ClusterBackup.Proofs.Simulated.Step
import Mathlib.Logic.Function.Basic

namespace ClusterBackup.Simulated

/-! ## Queues -/

/-- A fault in a queue. -/
structure QueuedFault where
  fault : Fault
  persistent : Bool
deriving DecidableEq, Repr

/-- The faults that wait for calls of one kind, the next one first. -/
abbrev FaultQueue := List QueuedFault

namespace FaultQueue

/-- The fault that the next call meets. -/
def front? (q : FaultQueue) : Option Fault := q.head?.map (·.fault)

/-- The queue after a call: the fault in front is gone, unless it is persistent. -/
def served : FaultQueue → FaultQueue
  | [] => []
  | f :: rest => if f.persistent then f :: rest else rest

/-- The queue after a step about its kind of calls. -/
def take (q : FaultQueue) : Step → FaultQueue
  | .call _ _ => q.served
  | .inject _ fault persistent => q ++ [⟨fault, persistent⟩]
  | .createCollection _ | .addBackup _ _ _ => q

/-- The queue after steps about its kind of calls. -/
def after (q : FaultQueue) (steps : List Step) : FaultQueue := steps.foldl take q

/-- The faults for a kind among all that wait, in their order. -/
def ofKind (kind : CallKind) (faults : List Injected) : FaultQueue :=
  (faults.filter (·.kind = kind)).map fun i => ⟨i.fault, i.persistent⟩

end FaultQueue

/-- The kind of calls that a step is about: that of a call, or that which a fault is put up for. -/
def Step.kind? : Step → Option CallKind
  | .call _ c => Simulated.kind? c
  | .inject kind _ _ => some kind
  | .createCollection _ | .addBackup _ _ _ => none

/-- The call that a step makes. -/
def Step.call? : Step → Option AdminCall
  | .call _ c => some c
  | .createCollection _ | .addBackup _ _ _ | .inject _ _ _ => none

/-- A queue for each kind of calls. -/
abbrev FaultQueues := CallKind → FaultQueue

namespace FaultQueues

/-- The fault that a call meets. -/
def met? (q : FaultQueues) (call : AdminCall) : Option Fault :=
  (kind? call).bind fun kind => (q kind).front?

/-- The queues after a step, which is about one of them at most. -/
def take (q : FaultQueues) (step : Step) : FaultQueues :=
  match step.kind? with
  | some kind => Function.update q kind ((q kind).take step)
  | none => q

/-- The queues after steps. -/
def after (q : FaultQueues) (steps : List Step) : FaultQueues := steps.foldl take q

/-- A step leaves the queues for other kinds alone. -/
theorem take_apply (q : FaultQueues) (step : Step) (kind : CallKind) :
    q.take step kind = if step.kind? = some kind then (q kind).take step else q kind := by
  unfold take
  cases about : step.kind? with
  | none => simp
  | some kind' =>
    by_cases same : kind' = kind
    · subst same
      simp
    · simp [same, Function.update_of_ne (Ne.symm same)]

/-- What becomes of the queue for a kind is up to the steps about that kind. -/
theorem after_apply (q : FaultQueues) (steps : List Step) (kind : CallKind) :
    q.after steps kind = (q kind).after (steps.filter (·.kind? = some kind)) := by
  induction steps generalizing q with
  | nil => rfl
  | cons step steps ih =>
    change (q.take step).after steps kind = _
    rw [ih, take_apply, List.filter_cons]
    by_cases about : step.kind? = some kind
    · simp only [about, if_true, decide_true]
      rfl
    · simp only [about, if_false, decide_false]
      rfl

end FaultQueues

/-- The calls among steps, each with the fault that it meets, for faults that are kept in a `σ`. -/
def encounters {σ : Type} (met? : σ → AdminCall → Option Fault) (take : σ → Step → σ) :
    σ → List Step → List (AdminCall × Option Fault)
  | _, [] => []
  | s, step :: steps =>
    (step.call?.map fun call => (call, met? s call)).toList ++
      encounters met? take (take s step) steps

namespace Cluster

/-- The faults of a cluster, by the kind of calls that they wait for. -/
def queues (s : Cluster) : FaultQueues := fun kind => .ofKind kind s.faults

/-! ## One list as many queues -/

theorem ofKind_cons (kind : CallKind) (i : Injected) (faults : List Injected) :
    FaultQueue.ofKind kind (i :: faults) =
      if i.kind = kind then ⟨i.fault, i.persistent⟩ :: FaultQueue.ofKind kind faults
      else FaultQueue.ofKind kind faults := by
  by_cases same : i.kind = kind <;> simp [FaultQueue.ofKind, same]

/-- The first fault for a kind is the one in front of its queue. -/
theorem takeFault_fst (kind : CallKind) (faults : List Injected) :
    (takeFault kind faults).1 = (FaultQueue.ofKind kind faults).front? := by
  induction faults with
  | nil => rfl
  | cons i faults ih =>
    rw [takeFault, ofKind_cons]
    by_cases same : i.kind = kind
    · simp [same, FaultQueue.front?]
    · simpa [same] using ih

/-- Taking a fault out of the list serves the queue for its kind. -/
theorem ofKind_takeFault (kind : CallKind) (faults : List Injected) :
    FaultQueue.ofKind kind (takeFault kind faults).2 = (FaultQueue.ofKind kind faults).served := by
  induction faults with
  | nil => rfl
  | cons i faults ih =>
    rw [takeFault, ofKind_cons]
    by_cases same : i.kind = kind
    · cases lasting : i.persistent <;> simp [same, lasting, FaultQueue.served, ofKind_cons]
    · simpa [same, ofKind_cons] using ih

/-- Taking a fault out of the list leaves the queues for other kinds alone. -/
theorem ofKind_takeFault_of_ne {kind kind' : CallKind} (other : kind ≠ kind')
    (faults : List Injected) :
    FaultQueue.ofKind kind' (takeFault kind faults).2 = FaultQueue.ofKind kind' faults := by
  induction faults with
  | nil => rfl
  | cons i faults ih =>
    rw [takeFault]
    by_cases same : i.kind = kind
    · have outside : i.kind ≠ kind' := same ▸ other
      cases i.persistent <;> simp [same, other, ofKind_cons]
    · simp [same, ofKind_cons, ih]

/-! ## Step by step -/

/-- A call meets the fault in front of the queue for its kind. -/
theorem met?_eq_queues (s : Cluster) (call : AdminCall) : s.met? call = s.queues.met? call := by
  unfold met? FaultQueues.met?
  congr 1
  funext kind
  exact takeFault_fst kind s.faults

/-- Noting a call serves the queue for its kind. -/
theorem queues_noted (s : Cluster) (now : DateTime) (call : AdminCall) :
    (s.noted call).queues = s.queues.take (.call now call) := by
  funext kind'
  rw [FaultQueues.take_apply, Step.kind?, noted]
  cases kind? call with
  | none => simp
  | some kind =>
    have taken : (s.enter kind (target call)).2.faults = (takeFault kind s.faults).2 := rfl
    by_cases same : kind = kind'
    · subst same
      simpa [queues, taken, FaultQueue.take] using ofKind_takeFault kind s.faults
    · simpa [same, queues, taken] using ofKind_takeFault_of_ne same s.faults

/-- A step does to the list of faults what it does to the queues. -/
theorem queues_take (s : Cluster) (step : Step) : (s.take step).queues = s.queues.take step := by
  cases step with
  | call now call =>
    rw [← queues_noted, take]
    cases met : s.met? call with
    | some fault =>
      rw [answer_of_fault met]
      rfl
    | none =>
      rw [answer_of_clear met]
      rfl
  | inject kind fault persistent =>
    funext kind'
    rw [FaultQueues.take_apply]
    by_cases same : kind = kind' <;>
      simp [take, inject, queues, FaultQueue.ofKind, FaultQueue.take, Step.kind?, same]
  | createCollection name => rfl
  | addBackup location name collection => rfl

/-- Steps do to the list of faults what they do to the queues. -/
theorem queues_after (s : Cluster) (steps : List Step) :
    (s.after steps).queues = s.queues.after steps := by
  induction steps generalizing s with
  | nil => rfl
  | cons step steps ih =>
    rw [after_cons, ih, queues_take]
    rfl

/-- The calls among steps meet the faults in front of the queues. -/
theorem encounters_eq_queues (s : Cluster) (steps : List Step) :
    encounters met? take s steps = encounters FaultQueues.met? FaultQueues.take s.queues steps := by
  induction steps generalizing s with
  | nil => rfl
  | cons step steps ih => simp only [encounters, ih, queues_take, met?_eq_queues]

/-! ## All steps -/

/-- **Faults wait in one queue for each kind of calls.** Whatever faults a cluster has at first and
whatever steps follow, its list of faults comes to the queues of the simple model, and its calls
meet the faults that they meet there. What a call meets is its answer: the fault in front of the
queue for its kind, or else, and only if that queue is empty, its effect. The queue for a kind
depends on what it was at first and on the steps about that kind, in their order, and on no
others. -/
theorem faults_wait_in_queues (s : Cluster) (steps : List Step) :
    (s.after steps).queues = s.queues.after steps ∧
    encounters met? take s steps = encounters FaultQueues.met? FaultQueues.take s.queues steps ∧
    (∀ now call, answer now call (s.after steps) =
      match (s.queues.after steps).met? call with
      | some fault => (faulted call fault, (s.after steps).noted call)
      | none => (.ok (effect now call ((s.after steps).noted call)).1,
          (effect now call ((s.after steps).noted call)).2)) ∧
    ∀ kind, s.queues.after steps kind =
      (s.queues kind).after (steps.filter (·.kind? = some kind)) := by
  refine ⟨queues_after s steps, encounters_eq_queues s steps, fun now call => ?_,
    fun kind => s.queues.after_apply steps kind⟩
  have answered := answer_eq now call (s.after steps)
  rw [met?_eq_queues, queues_after] at answered
  exact answered

/-- A lasting fault hides the one behind it; faults for other calls wait as long as they have to. -/
example :
    let down := Fault.unreachable "down"
    let blip := Fault.unreachable "blip"
    let look := Step.call noon (.collectionExists .default)
    encounters met? take .default
        [.inject .delete blip false, .inject .collectionExists blip false,
          .inject .collectionExists down true, .inject .collectionExists blip false,
          look, look, look, .call noon (.delete .default)] =
      [(.collectionExists .default, some blip), (.collectionExists .default, some down),
        (.collectionExists .default, some down), (.delete .default, some blip)] := by
  decide

end Cluster

end ClusterBackup.Simulated
