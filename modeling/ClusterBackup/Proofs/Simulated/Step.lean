/-
ClusterBackup.Proofs.Simulated.Step — a simulated cluster, step by step.

Whatever happens to a simulated cluster is a call, at a moment of its own,
or something that a test prepares. `after` takes one step after another,
`Reachable` says that a cluster came out of an empty one in this way, and
`tally` counts the steps at which something happened.
-/
import ClusterBackup.Simulated.Client

namespace ClusterBackup.Simulated

/-- What can happen to a simulated cluster. -/
inductive Step where
  | call (now : DateTime) (call : AdminCall)
  | createCollection (name : String)
  | addBackup (location : Option String) (name collection : String)
  | inject (kind : CallKind) (fault : Fault) (persistent : Bool)

namespace Cluster

/-- The cluster after a step. -/
def take (s : Cluster) : Step → Cluster
  | .call now call => (answer now call s).2
  | .createCollection name => s.createCollection name
  | .addBackup location name collection => s.addBackup location name collection
  | .inject kind fault persistent => s.inject kind fault persistent

/-- The cluster after steps. -/
def after (s : Cluster) (steps : List Step) : Cluster := steps.foldl take s

/-- How many of the steps something happens at. -/
def tally (happens : Cluster → Step → Bool) (s : Cluster) : List Step → Nat
  | [] => 0
  | step :: rest => (if happens s step then 1 else 0) + tally happens (s.take step) rest

/-- Some steps lead to the cluster from an empty one. -/
def Reachable (s : Cluster) : Prop :=
  ∃ (config : Config) (steps : List Step), s = after { config } steps

@[simp] theorem after_nil (s : Cluster) : s.after [] = s := rfl

@[simp] theorem after_cons (s : Cluster) (step : Step) (steps : List Step) :
    s.after (step :: steps) = (s.take step).after steps := rfl

theorem after_concat (s : Cluster) (steps : List Step) (step : Step) :
    s.after (steps ++ [step]) = (s.after steps).take step := by
  rw [after, List.foldl_append]
  rfl

/-- What no step breaks holds after all of them. -/
theorem after_invariant {P : Cluster → Prop} (kept : ∀ s step, P s → P (s.take step)) {s : Cluster}
    (h : P s) (steps : List Step) : P (s.after steps) := by
  induction steps generalizing s with
  | nil => exact h
  | cons step steps ih => exact ih (kept s step h)

/-- What holds of every empty cluster and is broken by no step holds of every reachable one. -/
theorem Reachable.invariant {P : Cluster → Prop} (empty : ∀ config, P { config })
    (kept : ∀ s step, P s → P (s.take step)) {s : Cluster} (h : Reachable s) : P s := by
  obtain ⟨config, steps, rfl⟩ := h
  exact after_invariant kept (empty config) steps

end Cluster

end ClusterBackup.Simulated
