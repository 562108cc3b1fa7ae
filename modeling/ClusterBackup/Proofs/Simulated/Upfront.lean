/-
ClusterBackup.Proofs.Simulated.Upfront — a simulated cluster is upfront.

It prepares every restore as it is, and the only error that it knows is a
fault that was put there.
-/
import ClusterBackup.Proofs.Simulated.Effect
import ClusterBackup.Proofs.Upfront

namespace ClusterBackup.Simulated

/-- A simulated cluster blames no call on the caller. -/
theorem Cluster.blameless_answer (now : DateTime) (call : AdminCall) (s : Cluster) :
    Blameless (answer now call s).1 := by
  rw [answer_eq]
  split
  · next fault met =>
    cases fault with
    | unreachable reason => cases call <;> exact .error nofun
    | respond r => cases call <;> exact .ok _
  · exact .ok _

theorem upfront (clock : Nat → DateTime) :
    Upfront (fun n => client (clock n)) fun _ => True where
  leaves _ _ _ := rfl
  settles _ _ _ _ _ := trivial
  blameless n call s _ := s.blameless_answer (clock n) call

end ClusterBackup.Simulated
