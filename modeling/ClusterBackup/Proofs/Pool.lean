/-
ClusterBackup.Proofs.Pool — callers that take turns on one simulated
cluster.

Each caller carries its own workflow out, and a turn lets one of them make
its next move: a single call, or a report. Turns are taken in any order and
at any moments, so a list of turns is an interleaving of what the callers
do, and also a point in one: the list may end before they do.
-/
import ClusterBackup.Proofs.Entry
import ClusterBackup.Proofs.Simulated.JobTable

namespace ClusterBackup.Simulated

/-- A caller on its way. -/
structure Party where
  entry : Entry
  /-- What is left to do. -/
  rest : Workflow Outcome
  /-- The last job that was queued for it: the id, and what the work came to. -/
  job : Option (String × AdminResponse)

namespace Party

/-- A caller at its start. -/
def ofEntry (entry : Entry) : Party := ⟨entry, entry.workflow, none⟩

/-- The job that the next move queues. -/
def queues? (now : DateTime) (s : Cluster) (p : Party) : Option (String × AdminResponse) :=
  match p.rest with
  | .ask call _ => s.queued? (.call now call)
  | _ => none

/-- The next move. -/
def move (now : DateTime) (s : Cluster) (p : Party) : Party × Cluster :=
  let (rest, s') := p.rest.step (client now) s
  ({ p with rest, job := (p.queues? now s).or p.job }, s')

end Party

/-- Callers on one cluster. -/
structure Pool where
  cluster : Cluster
  parties : List Party

namespace Pool

/-- All callers at their start. -/
def start (s : Cluster) (entries : List Entry) : Pool := ⟨s, entries.map .ofEntry⟩

/-- A turn: the moment, and who makes a move. -/
def move (pool : Pool) (turn : DateTime × Nat) : Pool :=
  match pool.parties[turn.2]? with
  | none => pool
  | some p =>
    let (p, s) := p.move turn.1 pool.cluster
    ⟨s, pool.parties.set turn.2 p⟩

/-- The pool after turns. -/
def after (pool : Pool) (turns : List (DateTime × Nat)) : Pool := turns.foldl move pool

/-- A turn changes nobody's errand. -/
theorem entries_move (pool : Pool) (turn : DateTime × Nat) :
    (pool.move turn).parties.map (·.entry) = pool.parties.map (·.entry) := by
  unfold move
  split
  · rfl
  · next p found =>
    obtain ⟨inside, rfl⟩ := List.getElem?_eq_some_iff.mp found
    have inside' : turn.2 < (pool.parties.map (·.entry)).length := by rwa [List.length_map]
    have same := List.set_getElem_self inside'
    rw [List.getElem_map] at same
    rw [List.map_set]
    exact same

section

variable {pool : Pool} {now : DateTime} {i : Nat} {p : Party}

theorem cluster_move (found : pool.parties[i]? = some p) :
    (pool.move (now, i)).cluster = (p.move now pool.cluster).2 := by
  rw [move, found]

/-- A turn moves the caller whose turn it is, and nobody else. -/
theorem getElem?_move (found : pool.parties[i]? = some p) {j : Nat} {q : Party}
    (inside : (pool.move (now, i)).parties[j]? = some q) :
    j = i ∧ q = (p.move now pool.cluster).1 ∨ j ≠ i ∧ pool.parties[j]? = some q := by
  rw [move, found] at inside
  by_cases same : j = i
  · subst same
    have room := (List.getElem?_eq_some_iff.mp found).1
    rw [List.getElem?_set_self room] at inside
    exact .inl ⟨rfl, (Option.some.inj inside).symm⟩
  · rw [List.getElem?_set_ne (Ne.symm same)] at inside
    exact .inr ⟨same, inside⟩

end

end Pool

end ClusterBackup.Simulated
