/-
ClusterBackup.Proofs.Watch.Retry — how an attempt goes that is repeated.

`Retried` says it without a program: an attempt that comes to something or
fails for good is the last one; after a setback for now there is another
one exactly if the interval still fits into the time that is left; and the
last setback is what it all comes to. `retried_retryFrom` shows it of
attempts that make one call, whatever a client answers to them.
-/
import ClusterBackup.Watch
import ClusterBackup.Proofs.Workflow.Transcript

namespace ClusterBackup.Watch

variable {α ε : Type}

/-- One attempt, and then all others unless that settles it. -/
theorem retryFrom_eq (w : Watch) (clock : Stopwatch) (attempt : Workflow (Except (Setback ε) α))
    (n : Nat) : w.retryFrom clock attempt n = attempt.bind fun outcome =>
      match w.settle? (clock.after n) outcome with
      | some result => .done (result, clock.after n)
      | none => w.retryFrom clock attempt (n + 1) := by
  rw [retryFrom]
  congr 1
  funext outcome
  split <;> simp_all

/-- How an attempt goes that is repeated, from the one with number `n` on: what the attempts come
to one by one, what it all comes to, and the time at the end. -/
inductive Retried (w : Watch) (clock : Stopwatch) :
    Nat → List (Except (Setback ε) α) → Except ε α → Nat → Prop where
  | succeeded {n : Nat} (a : α) : Retried w clock n [.ok a] (.ok a) (clock.after n)
  | refused {n : Nat} (e : ε) : Retried w clock n [.error (.permanent e)] (.error e) (clock.after n)
  | late {n : Nat} (e : ε) (noTime : w.hasTimeAfter (clock.after n) = false) :
      Retried w clock n [.error (.transient e)] (.error e) (clock.after n)
  | again {n : Nat} (e : ε) (inTime : w.hasTimeAfter (clock.after n) = true)
      {outcomes : List (Except (Setback ε) α)} {result : Except ε α} {elapsed : Nat}
      (rest : Retried w clock (n + 1) outcomes result elapsed) :
      Retried w clock n (.error (.transient e) :: outcomes) result elapsed

/-- An attempt that settles it is the only one. -/
theorem Retried.of_settle? {w : Watch} {clock : Stopwatch} {n : Nat}
    {outcome : Except (Setback ε) α} {result : Except ε α}
    (settled : w.settle? (clock.after n) outcome = some result) :
    Retried w clock n [outcome] result (clock.after n) := by
  cases outcome with
  | ok a =>
    cases settled
    exact .succeeded a
  | error setback =>
    cases setback with
    | permanent e =>
      cases settled
      exact .refused e
    | transient e =>
      cases inTime : w.hasTimeAfter (clock.after n) with
      | true => simp [settle?, inTime] at settled
      | false =>
        simp only [settle?, inTime, Bool.false_eq_true, if_false, Option.some.injEq] at settled
        exact settled ▸ .late e inTime

/-- Only a setback for now is followed by another attempt, and only in time. -/
theorem Retried.of_settle?_none {w : Watch} {clock : Stopwatch} {n : Nat}
    {outcome : Except (Setback ε) α} {outcomes : List (Except (Setback ε) α)}
    {result : Except ε α} {elapsed : Nat} (again : w.settle? (clock.after n) outcome = none)
    (rest : Retried w clock (n + 1) outcomes result elapsed) :
    Retried w clock n (outcome :: outcomes) result elapsed := by
  have inTime := hasTimeAfter_of_settle? again
  cases outcome with
  | ok a => cases again
  | error setback =>
    cases setback with
    | permanent e => cases again
    | transient e => exact .again e inTime rest

variable {σ : Type} (client : Client σ)

/-- An attempt of a single call is repeated as the answers to its calls have it. -/
theorem retried_retryFrom (w : Watch) (clock : Stopwatch) (call : AdminCall)
    (judge : Except Error call.Answer → Except (Setback ε) α) (n : Nat) (s : σ) :
    let retrying := w.retryFrom clock (.ask call fun answer => .done (judge answer)) n
    ∃ answers : List (Except Error call.Answer),
      retrying.transcript client s = answers.map (⟨call, ·⟩) ∧
      Retried w clock n (answers.map judge) (retrying.run client s).result.1
        (retrying.run client s).result.2 := by
  -- The induction is on the attempts that are left before the time is up.
  induction n using retryFrom.induct w clock (α := α) (ε := ε) generalizing s with
  | case1 n ih =>
    simp only
    rw [retryFrom_eq, Workflow.ask_bind, Workflow.transcript_ask, Workflow.run_ask,
      Workflow.done_bind]
    cases settled : w.settle? (clock.after n) (judge (client.answer call s).1) with
    | some result => exact ⟨[(client.answer call s).1], rfl, .of_settle? settled⟩
    | none =>
      obtain ⟨answers, transcript, retried⟩ := ih _ settled (client.answer call s).2
      refine ⟨(client.answer call s).1 :: answers, ?_, .of_settle?_none settled retried⟩
      rw [List.map_cons, ← transcript]

end ClusterBackup.Watch
