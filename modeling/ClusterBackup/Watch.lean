/-
ClusterBackup.Watch — waiting for a queued job.

A watcher polls the status of a job until the job has ended. A poll that
finds the job unfinished, or the cluster out of reach, is a setback for
now; any other error is one for good. `retryFrom` repeats an attempt after
a setback for now, once an interval has passed, as long as the interval
still fits into the time that is left. It gives back no more than the last
setback, so `conclude` finds out why the polls ended: because the time was
up, or because of an error.

A `Stopwatch` tells the time that has passed after each poll. Time passes,
so a wait ends at some time even if the interval is nothing.
-/
import ClusterBackup.Snapshot
import ClusterBackup.Status

namespace ClusterBackup

/-- The milliseconds that have passed after each poll, counted from zero. -/
structure Stopwatch where
  after : Nat → Nat
  passes : ∀ time, ∃ n, ∀ m, n ≤ m → time < after m

namespace Stopwatch

/-- Readings that were taken; from then on every poll so far counts for a millisecond more. -/
def ofReadings (taken : Nat → Nat) (count : Nat) : Stopwatch where
  after n := if n < count then taken n else taken n + n
  passes time := by
    refine ⟨max count (time + 1), fun m late => ?_⟩
    rw [if_neg (by omega)]
    omega

/-- Every poll takes the same time, and the wait between two polls is the interval. -/
def steady (latency interval timeout : Nat) : Stopwatch :=
  ofReadings (fun n => (n + 1) * latency + n * interval) (timeout / (interval + latency) + 1)

/-- A time as text: in seconds, with the decimals that it takes, or in milliseconds if it is less
than a second. Readings are no finer than that. -/
def text (milliseconds : Nat) : String :=
  if milliseconds = 0 then "0ns"
  else if milliseconds < 1000 then toString milliseconds ++ "ms"
  else
    let decimals :=
      ((Snapshot.padded 3 (milliseconds % 1000)).reverse.dropWhile (· == '0')).reverse
    toString (milliseconds / 1000)
      ++ (if decimals.isEmpty then "" else "." ++ String.ofList decimals) ++ "s"

end Stopwatch

/-- Why an attempt came to nothing: for now, or for good. -/
inductive Setback (ε : Type) where
  | transient (reason : ε)
  | permanent (reason : ε)

/-- Why a poll does not tell how the job ended. -/
inductive Pending where
  | running (last : JobStatus)
  | unreachable (e : Error)

/-- How often to poll, and how long at most, in milliseconds. -/
structure Watch where
  interval : Nat
  timeout : Nat
deriving DecidableEq, Repr

namespace Watch

variable {α ε : Type}

/-! ## Repeating attempts -/

/-- Another interval fits into the time that is left. -/
def hasTimeAfter (w : Watch) (elapsed : Nat) : Bool := elapsed + w.interval ≤ w.timeout

/-- What it all comes to after an attempt; none if there is to be another one. -/
def settle? (w : Watch) (elapsed : Nat) : Except (Setback ε) α → Option (Except ε α)
  | .ok a => some (.ok a)
  | .error (.permanent e) => some (.error e)
  | .error (.transient e) => if w.hasTimeAfter elapsed then none else some (.error e)

theorem hasTimeAfter_of_settle? {w : Watch} {elapsed : Nat} {outcome : Except (Setback ε) α}
    (again : w.settle? elapsed outcome = none) : w.hasTimeAfter elapsed = true := by
  unfold settle? at again
  split at again <;> simp_all

/-- The attempts from the one with number `n` on: what they come to, and the time at the end. -/
def retryFrom (w : Watch) (clock : Stopwatch) (attempt : Workflow (Except (Setback ε) α))
    (n : Nat) : Workflow (Except ε α × Nat) :=
  attempt.bind fun outcome =>
    match again : w.settle? (clock.after n) outcome with
    | some result => .done (result, clock.after n)
    | none => retryFrom w clock attempt (n + 1)
-- There is a number of attempts after which the time is up for good.
termination_by (clock.passes w.timeout).choose - n
decreasing_by
  have inTime : clock.after n + w.interval ≤ w.timeout := by
    simpa [hasTimeAfter] using hasTimeAfter_of_settle? again
  have early : n < (clock.passes w.timeout).choose := by
    refine Decidable.byContradiction fun late => ?_
    have := (clock.passes w.timeout).choose_spec n (by omega)
    omega
  omega

/-! ## Polling -/

/-- A poll as an attempt to learn how the job ended. -/
def attempt : Except Error JobStatus → Except (Setback Pending) JobStatus
  | .ok s => if s.state.isTerminal then .ok s else .error (.transient (.running s))
  | .error e =>
    if e.isTransient then .error (.transient (.unreachable e))
    else .error (.permanent (.unreachable e))

/-- Polls a job once. -/
def poll (requestId : String) : Workflow (Except (Setback Pending) JobStatus) := do
  return attempt (← JobStatus.fetch requestId)

/-- How a wait ends that took some time, after the last poll. -/
def conclude (requestId elapsed : String) : Except Pending JobStatus → Except Error JobStatus
  | .ok s => .ok s
  | .error (.running last) => .error (.timeout last.requestId elapsed)
  | .error (.unreachable e) =>
    if e.isTransient then .error (.timeout requestId elapsed) else .error e

/-- Waits for a job to end. -/
def wait (w : Watch) (clock : Stopwatch) (requestId : String) :
    Workflow (Except Error JobStatus) := do
  let (result, elapsed) ← w.retryFrom clock (poll requestId) 0
  return conclude requestId (Stopwatch.text elapsed) result

end Watch

end ClusterBackup
