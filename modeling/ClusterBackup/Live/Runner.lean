/-
ClusterBackup.Live.Runner — workflows on a cluster that is there.

A client is chosen and then answers calls one by one: the simulated
cluster from a cell that holds it, and the client for HTTP by asking first
where a call would send its request, carrying the request there, and then
answering the call with what came back. A call sends one request at most,
so nothing is asked twice.
-/
import ClusterBackup.CommandLine
import ClusterBackup.Live.Files
import ClusterBackup.Live.Network
import Std.Time

namespace ClusterBackup.Live

/-- The moment. -/
def now : IO DateTime := do
  let nanoseconds := (← Std.Time.Timestamp.now).toNanosecondsSinceUnixEpoch.val
  return .ofUnix (nanoseconds / 1000000000) (nanoseconds % 1000000000).toNat

/-- Answers calls. -/
abbrev Answerer := (call : AdminCall) → IO (Except Error call.Answer)

/-- The location at which a call looks for backups. -/
def searched (c : Config) : AdminCall → Option String
  | .prepareRestore r | .restore r | .submitRestore r => c.locationFor r.location
  | _ => none

/-- Makes the client that was chosen. -/
def connect : ClientChoice → IO Answerer
  | .simulated cluster => do
    let cell ← IO.mkRef cluster
    return fun call => do
      let moment ← now
      cell.modifyGet ((Simulated.client moment).answer call)
  | .http config => do
    let numbers ← IO.mkRef 0
    return fun call => do
      let files ← match searched config call with
        | some location => withBackups location
        | none => pure .empty
      let surroundings : Http.Surroundings := ⟨← now, files⟩
      let number ← numbers.get
      let (early, asked) := Http.answer config surroundings .noting call ⟨number, none⟩
      numbers.set asked.nextId
      match asked.network with
      | none => return early
      | some url =>
        let response ← askWithin config.requestTimeoutSecs.toNat url
        return (Http.answer config surroundings (.replying response) call ⟨number, ()⟩).1

/-- Runs a workflow. -/
def perform {α : Type} (answerer : Answerer) (tell : Report → IO Unit) : Workflow α → IO α
  | .done a => return a
  | .ask call next => do perform answerer tell (next (← answerer call))
  | .tell report next => do
    tell report
    perform answerer tell next

/-- Waits. -/
def pause (milliseconds : Nat) : IO Unit :=
  IO.sleep (min milliseconds (UInt32.size - 1)).toUInt32

/-- Waits for a job by the clock of the machine. -/
def await (answerer : Answerer) (tell : Report → IO Unit) (w : Watch) (requestId : String) :
    IO (Except Error JobStatus) := do
  let start ← IO.monoMsNow
  repeat
    let attempt ← perform answerer tell (Watch.poll requestId)
    let elapsed := (← IO.monoMsNow) - start
    match w.settle? elapsed attempt with
    | some result => return Watch.conclude requestId (Stopwatch.text elapsed) result
    | none => pause w.interval
  return .error (.timeout requestId (Stopwatch.text w.timeout))

/-- Prints a report where it belongs. -/
def print (r : Report) : IO Unit :=
  if r.success then IO.println r.text else IO.eprintln r.text

end ClusterBackup.Live
