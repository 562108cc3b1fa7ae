/-
ClusterBackup.Main — the command.

Reads the words and the environment, and carries out what they ask for on
the clock, the disk and the network of the machine.
-/
import ClusterBackup.Live.Runner

namespace ClusterBackup.Live

open CommandLine

/-- The variables that options may be given by, as far as they are set. -/
def environment : IO (List (String × String)) := do
  let names := (sharedOptions ++ commandOptions.flatMap (·.2)).filterMap (·.fallback)
  let found ← names.mapM fun name => return (name, ← IO.getEnv name)
  return found.filterMap fun (name, value) => value.map (name, ·)

/-- Prints an output, and gives its exit code. -/
def finish (o : Output) : IO UInt32 := do
  IO.print o.stdout
  IO.eprint o.stderr
  return o.exit.toUInt32

/-- Waits for a request, and reports how that ended. -/
def waitFor (answerer : Answerer) (operation : Operation) (w : Waiting) (requestId : String) :
    IO Ending := do
  let result ← await answerer print w.watch requestId
  perform answerer print (conclude operation requestId result)

/-- Answers a request to the service. -/
def handle (answerer : Answerer) (r : Rest.Request) : StateT Metrics IO Rest.Reply := do
  let (reply, metrics) ← perform answerer (fun _ => pure ()) (Rest.handle (← get) r)
  set metrics
  return reply

/-- Carries out a task. -/
def carryOut (answerer : Answerer) : Task → IO Ending
  | .job operation w workflow => do
    let o ← perform answerer print workflow
    match w.awaited o with
    | some requestId => waitFor answerer operation w requestId
    | none => return .ok o.success
  | .watch operation w requestId => waitFor answerer operation w requestId
  | .serve address => do
    match ← (listen address).toBaseIO with
    | .error e => return .error (.ofError (cannotBind (listenFault e)))
    | .ok server =>
      serve server {} (handle answerer)
      return .ok true

end ClusterBackup.Live

open ClusterBackup ClusterBackup.CommandLine ClusterBackup.Live in
def main (words : List String) : IO UInt32 := do
  let environment ← environment
  match Arguments.read environment words with
  | .error stop => finish (.ofStop environment stop)
  | .ok arguments =>
    let files ← match arguments.config with
      | some path => withText path
      | none => pure .empty
    match plan files arguments with
    | .error failure => finish (.ofFailure failure)
    | .ok (choice, task) =>
      finish (.ofEnding [] (← carryOut (← connect choice) task))
