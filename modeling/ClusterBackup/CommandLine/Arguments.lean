/-
ClusterBackup.CommandLine.Arguments — what a command line asks for.

`Arguments.read` turns words and environment into one of four commands
with all of its settings. Shared options may stand before or behind the
command; the one behind it counts, unless only the one before it was given
as a word. Where nothing is given, a default stands.
-/
import ClusterBackup.CommandLine.Grammar
import ClusterBackup.Service
import ClusterBackup.Spec

namespace ClusterBackup.CommandLine

/-- Whether to wait for a queued job, and how, in seconds. -/
structure Waiting where
  wait : Bool := false
  pollInterval : Nat := 5
  timeout : Nat := 3600
deriving DecidableEq, Repr

/-- The settings of a backup or a restore. -/
structure JobArguments where
  collection : String
  location : Option String
  backupName : Option String
  async : Bool
  status : Bool
  requestId : Option String
  waiting : Waiting
deriving DecidableEq, Repr

/-- A command with its settings. -/
inductive Command where
  | backup (job : JobArguments)
  | restore (job : JobArguments) (force : Bool)
  | status (requestId : String) (operation : Operation) (waiting : Waiting)
  | serve (address : String)
deriving DecidableEq, Repr

/-- Everything that a command line says. -/
structure Arguments where
  command : Command
  /-- The file with the settings of the client. -/
  config : Option String
  clusterUrl : Option String
  /-- Use a simulated cluster of one collection. -/
  standalone : Bool
deriving DecidableEq, Repr

/-! ## Options -/

/-- The options of all commands. -/
def sharedOptions : List OptionSpec :=
  [{ long := "config", value := some .path, fallback := some "CLUSTER_CONFIG",
      help := "Cluster configuration file (YAML)" },
    { long := "cluster-url", value := some .text, fallback := some "CLUSTER_URL",
      help := "Cluster base URL, overrides the configuration file" },
    { long := "standalone", fallback := some "STANDALONE",
      help := "Use a seeded in-memory cluster instead of a real one" },
    { long := "log-level", value := some .text, fallback := some "LOG_LEVEL",
      default := some "info", help := "Log level (trace, debug, info, warn, error)" },
    { long := "log-json", fallback := some "LOG_JSON", help := "Output logs as JSON" }]

def waitOptions : List OptionSpec :=
  [{ long := "wait", help := "Poll an async request until it finishes" },
    { long := "poll-interval-secs", value := some .seconds,
      default := some (toString ({} : Waiting).pollInterval),
      help := "Seconds between status polls" },
    { long := "timeout-secs", value := some .seconds,
      default := some (toString ({} : Waiting).timeout),
      help := "Give up waiting after this many seconds" }]

def requestIdOption : OptionSpec :=
  { long := "request-id", letter := some 'i', value := some .text,
    help := "Request id for --status" }

def jobOptions : List OptionSpec :=
  [{ long := "collection", letter := some 'c', value := some .text,
      default := some Collection.default.name, help := "Collection to operate on" },
    { long := "dir", letter := some 'd', value := some .text,
      help := "Backup location, a directory on a mount shared by all nodes" },
    { long := "name", letter := some 'n', value := some .text,
      help := "Backup name; defaults to snapshot.<timestamp>, or the latest one on restore" },
    { long := "async", letter := some 'a',
      help := "Issue asynchronously and print the request id" },
    { long := "status", letter := some 's',
      help := "Query the status of a previous async request instead" },
    requestIdOption] ++ waitOptions

def forceOption : OptionSpec :=
  { long := "force", letter := some 'f',
    help := "Delete the collection first if it already exists" }

def statusOptions : List OptionSpec :=
  [{ requestIdOption with required := true, help := "Request id returned by an async issuance" },
    { long := "operation", value := some .operation, default := some Operation.restore.label,
      help := "Workflow the request belongs to" }] ++ waitOptions

def serveOptions : List OptionSpec :=
  [{ long := "api-addr", value := some .text, fallback := some "API_ADDR",
      default := some Service.defaultAddress, help := "REST API bind address" }]

/-- The options of each command. -/
def commandOptions : List (String × List OptionSpec) :=
  [("backup", jobOptions), ("restore", jobOptions ++ [forceOption]), ("status", statusOptions),
    ("serve", serveOptions)]

/-- The command that explains the others. -/
def helpCommand : String := "help"

/-- What may stand before the command. -/
def firstLevel : Level := ⟨none, sharedOptions, helpCommand :: commandOptions.map (·.1), true⟩

/-- What may stand behind a command. -/
def levelOf (command : String) (options : List OptionSpec) : Level :=
  ⟨some command, options ++ sharedOptions, [], false⟩

/-! ## Reading -/

/-- What was given before and behind a command, as words and in the environment. -/
structure Sources where
  before : Given
  behind : Given
  beforeEnvironment : Given
  behindEnvironment : Given

namespace Sources

/-- The value of an option: of a word behind the command, a word before it, or the environment. -/
def get? (s : Sources) (long : String) : Option String :=
  ((s.behind.lookup long).or (s.before.lookup long)).or
    ((s.behindEnvironment.lookup long).or (s.beforeEnvironment.lookup long))

def isSet (s : Sources) (long : String) : Bool := s.get? long == some "true"

def seconds (s : Sources) (long : String) (default : Nat) : Nat :=
  ((s.get? long).bind number?).getD default

def waiting (s : Sources) : Waiting :=
  let default : Waiting := {}
  ⟨s.isSet "wait", s.seconds "poll-interval-secs" default.pollInterval,
    s.seconds "timeout-secs" default.timeout⟩

def job (s : Sources) : JobArguments :=
  { collection := (s.get? "collection").getD Collection.default.name
    location := s.get? "dir"
    backupName := s.get? "name"
    async := s.isSet "async"
    status := s.isSet "status"
    requestId := s.get? "request-id"
    waiting := s.waiting }

/-- The operation that was named; restores are asked about unless one was. -/
def operation (s : Sources) : Operation :=
  if s.get? "operation" = some Operation.backup.label then .backup else .restore

/-- The command of a name. -/
def command? (s : Sources) : String → Option Command
  | "backup" => some (.backup s.job)
  | "restore" => some (.restore s.job (s.isSet "force"))
  | "status" => (s.get? "request-id").map fun id => .status id s.operation s.waiting
  | "serve" => some (.serve ((s.get? "api-addr").getD Service.defaultAddress))
  | _ => none

end Sources

/-- What the words behind the help command come to. -/
def readHelp : List String → Stop
  | [] => .help none
  | [name] => if firstLevel.commands.contains name then .help (some name) else .usage
  | _ => .usage

/-- The arguments that words and environment write. -/
def Arguments.read (environment : List (String × String)) (words : List String) :
    Except Stop Arguments := do
  match ← firstLevel.read words with
  | (_, none) => .error .usage
  | (before, some (name, rest)) =>
    match commandOptions.lookup name with
    | none => .error (readHelp rest)
    | some options =>
      let level := levelOf name options
      match ← level.read rest with
      | (_, some _) => .error .usage
      | (behind, none) =>
        let behindEnvironment ← level.fromEnvironment environment behind
        let beforeEnvironment ← firstLevel.fromEnvironment environment before
        let s : Sources := ⟨before, behind, beforeEnvironment, behindEnvironment⟩
        match s.command? name with
        | none => .error .usage
        | some command =>
          return ⟨command, s.get? "config", s.get? "cluster-url", s.isSet "standalone"⟩

end ClusterBackup.CommandLine
