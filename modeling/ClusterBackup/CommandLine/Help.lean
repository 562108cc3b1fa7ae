/-
ClusterBackup.CommandLine.Help — pages that explain the commands.

A page says what a command is for, how it is used, and what its options
mean. Options stand in the order of their lists, those of the command
beside the shared ones with the same place. What an option means stands
behind it, in one column for the page; where that leaves too little room
for one of them, it stands below each of them.
-/
import ClusterBackup.CommandLine.Arguments

namespace ClusterBackup.CommandLine

/-! ## Options -/

namespace OptionSpec

/-- The word for the value. -/
def valueName (o : OptionSpec) : String :=
  String.ofList (o.long.toList.map fun c => if c = '-' then '_' else c.toUpper)

/-- The option and its value, as they are written. -/
def written (o : OptionSpec) : String :=
  "--" ++ o.long ++ (if o.value.isSome then " <" ++ o.valueName ++ ">" else "")

/-- The letter in front of the option, or room for it. -/
def letterPart (o : OptionSpec) : String :=
  match o.letter with
  | some c => "-" ++ String.ofList [c] ++ ", "
  | none => "    "

/-- The values to choose from. -/
def choices (o : OptionSpec) : List String :=
  if o.value = some .operation then [Operation.backup.label, Operation.restore.label] else []

/-- What is known of the option besides its meaning. -/
def remarks (environment : List (String × String)) (o : OptionSpec) : String :=
  let fallback := o.fallback.map fun name =>
    "[env: " ++ name ++ "=" ++ (environment.lookup name).getD "" ++ "]"
  let default := o.default.map fun value => "[default: " ++ value ++ "]"
  let choices := if o.choices.isEmpty then none
    else some ("[possible values: " ++ ", ".intercalate o.choices ++ "]")
  " ".intercalate (fallback.toList ++ default.toList ++ choices.toList)

/-- The meaning of the option, with what else is known of it. -/
def meaning (environment : List (String × String)) (o : OptionSpec) : String :=
  let remarks := o.remarks environment
  if remarks = "" then o.help else o.help ++ " " ++ remarks

/-- What decides between options with the same place. -/
def orderKey (o : OptionSpec) : String :=
  match o.letter with
  | some c => String.ofList [c, '0']
  | none => o.long

end OptionSpec

namespace Help

/-- The options of two lists by their places. -/
def beside : List OptionSpec → List OptionSpec → List OptionSpec
  | a :: as, b :: bs =>
    if a.orderKey < b.orderKey then a :: b :: beside as bs else b :: a :: beside as bs
  | as, [] => as
  | [], bs => bs

def helpOption : OptionSpec := { long := "help", letter := some 'h', help := "Print help" }

def versionOption : OptionSpec := { long := "version", letter := some 'V', help := "Print version" }

/-! ## Columns -/

/-- The characters of a line. -/
def lineLength : Nat := 100

/-- The characters of the longest text. -/
def longest (texts : List String) : Nat := texts.foldl (fun n s => max n s.length) 0

/-- The text with spaces behind it up to a width. -/
def padded (width : Nat) (s : String) : String :=
  s ++ String.ofList (List.replicate (width - s.length) ' ')

/-- The column leaves too little room for the meaning of an option. -/
def isTight (environment : List (String × String)) (width : Nat) (o : OptionSpec) : Bool :=
  let taken := width + 12
  taken ≤ lineLength && 40 < taken
    && lineLength - taken < o.help.length + (o.remarks environment).length

/-- The lines of options. -/
def optionLines (environment : List (String × String)) (options : List OptionSpec) :
    List String :=
  let width := longest (options.map (·.written))
  if options.any (isTight environment width) then
    options.flatMap fun o =>
      ["  " ++ o.letterPart ++ o.written, "          " ++ o.meaning environment]
  else
    options.map fun o =>
      "  " ++ o.letterPart ++ padded width o.written ++ "  " ++ o.meaning environment

/-! ## Pages -/

/-- What the commands are for. -/
def purposes : List (String × String) :=
  [("backup", "Back up a collection"), ("restore", "Restore a collection from a backup"),
    ("status", "Query the status of an async backup or restore"),
    ("serve", "Serve the REST API"),
    (helpCommand, "Print this message or the help of the given subcommand(s)")]

/-- The line of a command. -/
def commandLine (width : Nat) (command : String × String) : String :=
  "  " ++ padded width command.1 ++ "  " ++ command.2

/-- A command with its options, if there is one of that name. -/
def find? (command : Option String) : Option (String × List OptionSpec) := do
  let name ← command
  return (name, ← commandOptions.lookup name)

/-- How a command is used. -/
def usage (command : Option String) : String :=
  "Usage: " ++ Service.command ++ (match find? command with
    | some (name, options) =>
      let required := (options.filter (·.required)).map fun o => " " ++ o.written
      " " ++ name ++ " [OPTIONS]" ++ String.join required
    | none => " [OPTIONS] <COMMAND>")

/-- The page of one command, or of all of them. -/
def page (environment : List (String × String)) (command : Option String) : String :=
  let lines := match find? command with
    | some (name, options) =>
      [(purposes.lookup name).getD "", "", usage name, "", "Options:"]
        ++ optionLines environment (beside options sharedOptions ++ [helpOption])
    | none =>
      let width := longest (purposes.map Prod.fst)
      [Service.description, "", usage none, "", "Commands:"]
        ++ purposes.map (commandLine width)
        ++ ["", "Options:"]
        ++ optionLines environment (sharedOptions ++ [helpOption, versionOption])
  String.join (lines.map (· ++ "\n"))

end Help

end ClusterBackup.CommandLine
