/-
ClusterBackup.CommandLine.Grammar — options and commands, and how words become them.

Options are known by a long name and perhaps a letter. One that takes a
value finds it behind an equals sign, behind its letter, or in the next
word unless that looks like an option. Letters of options without a value
may be joined. An option may be given once for the command and, if it is
shared, once before it; what is not given may come from the environment.
-/

namespace ClusterBackup.CommandLine

/-- The values that an option takes. -/
inductive ValueKind where
  | text
  /-- A text that is not empty. -/
  | path
  /-- A whole number of 64 bits. -/
  | seconds
  | operation
deriving DecidableEq, Repr

/-- The number that a text writes, a plus sign aside, if 64 bits hold it. -/
def number? (s : String) : Option Nat :=
  let digits := match s.toList with
    | '+' :: cs => cs
    | cs => cs
  if digits.isEmpty || !digits.all Char.isDigit then none
  else
    let n := digits.foldl (fun n c => n * 10 + (c.toNat - '0'.toNat)) 0
    if n < UInt64.size then some n else none

/-- The option takes the value. -/
def ValueKind.accepts (s : String) : ValueKind → Bool
  | text => true
  | path => s != ""
  | seconds => (number? s).isSome
  | operation => s == "backup" || s == "restore"

/-- An option. -/
structure OptionSpec where
  long : String
  letter : Option Char := none
  /-- What value it takes; none if it takes none. -/
  value : Option ValueKind := none
  /-- The variable of the environment that stands in for it. -/
  fallback : Option String := none
  /-- The value that stands where nothing is given. -/
  default : Option String := none
  required : Bool := false
  /-- What the option is for. -/
  help : String := ""
deriving DecidableEq, Repr

/-- The option takes the text: a value of its kind, or whether it is set. -/
def OptionSpec.accepts (o : OptionSpec) (s : String) : Bool :=
  match o.value with
  | some kind => kind.accepts s
  | none => s == "true" || s == "false"

/-- Why words are not carried out. -/
inductive Stop where
  /-- Help was asked for, perhaps on one command. -/
  | help (command : Option String)
  | version
  /-- The words are not understood. -/
  | usage
deriving DecidableEq, Repr

/-- Options that were given, with their values. -/
abbrev Given := List (String × String)

/-- What may stand at one place of a command line: before the command, or behind it. -/
structure Level where
  command : Option String
  options : List OptionSpec
  commands : List String
  hasVersion : Bool
deriving DecidableEq, Repr

namespace Level

/-! ## Words -/

def byLong? (l : Level) (name : String) : Option OptionSpec := l.options.find? (·.long == name)

def byLetter? (l : Level) (c : Char) : Option OptionSpec := l.options.find? (·.letter == some c)

/-- Takes an option with its value; it must not have come up before. -/
def give (g : Given) (o : OptionSpec) (value : String) : Except Stop Given :=
  if (g.lookup o.long).isSome || !o.accepts value then .error .usage
  else .ok (g ++ [(o.long, value)])

/-- Words that look like options are no values. -/
def isValue (word : String) : Bool := word == "-" || !word.startsWith "-"

/-- Takes an option with its value out of the words after it. -/
def giveNext (g : Given) (o : OptionSpec) : List String → Except Stop (Given × List String)
  | word :: rest =>
    if isValue word then do return (← give g o word, rest) else .error .usage
  | [] => .error .usage

/-- The name and the value behind an equals sign, if there is one. -/
def splitValue (cs : List Char) : String × Option String :=
  let name := cs.takeWhile (· != '=')
  (String.ofList name,
    if cs.contains '=' then some (String.ofList (cs.drop (name.length + 1))) else none)

/-- Takes a word of two dashes and a name. -/
def takeLong (l : Level) (g : Given) (cs : List Char) (rest : List String) :
    Except Stop (Given × List String) :=
  let (name, value) := splitValue cs
  match l.byLong? name, value with
  | some o, some value =>
    if o.value.isSome then do return (← give g o value, rest) else .error .usage
  | some o, none =>
    if o.value.isSome then giveNext g o rest else do return (← give g o "true", rest)
  | none, some _ => .error .usage
  | none, none =>
    if name = "help" then .error (.help l.command)
    else if name = "version" ∧ l.hasVersion then .error .version
    else .error .usage

/-- Takes the letters of a word of one dash. -/
def takeLetters (l : Level) (g : Given) (rest : List String) :
    List Char → Except Stop (Given × List String)
  | [] => .ok (g, rest)
  | c :: cs =>
    match l.byLetter? c with
    | some o =>
      if o.value.isSome then
        match cs with
        | [] => giveNext g o rest
        | '=' :: value => do return (← give g o (String.ofList value), rest)
        | value => do return (← give g o (String.ofList value), rest)
      else do l.takeLetters (← give g o "true") rest cs
    | none =>
      if c = 'h' then .error (.help l.command)
      else if c = 'V' ∧ l.hasVersion then .error .version
      else .error .usage

/-- Reads words up to a command: the options, and the command with the words after it. Every step
takes a word, so fuel as long as the words is enough. -/
def readWords (l : Level) : (fuel : Nat) → Given → List String →
    Except Stop (Given × Option (String × List String))
  | _, g, [] => .ok (g, none)
  | 0, _, _ => .error .usage
  | fuel + 1, g, word :: rest =>
    if l.commands.contains word then .ok (g, some (word, rest))
    else
      match word.toList with
      | '-' :: '-' :: [] => if rest.isEmpty then .ok (g, none) else .error .usage
      | '-' :: '-' :: cs => do
        let (g, rest) ← l.takeLong g cs rest
        l.readWords fuel g rest
      | '-' :: c :: cs => do
        let (g, rest) ← l.takeLetters g rest (c :: cs)
        l.readWords fuel g rest
      | _ => .error .usage

def read (l : Level) (words : List String) :
    Except Stop (Given × Option (String × List String)) :=
  l.readWords words.length [] words

/-! ## The environment -/

/-- What the environment says about the options that were not given. -/
def fromEnvironment (l : Level) (environment : List (String × String)) (g : Given) :
    Except Stop Given :=
  l.options.foldlM (fun found o =>
    match o.fallback.bind fun name => environment.lookup name with
    | some value =>
      if (g.lookup o.long).isSome then .ok found
      else if o.accepts value then .ok (found ++ [(o.long, value)])
      else .error .usage
    | none => .ok found) []

end Level

end ClusterBackup.CommandLine
