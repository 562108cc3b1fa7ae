/-
ClusterBackup.Config.Yaml — settings from a file.

The file holds a mapping from settings to values, or nothing. A setting
that is a text takes the text of any scalar, whatever it looks like; a
setting that is a number takes a plain scalar that writes a whole number
in one of four bases. Only the location may be null. Settings that are not
known may have any value.
-/
import ClusterBackup.Config
import ClusterBackup.FileTree
import ClusterBackup.Yaml.Node

namespace ClusterBackup

open Yaml (Node)

namespace Yaml.Node

/-! ## Scalars -/

/-- The text of a scalar. -/
def text? : Node → Option String
  | scalar _ text _ => some text
  | _ => none

/-- The tag of the kind of values that YAML itself knows. -/
def coreTag (kind : String) : String := "tag:yaml.org,2002:" ++ kind

/-- The spellings of null. -/
def isNullText (s : String) : Bool := ["null", "Null", "NULL", "~"].contains s

/-- The text of a scalar, unless it is null or not there. -/
def optionalText? : Node → Option (Option String)
  | scalar tag text style =>
    if style ≠ .plain then some (some text)
    else if tag = some (coreTag "null") then (if isNullText text then some none else none)
    else if tag.isSome then some (some text)
    else if text = "" ∨ isNullText text then some none
    else some (some text)
  | _ => none

/-- The value of a digit in a base. -/
def digit? (base : Nat) (c : Char) : Option Nat :=
  (Text.hexValue? c).bind fun n => if n < base then some n else none

/-- The number that digits write in a base. -/
def digits? (base : Nat) (cs : List Char) : Option Nat :=
  if cs.isEmpty then none
  else cs.foldl (fun n c => do return (← n) * base + (← digit? base c)) (some 0)

/-- The letters after a zero that name a base. -/
def bases : List (Char × Nat) := [('x', 16), ('o', 8), ('b', 2)]

/-- The number that a text writes: decimal without zeros in front, or in another base. -/
def wholeNumber? (s : String) : Option Nat :=
  let cs := match s.toList with
    | '+' :: cs => cs
    | cs => cs
  match cs with
  | '0' :: c :: rest => (bases.lookup c).bind fun base => digits? base rest
  | cs => digits? 10 cs

/-- A whole number below a bound. -/
def natBelow? (bound : Nat) : Node → Option Nat
  | scalar tag text style =>
    if style = .plain ∨ (style = .literal ∧ tag = some (coreTag "int")) then
      (wholeNumber? text).bind fun n => if n < bound then some n else none
    else none
  | _ => none

def word32? (n : Node) : Option UInt32 := (n.natBelow? UInt32.size).map UInt32.ofNat

def word64? (n : Node) : Option UInt64 := (n.natBelow? UInt64.size).map UInt64.ofNat

end Yaml.Node

namespace Config

/-! ## Settings -/

/-- Takes one setting. -/
def set? (c : Config) (key : String) (value : Node) : Option Config :=
  match key with
  | "clientKind" => do return { c with clientKind := ← value.text? }
  | "baseUrl" => do return { c with baseUrl := ← value.text? }
  | "shardCount" => do return { c with shardCount := ← value.word32? }
  | "replicationFactor" => do return { c with replicationFactor := ← value.word32? }
  | "maxShardsPerNode" => do return { c with maxShardsPerNode := ← value.word32? }
  | "defaultLocation" => do return { c with defaultLocation := ← value.optionalText? }
  | "requestTimeoutSecs" => do return { c with requestTimeoutSecs := ← value.word64? }
  | "simulatedJobPolls" => do return { c with simulatedJobPolls := ← value.word32? }
  | _ => some c

/-- The names of the settings. -/
def settingNames : List String :=
  ["clientKind", "baseUrl", "shardCount", "replicationFactor", "maxShardsPerNode",
    "defaultLocation", "requestTimeoutSecs", "simulatedJobPolls"]

/-- Takes the members of a mapping one after another. A setting may come up once. -/
def setAll? (c : Config) (seen : List String) : List (Node × Node) → Option Config
  | [] => some c
  | (key, value) :: rest => do
    let key ← key.text?
    if seen.contains key then none
    else (← c.set? key value).setAll? (if settingNames.contains key then key :: seen else seen) rest

/-- The settings of a document. -/
def ofNode? : Option Node → Option Config
  | none => some {}
  | some (.mapping members) => ({} : Config).setAll? [] members
  | some (.scalar _ "" .plain) => some {}
  | some _ => none

/-- The settings that a text holds. -/
def ofYaml? (s : String) : Except Error Config :=
  match (Yaml.parse? s).bind ofNode? with
  | some c => .ok c
  | none => .error (.yamlParse "not a mapping of settings")

/-- The settings in a file, refused if no call could succeed with them. -/
def load (fs : FileSystem) (path : String) : Except Error Config := do
  match fs.text? path with
  | .error fault => .error (.io fault.message)
  | .ok text =>
    let c ← ofYaml? text
    c.validate
    return c

end Config

end ClusterBackup
