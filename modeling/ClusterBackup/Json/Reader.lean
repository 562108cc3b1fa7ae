/-
ClusterBackup.Json.Reader — values and typed parts out of drafts.

A reader walks a draft in the order of the text and stops at the first
thing that is wrong. `Fault` says which of two kinds it is: the text is
not JSON there, or it is JSON of a shape that was not asked for.

`Draft.value?` reads any value, nested at most 127 deep. The typed readers
read one scalar or list each. `Draft.record` reads the members of a record
with known names: an object may hold others, which are skipped without
looking inside, but no known name twice; an array gives the members by
position and may stop early.
-/
import ClusterBackup.Json.Draft

namespace ClusterBackup.Json

/-- Why a reader stopped. -/
inductive Fault where
  /-- The text is not JSON. -/
  | malformed
  /-- The text is JSON, but not what was asked for. -/
  | mismatched
deriving DecidableEq, Repr

namespace Draft

/-! ## Any value -/

/-- How deep values may be nested, and one more. -/
def depthLimit : Nat := 128

mutual

/-- The value of a draft. -/
def value? (depth : Nat) : Draft → Except Fault Json
  | broken => .error .malformed
  | null => .ok .null
  | bool b => .ok (.bool b)
  | number (some n) => .ok (.number n)
  | number none => .error .malformed
  | string (some s) => .ok (.string s)
  | string none => .error .malformed
  | array items closed =>
    if depth ≤ 1 then .error .malformed
    else do
      let vs ← values? (depth - 1) items
      if closed then return .array vs else .error .malformed
  | object members closed =>
    if depth ≤ 1 then .error .malformed
    else do
      let ms ← members? (depth - 1) [] members
      if closed then return .object ms else .error .malformed

/-- The values of the items of an array. -/
def values? (depth : Nat) : List Draft → Except Fault (List Json)
  | [] => .ok []
  | d :: ds => do
    let v ← value? depth d
    let vs ← values? depth ds
    return v :: vs

/-- The members of an object, after those that came before. -/
def members? (depth : Nat) (before : List (String × Json)) :
    List (Option String × Draft) → Except Fault (List (String × Json))
  | [] => .ok before
  | (none, _) :: _ => .error .malformed
  | (some name, d) :: ms => do
    let v ← value? depth d
    members? depth (insertMember before name v) ms

end

/-! ## Scalars and lists -/

/-- What is wrong with a draft of another kind than the one that was asked for: a scalar is read to
its end before it is refused, an array or an object is not. -/
def refusal : Draft → Fault
  | broken => .malformed
  | number none => .malformed
  | string none => .malformed
  | _ => .mismatched

def text? : Draft → Except Fault String
  | string (some s) => .ok s
  | d => .error d.refusal

def flag? : Draft → Except Fault Bool
  | bool b => .ok b
  | d => .error d.refusal

/-- A whole number within bounds. -/
def int? (low high : Int) : Draft → Except Fault Int
  | number (some (.int i)) => if low ≤ i ∧ i ≤ high then .ok i else .error .mismatched
  | d => .error d.refusal

/-- Null is nothing, anything else is read. -/
def optional? {α : Type} (read : Draft → Except Fault α) : Draft → Except Fault (Option α)
  | null => .ok none
  | d => (read d).map some

/-- Reads every item of an array. -/
def list? {α : Type} (read : Draft → Except Fault α) : Draft → Except Fault (List α)
  | array items closed => do
    let xs ← items.mapM read
    if closed then return xs else .error .malformed
  | d => .error d.refusal

/-- One of several words: the word itself, or an object whose only member has the word as its name
and nothing of its own as its value. -/
def choice? {α : Type} (words : List (String × α)) (hollow : Draft → Bool) :
    Draft → Except Fault α
  | string (some s) => (words.lookup s).elim (.error .mismatched) .ok
  | object [(some s, d)] true =>
    if hollow d then (words.lookup s).elim (.error .mismatched) .ok else .error .mismatched
  | d => .error d.refusal

/-- Null, and nothing else. -/
def isNull : Draft → Bool
  | null => true
  | _ => false

/-- Null, or an object without members. -/
def isEmptyValue : Draft → Bool
  | null => true
  | object [] true => true
  | _ => false

/-! ## Records -/

/-- The members of a record that were found, and whether they were given by position. -/
structure Record where
  positional : Bool
  members : List (String × Draft)

namespace Record

/-- A member that must be there. -/
def required {α : Type} (r : Record) (name : String) (read : Draft → Except Fault α) :
    Except Fault α :=
  match r.members.lookup name with
  | some d => read d
  | none => .error .mismatched

/-- A member that has a value of its own when it is left out. -/
def defaulted {α : Type} (r : Record) (name : String) (default : α)
    (read : Draft → Except Fault α) : Except Fault α :=
  match r.members.lookup name with
  | some d => read d
  | none => .ok default

/-- A member that is null when it is left out; by position it cannot be. -/
def nullable {α : Type} (r : Record) (name : String) (read : Draft → Except Fault α) :
    Except Fault (Option α) :=
  match r.members.lookup name with
  | some d => d.optional? read
  | none => if r.positional then .error .mismatched else .ok none

end Record

/-- The known members among named ones. -/
def knownMembers (names : List String) (found : List (String × Draft)) :
    List (Option String × Draft) → Except Fault (List (String × Draft))
  | [] => .ok found.reverse
  | (none, _) :: _ => .error .malformed
  | (some name, d) :: ms =>
    if name ∈ names then
      if (found.lookup name).isSome then .error .mismatched
      else
        match d with
        | broken => .error .malformed
        | d => knownMembers names ((name, d) :: found) ms
    else
      match d with
      | broken => .error .malformed
      | _ => knownMembers names found ms

/-- The members of a record with the given names. -/
def record (names : List String) : Draft → Except Fault Record
  | object members closed => do
    let found ← knownMembers names [] members
    if closed then return ⟨false, found⟩ else .error .malformed
  | array items closed =>
    if closed ∧ items.length ≤ names.length then .ok ⟨true, names.zip items⟩
    else .error .malformed
  | d => .error d.refusal

end Draft

/-- Reads a text that holds nothing but one value of the kind that `read` reads. -/
def readText {α : Type} (read : Draft → Except Fault α) (s : String) : Except Fault α :=
  let (d, rest) := Draft.scan s
  do
    let a ← read d
    match rest with
    | some rest => if (skipBlanks rest).isEmpty then return a else .error .malformed
    | none => .error .malformed

/-- The value that a text writes. -/
def parse? (s : String) : Option Json :=
  (readText (Draft.value? Draft.depthLimit) s).toOption

end ClusterBackup.Json
