/-
ClusterBackup.Json.Value — JSON values.

An object keeps its members in the order in which their names first came
up; a name that comes up again replaces the value at its first place
(`insertMember`). Numbers are whole, or doubles; which of the two a
literal denotes is the reader's business. `get?` and `at?` look into a
value by member names, and answer nothing at any other kind of value.
-/
import ClusterBackup.Decimal.Binary64

namespace ClusterBackup

/-- A JSON number. -/
inductive Json.Number where
  | int (i : Int)
  | float (x : Decimal.Binary64)
deriving DecidableEq, Repr

/-- A JSON value. -/
inductive Json where
  | null
  | bool (b : Bool)
  | number (n : Json.Number)
  | string (s : String)
  | array (items : List Json)
  | object (members : List (String × Json))
deriving Repr, Inhabited

namespace Json

/-- Adds a member at the end, or replaces the value of the one that has the name. -/
def insertMember (members : List (String × Json)) (name : String) (value : Json) :
    List (String × Json) :=
  match members with
  | [] => [(name, value)]
  | m :: rest => if m.1 = name then (name, value) :: rest else m :: insertMember rest name value

/-- The value of a member of an object. -/
def get? : Json → String → Option Json
  | object members, name => members.lookup name
  | _, _ => none

/-- The value at the end of a path of member names. -/
def at? (v : Json) (path : List String) : Option Json :=
  path.foldl (fun v name => v.bind (·.get? name)) (some v)

def asString? : Json → Option String
  | string s => some s
  | _ => none

def asArray? : Json → Option (List Json)
  | array items => some items
  | _ => none

/-- The whole numbers of 64 bits with sign are below this one, and not below its negative. -/
def int64Bound : Int := 9223372036854775808

/-- A whole number within 64 bits with sign. -/
def asInt64? : Json → Option Int
  | number (.int i) => if -int64Bound ≤ i ∧ i < int64Bound then some i else none
  | _ => none

/-- A whole number. -/
def ofNat (n : Nat) : Json := number (.int n)

/-- The text, or null where there is none. -/
def ofText? : Option String → Json
  | some s => string s
  | none => null

/-- A text of known characters, or nothing where there is none: for members that are left out. -/
def member? (name : String) : Option Json → List (String × Json)
  | some v => [(name, v)]
  | none => []

end Json

end ClusterBackup
