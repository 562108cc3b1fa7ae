/-
ClusterBackup.Table — tables by name, in the order of their names.

A table is a list of names with values. `insert` keeps the names in their
order and replaces the value of a name that is there already; `erase`
removes a name. The names of a table that was built by these two are
strictly increasing, so each occurs once.
-/

namespace ClusterBackup

/-- Values by name. -/
abbrev Table (α : Type) := List (String × α)

namespace Table

variable {α : Type}

/-- The value of a name. -/
def get? (t : Table α) (name : String) : Option α := t.lookup name

def contains (t : Table α) (name : String) : Bool := (t.get? name).isSome

/-- The names in their order. -/
def names (t : Table α) : List String := t.map (·.1)

/-- Gives a name a value. -/
def insert (name : String) (value : α) : Table α → Table α
  | [] => [(name, value)]
  | (n, v) :: rest =>
    if n = name then (name, value) :: rest
    else if name < n then (name, value) :: (n, v) :: rest
    else (n, v) :: insert name value rest

/-- Removes a name. -/
def erase (name : String) (t : Table α) : Table α := t.filter (·.1 != name)

end Table

end ClusterBackup
