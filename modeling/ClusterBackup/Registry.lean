/-
ClusterBackup.Registry — kinds of clients by name.

A registry maps names to ways of making a client, in the order in which
they were registered. Letter case does not matter, nor does white space at
the ends of the kind that a configuration asks for; the first registration
with the name is the one that is used.
-/
import ClusterBackup.Config
import ClusterBackup.Text.Lowercase
import ClusterBackup.Simulated.Cluster

namespace ClusterBackup

/-- Ways of making an `α` from settings, by name. -/
structure Registry (α : Type) where
  entries : List (String × (Config → Except Error α))

namespace Registry

variable {α : Type}

def empty : Registry α := ⟨[]⟩

/-- Adds a way behind those that are there. -/
def register (r : Registry α) (key : String) (make : Config → Except Error α) : Registry α :=
  ⟨r.entries ++ [(Text.lowercase key, make)]⟩

/-- The names in their order. -/
def keys (r : Registry α) : List String := r.entries.map (·.1)

/-- The name that the settings ask for. -/
def wantedKey (c : Config) : String := Text.lowercase (Text.trim c.clientKind)

def unknownKind (kind : String) (known : List String) : Error :=
  .configuration
    ("unknown client kind '" ++ kind ++ "', expected one of: " ++ ", ".intercalate known)

/-- Makes what the settings ask for. -/
def create (r : Registry α) (c : Config) : Except Error α :=
  match r.entries.lookup (wantedKey c) with
  | some make => make c
  | none => .error (unknownKind c.clientKind r.keys)

end Registry

/-- A client that was chosen by its kind. -/
inductive ClientChoice where
  /-- The cluster behind HTTP with these settings. -/
  | http (config : Config)
  /-- A simulated cluster. -/
  | simulated (cluster : Simulated.Cluster)
deriving DecidableEq, Repr

namespace ClientChoice

/-- The name of the kind. -/
def name : ClientChoice → String
  | http _ => "http"
  | simulated _ => "memory"

/-- The client for HTTP, which refuses unusable settings. -/
def makeHttp (c : Config) : Except Error ClientChoice := do
  c.validate
  return .http c

/-- A simulated cluster, which takes any settings. -/
def makeSimulated (c : Config) : Except Error ClientChoice := .ok (.simulated { config := c })

end ClientChoice

/-- The registry of the known kinds. -/
def Registry.standard : Registry ClientChoice :=
  (empty.register "http" ClientChoice.makeHttp).register "memory" ClientChoice.makeSimulated

end ClusterBackup
