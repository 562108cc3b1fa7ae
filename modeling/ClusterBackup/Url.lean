/-
ClusterBackup.Url — where an HTTP request goes.

A URL with the scheme http or https: who is asked, the segments of the
path, and the query. Reading follows the rules for such URLs: white space
at the ends and line breaks anywhere go, a backslash separates like a
slash, a dot as a segment stands for nothing and two dots take the segment
before them away, and characters that must not stand in a path or a query
are put behind percent signs. A fragment is not part of what is asked for.
-/
import ClusterBackup.Url.Form

namespace ClusterBackup

/-- A URL of the web. -/
structure Url where
  secure : Bool
  host : String
  port : Option Nat
  /-- The segments of the path as they are written. -/
  segments : List String
  query : Option String
deriving DecidableEq, Repr

namespace Url

/-! ## Characters -/

/-- Characters that are removed at the ends. -/
def isControlOrSpace (c : Char) : Bool := c.toNat ≤ 0x20

/-- Characters that are removed anywhere. -/
def isLineBreakOrTab (c : Char) : Bool := c == '\t' || c == '\n' || c == '\r'

/-- Printable characters of ASCII other than those given. -/
def printableBut (others : List Char) (c : Char) : Bool :=
  0x20 < c.toNat && c.toNat < 0x7F && !others.contains c

/-- Characters that stand in a path as they are. -/
def isPathChar : Char → Bool :=
  printableBut ['"', '#', '<', '>', '?', Char.ofNat 0x60, '\x7b', '\x7d']

/-- Characters that stand in a query as they are. -/
def isQueryChar : Char → Bool := printableBut ['"', '#', '<', '>', '\'']

/-- Characters that no host has. -/
def isForbiddenInHost (c : Char) : Bool :=
  c.toNat ≤ 0x20 || c.toNat == 0x7F
    || ['#', '/', ':', '<', '>', '?', '@', '[', '\\', ']', '^', '|', '%'].contains c

def isSlash (c : Char) : Bool := c == '/' || c == '\\'

/-! ## The path -/

/-- The part with its dots written as dots, and its letters in lower case. -/
def plainDots : List Char → List Char
  | '%' :: '2' :: e :: rest =>
    if e = 'e' ∨ e = 'E' then '.' :: plainDots rest else '%' :: '2' :: plainDots (e :: rest)
  | c :: rest => c :: plainDots rest
  | [] => []

/-- Walks along the parts, with the segments so far in reverse order. -/
def walk (before : List String) : List (List Char) → List String
  | [] => before.reverse
  | [last] =>
    if plainDots last = ['.'] then ("" :: before).reverse
    else if plainDots last = ['.', '.'] then ("" :: before.drop 1).reverse
    else (String.ofList (Percent.encode isPathChar last) :: before).reverse
  | part :: parts =>
    if plainDots part = ['.'] then walk before parts
    else if plainDots part = ['.', '.'] then walk (before.drop 1) parts
    else walk (String.ofList (Percent.encode isPathChar part) :: before) parts

/-- The segments of a path. -/
def readPath (cs : List Char) : List String :=
  match cs with
  | c :: rest => walk [] (Text.splitWhere isSlash (if isSlash c then rest else cs))
  | [] => [""]

/-! ## The authority -/

/-- The characters after the last of a sign, or all of them. -/
def afterLast (sign : Char) (cs : List Char) : List Char :=
  (cs.reverse.takeWhile (· != sign)).reverse

/-- The number of a port; none where nothing is written. -/
def readPort? (cs : List Char) : Option (Option Nat) :=
  if cs.isEmpty then some none
  else if cs.all Char.isDigit then
    let n := cs.foldl (fun n c => n * 10 + (c.toNat - '0'.toNat)) 0
    if n < UInt16.size then some (some n) else none
  else none

/-- The host and the port. -/
def readAuthority? (cs : List Char) : Option (String × Option Nat) := do
  let cs := afterLast '@' cs
  let (host, port) ←
    match cs with
    | '[' :: _ =>
      let inner := cs.takeWhile (· != ']')
      match cs.drop inner.length with
      | ']' :: ':' :: port => some (inner ++ [']'], port)
      | [']'] => some (inner ++ [']'], [])
      | _ => none
    | _ =>
      let (host, port) := Text.cut ':' cs
      if host.isEmpty || host.any isForbiddenInHost then none else some (host, port)
  return (String.ofList (host.map Char.toLower), ← readPort? port)

/-! ## Reading a URL -/

/-- The scheme before the colon, if it is one of the two, and the characters after it. -/
def readScheme? (cs : List Char) : Option (Bool × List Char) :=
  let name := String.ofList ((cs.takeWhile (· != ':')).map Char.toLower)
  let rest := (cs.dropWhile (· != ':')).drop 1
  if name = "http" then some (false, rest)
  else if name = "https" then some (true, rest)
  else none

/-- Characters that end an authority. -/
def endsAuthority (c : Char) : Bool := isSlash c || c == '?' || c == '#'

/-- The URL that a text writes. -/
def parse? (s : String) : Option Url := do
  let trimmed := ((s.toList.dropWhile isControlOrSpace).reverse.dropWhile isControlOrSpace).reverse
  let (secure, cs) ← readScheme? (trimmed.filter (!isLineBreakOrTab ·))
  let cs := cs.dropWhile isSlash
  let (host, port) ← readAuthority? (cs.takeWhile (!endsAuthority ·))
  let cs := (cs.dropWhile (!endsAuthority ·)).takeWhile (· != '#')
  let (path, query) := Text.cut '?' cs
  let query := if cs.contains '?' then some (String.ofList (Percent.encode isQueryChar query))
    else none
  return ⟨secure, host, port, readPath path, query⟩

/-! ## Asking -/

/-- The URL with pairs added to its query. -/
def withQuery (u : Url) (pairs : List (String × String)) : Url :=
  let added := String.ofList (Form.encode pairs)
  { u with query := some (match u.query with
      | none | some "" => added
      | some q => q ++ "&" ++ added) }

/-- Path and query as they are sent. -/
def target (u : Url) : String :=
  "/" ++ "/".intercalate u.segments ++ (match u.query with
    | some q => "?" ++ q
    | none => "")

end Url

end ClusterBackup
