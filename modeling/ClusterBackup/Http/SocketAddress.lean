/-
ClusterBackup.Http.SocketAddress — where a server listens.

An address is four numbers below 256 or eight below 65536, and a port. In
brackets, the longer form is written in hexadecimal; one run of zeros may
be left out between two colons, and the last two numbers may be written as
the shorter form.
-/
import ClusterBackup.Text.Split
import ClusterBackup.Text.Hex

namespace ClusterBackup.Http

/-- An address and a port. -/
structure SocketAddress where
  host : String
  port : Nat
deriving DecidableEq, Repr

namespace SocketAddress

/-- The number that decimal digits write, below a bound. -/
def decimal? (bound : Nat) (cs : List Char) : Option Nat :=
  if cs.isEmpty || !cs.all Char.isDigit then none
  else
    let n := cs.foldl (fun n c => n * 10 + (c.toNat - '0'.toNat)) 0
    if n < bound then some n else none

/-- A number of a short address has no zeros in front. -/
def isOctet (cs : List Char) : Bool :=
  cs.length ≤ 3 && (decimal? 256 cs).isSome && (cs.length == 1 || cs.head? != some '0')

/-- A short address. -/
def isShortAddress (cs : List Char) : Bool :=
  let parts := Text.splitWhere (· == '.') cs
  parts.length == 4 && parts.all isOctet

/-- A number of a long address. -/
def isGroup (cs : List Char) : Bool :=
  !cs.isEmpty && cs.length ≤ 4 && cs.all fun c => (Text.hexValue? c).isSome

/-- How many numbers the parts of a long address stand for, if they are parts of one. -/
def groupCount? : List (List Char) → Option Nat
  | [] => some 0
  | [last] => if isGroup last then some 1 else if isShortAddress last then some 2 else none
  | part :: parts => if isGroup part then (groupCount? parts).map (· + 1) else none

/-- The numbers on one side of a left out run. -/
def sideCount? (cs : List Char) : Option Nat :=
  if cs.isEmpty then some 0 else groupCount? (Text.splitWhere (· == ':') cs)

/-- The characters before and after the first two colons in a row. -/
def cutRun? : List Char → Option (List Char × List Char)
  | ':' :: ':' :: rest => some ([], rest)
  | c :: rest => (cutRun? rest).map fun r => (c :: r.1, r.2)
  | [] => none

/-- A long address. -/
def isLongAddress (cs : List Char) : Bool :=
  match cutRun? cs with
  | some (before, after) =>
    match sideCount? before, sideCount? after with
    | some m, some n => m + n < 8 && !before.contains '.'
    | _, _ => false
  | none => groupCount? (Text.splitWhere (· == ':') cs) == some 8

/-- The number of a scope, after a percent sign. -/
def isScoped (cs : List Char) : Bool :=
  let (address, scope) := Text.cut '%' cs
  isLongAddress address && (!cs.contains '%' || (decimal? UInt32.size scope).isSome)

/-- The address that a text writes. -/
def parse? (s : String) : Option SocketAddress :=
  match s.toList with
  | '[' :: rest =>
    let (host, after) := Text.cut ']' rest
    match after with
    | ':' :: port =>
      if isScoped host then
        (decimal? UInt16.size port).map fun n => ⟨String.ofList ('[' :: (host ++ [']'])), n⟩
      else none
    | _ => none
  | cs =>
    let (host, port) := Text.cut ':' cs
    if isShortAddress host then (decimal? UInt16.size port).map fun n => ⟨String.ofList host, n⟩
    else none

end SocketAddress

end ClusterBackup.Http
