/-
ClusterBackup.Live.Network — messages over TCP.

One connection carries one request and its answer, for the client as for
the server. Only plain HTTP is carried. A client gives up after a while;
the server reads each connection on its own, but handles one request after
another.
-/
import ClusterBackup.Http.Message
import ClusterBackup.Rest.Message
import Std.Async.DNS
import Std.Async.TCP
import Std.Async.Timer
import Std.Sync.Mutex

namespace ClusterBackup.Live

open Std.Async (Async sleep)
open Std.Net (IPAddr IPv4Addr IPv6Addr)

/-- Bytes that are received at a time. -/
def pieceSize : UInt64 := 65536

/-- Receives until a message can be read, or the connection ends. -/
def receive {α : Type} (socket : Std.Async.TCP.Socket.Client)
    (read : (ended : Bool) → List UInt8 → Option α) : IO (Option α) := do
  let mut received := ByteArray.empty
  repeat
    match ← (socket.recv? pieceSize).block with
    | some more =>
      received := received ++ more
      if let some message := read false received.toList then return some message
    | none => return read true received.toList
  return none

/-- Sends bytes. -/
def send (socket : Std.Async.TCP.Socket.Client) (bytes : List UInt8) : IO Unit :=
  (socket.send ⟨bytes.toArray⟩).block

/-- An address with a port. -/
def withPort (address : IPAddr) (port : Nat) : Std.Net.SocketAddress :=
  match address with
  | .v4 addr => .v4 ⟨addr, port.toUInt16⟩
  | .v6 addr => .v6 ⟨addr, port.toUInt16⟩

/-- The address without its brackets. -/
def bareHost (host : String) : String :=
  String.ofList (host.toList.filter fun c => c != '[' && c != ']')

/-! ## Asking -/

/-- Asks for a URL. -/
def ask (u : Url) : IO Http.Response := do
  if u.secure then throw (IO.userError "only plain HTTP is supported")
  let port := u.port.getD 80
  let addresses ← (Std.Async.DNS.getAddrInfo (bareHost u.host) (toString port)).block
  match addresses[0]? with
  | none => throw (IO.userError ("no address for " ++ u.host))
  | some address =>
    let socket ← Std.Async.TCP.Socket.Client.mk
    (socket.connect (withPort address port)).block
    send socket (Http.requestBytes u)
    match ← receive socket Http.Response.ofBytes? with
    | some response => return response
    | none => throw (IO.userError "connection closed before message completed")

/-- Asks for a URL, and gives up after some seconds. -/
def askWithin (seconds : Nat) (u : Url) : IO (Except String Http.Response) := do
  let work : Async Http.Response := do
    Async.ofExcept (← Async.ofIOTask (IO.asTask (ask u) .dedicated))
  let alarm : Async Http.Response := do
    sleep (.ofNat (min seconds UInt32.size * 1000))
    throw (IO.userError "operation timed out")
  try
    return .ok (← (Async.race work alarm).block)
  catch e => return .error (toString e)

/-! ## Serving -/

/-- The numbers of an address. -/
def ipAddress? (host : String) : Option IPAddr :=
  ((IPv4Addr.ofString host).map IPAddr.v4).or ((IPv6Addr.ofString (bareHost host)).map IPAddr.v6)

/-- Why nothing can listen at an address. -/
def listenFault : IO.Error → String
  | .resourceBusy .. => "Address already in use (os error 98)"
  | .unsupportedOperation .. => "Cannot assign requested address (os error 99)"
  | .permissionDenied .. => "Permission denied (os error 13)"
  | e => toString e

/-- Listens at an address. -/
def listen (address : Http.SocketAddress) : IO Std.Async.TCP.Socket.Server := do
  let server ← Std.Async.TCP.Socket.Server.mk
  match ipAddress? address.host with
  | some ip =>
    server.bind (withPort ip address.port)
    server.listen 1024
    return server
  | none => throw (IO.userError "invalid address")

/-- Answers the requests of one connection after another, out of a state. -/
def serve {σ : Type} (server : Std.Async.TCP.Socket.Server) (start : σ)
    (handle : Rest.Request → StateT σ IO Rest.Reply) : IO Unit := do
  let state ← Std.Mutex.new start
  let answer (socket : Std.Async.TCP.Socket.Client) : IO Unit := do
    if let some request ← receive socket fun _ => Rest.Request.ofBytes? then
      let reply ← state.atomically do
        let (reply, s) ← (handle request).run (← get)
        set s
        return reply
      send socket reply.toBytes
      socket.shutdown.block
  repeat
    let socket ← server.accept.block
    discard (IO.asTask (answer socket) .dedicated)

end ClusterBackup.Live
