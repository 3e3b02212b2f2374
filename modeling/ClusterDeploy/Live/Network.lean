import ClusterDeploy.Http.Wire
import Std.Internal.UV.DNS
import Std.Internal.UV.TCP

/-!
# The network

Sending requests to servers.

## Main definitions

* `Live.waitUntil` — waits for something that somebody else does.
* `Live.exchange` — sends a request and waits for what comes back.

## Implementation notes

A server that cannot be reached, and one that takes too long, count as if they had closed the
connection without an answer.
-/

namespace ClusterDeploy.Live

/-- How long to wait between two looks at something that somebody else does. -/
def lookInterval : Millis := 2

/-- Waits for a span of time. -/
def pause (span : Millis) : IO Unit :=
  IO.sleep (UInt32.ofNat (min span (UInt32.size - 1)))

/-- Waits until something is so, but no longer than until a moment; tells whether it is so. -/
partial def waitUntil (stop : Option Nat) (isSo : IO Bool) : IO Bool := do
  if ← isSo then return true
  let now ← IO.monoMsNow
  if stop.any (· ≤ now) then return false
  pause lookInterval
  waitUntil stop isSo

/-- The value that is promised, if it comes before a moment. -/
def awaitValue {α : Type} (stop : Nat) (promised : IO (IO.Promise (Except IO.Error α))) :
    IO (Option α) := do
  let result := (← promised).result?
  if ← waitUntil (some stop) (IO.hasFinished result) then
    match ← IO.wait result with
    | some (.ok value) => return some value
    | _ => return none
  else return none

/-- The addresses of a server. -/
def addresses (stop : Nat) (server : Http.Server) : IO (List Std.Net.SocketAddress) := do
  let number := UInt16.ofNat server.number
  let found ← awaitValue stop (Std.Internal.UV.DNS.getAddrInfo server.host.text "" 0)
  return (found.getD #[]).toList.map fun
    | .v4 address => .v4 ⟨address, number⟩
    | .v6 address => .v6 ⟨address, number⟩

/-- A connection to the first address that accepts one. -/
def connect (stop : Nat) : List Std.Net.SocketAddress → IO (Option Std.Internal.UV.TCP.Socket)
  | [] => return none
  | address :: rest => do
    let socket ← Std.Internal.UV.TCP.Socket.new
    match ← awaitValue stop (socket.connect address) with
    | some () => return some socket
    | none => connect stop rest

/-- The greatest number of bytes that are taken from a connection at once. -/
def pieceSize : UInt64 := 65536

/-- Takes bytes from a connection until they tell what comes back. -/
partial def receive (stop : Nat) (socket : Std.Internal.UV.TCP.Socket) (received : ByteArray) :
    IO Http.Reply := do
  match ← awaitValue stop (socket.recv? pieceSize) with
  | some (some piece) =>
    let now := received ++ piece
    match Http.Reply.read false now.toList with
    | some reply => return reply
    | none => receive stop socket now
  | _ => return (Http.Reply.read true received.toList).getD .dropped

/-- Sends a request and waits for what comes back, but no longer than a limit. -/
def exchange (limit : Millis) (request : Http.Request) : IO Http.Reply := do
  let stop := (← IO.monoMsNow) + limit
  let attempt : IO Http.Reply := do
    match ← connect stop (← addresses stop request.server) with
    | none => return .dropped
    | some socket =>
      match ← awaitValue stop (socket.send #[⟨request.bytes.toArray⟩]) with
      | none => return .dropped
      | some () => receive stop socket .empty
  match ← attempt.toBaseIO with
  | .ok reply => return reply
  | .error _ => return .dropped

end ClusterDeploy.Live
