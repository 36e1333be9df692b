import Cardroom.Server.Options
import Cardroom.Service
import Std.Async.TCP
import Std.Net.Addr
import Std.Sync.Mutex

/-!
# The server program

Listens for players and runs the service for them. Everything that is decided is decided by the
service; here it is connected to sockets, to the clock and to a source of randomness.
-/

namespace Cardroom.Program

open Std.Async

structure State where
  service : Service
  sockets : List (Nat × TCP.Socket.Client)

def currentMoment : IO Moment := do
  let now := (← IO.monoNanosNow) / 1000
  let seed ← IO.rand 0 (Token.count - 1)
  let picks ← (List.range 108).mapM fun _ => IO.rand 0 1000000000
  return { now, token := Token.nth seed, shuffle := Shuffle.ofPicks picks }

/-- Sends to every peer what has been written for it, and ends the connections that are over. -/
def flush (state : State) : IO State := do
  let mut service := state.service
  let mut sockets := state.sockets
  for (id, socket) in state.sockets do
    if let some peer := service.peer? id then
      let bytes := peer.sink.taken
      if !bytes.isEmpty then
        discard <| Async.toIO (socket.send bytes.toByteArray)
        service := service.modifyPeer id fun peer =>
          { peer with sink := { peer.sink with taken := [] } }
      if peer.hasEnded then
        discard <| Async.toIO socket.shutdown
        service := service.dismiss id
        sockets := sockets.filter fun entry => entry.1 != id
  return { service, sockets }

def act {α : Type} (shared : Std.Mutex State) (change : Moment → State → α × State) : IO α :=
  shared.atomically do
    let (result, state) := change (← currentMoment) (← get)
    set (← flush state)
    return result

/-- Hands the bytes of a peer to the service until there are no more. -/
partial def listen (shared : Std.Mutex State) (id : Nat) (socket : TCP.Socket.Client) :
    IO Unit := do
  let received ← try (socket.recv? 4096).block catch _ => pure none
  match received with
  | some bytes =>
      act shared fun moment state =>
        ((), { state with service := state.service.arrive moment id bytes.data.toList })
      listen shared id socket
  | none =>
      act shared fun moment state =>
        ((), { state with service := state.service.hangUp moment id })

/-- Sweeps at regular intervals. -/
partial def sweepForever (shared : Std.Mutex State) (interval : Time) : IO Unit := do
  IO.sleep (interval / 1000).toUInt32
  act shared fun moment state => ((), { state with service := state.service.sweep moment })
  sweepForever shared interval

/-- Accepts connections for ever. -/
partial def acceptForever (shared : Std.Mutex State) (server : TCP.Socket.Server) : IO Unit := do
  let socket ← server.accept.block
  let id ← act shared fun moment state =>
    let (id, service) := state.service.connect moment
    (id, { service, sockets := state.sockets ++ [(id, socket)] })
  discard (IO.asTask (listen shared id socket) Task.Priority.dedicated)
  acceptForever shared server

def run (config : Config) : IO UInt32 := do
  match Std.Net.IPv4Addr.ofString config.host with
  | none =>
      IO.eprintln ("bad address " ++ config.host)
      return 1
  | some addr =>
      let server ← TCP.Socket.Server.mk
      server.bind (.v4 { addr, port := UInt16.ofNat config.port })
      server.listen 128
      let service := Service.opened config (← currentMoment).now
      let shared ← Std.Mutex.new { service, sockets := [] }
      discard (IO.asTask (sweepForever shared config.sweepInterval) Task.Priority.dedicated)
      acceptForever shared server
      return 0

end Cardroom.Program

def main (arguments : List String) : IO UInt32 := do
  match ({} : Cardroom.Config).ofArguments arguments with
  | .ok config => Cardroom.Program.run config
  | .error error =>
      IO.eprintln error.message
      return 2
