import Cardroom.Server.Sweep
import Cardroom.Service.Peer

/-!
# The service

The running server: the tables, and the peers that are connected to it. Whatever a peer does, and
every sweep, is followed by everything that comes of it, until each worker waits for more.
-/

namespace Cardroom

/-- The server with its connections, which are numbered from one in the order in which they came. -/
structure Service where
  config : Config
  tables : Tables
  /-- How many have connected so far. -/
  connected : Nat := 0
  peers : List Peer := []
deriving DecidableEq, Repr

namespace Service

def opened (config : Config) (now : Time) : Service where
  config
  tables := Tables.vacant config now

def peer? (id : Nat) (service : Service) : Option Peer :=
  service.peers.find? fun peer => peer.id == id

def modifyPeer (id : Nat) (change : Peer → Peer) (service : Service) : Service :=
  { service with
    peers := service.peers.map fun peer => if peer.id = id then change peer else peer }

/-- Takes over the tables of a step, delivers its outbox, and lets every writer write. -/
def apply (step : Step) (service : Service) : Service :=
  let channels := step.outbox.deliver (service.peers.map Peer.channel)
  { service with
    tables := step.tables
    peers := service.peers.zipWith (fun peer channel => { peer with channel }.write) channels }

def work (moment : Moment) (id : Nat) : Nat → Service → Service
  | 0, service => service
  | steps + 1, service =>
      match (service.peer? id).bind fun peer => peer.worker.map fun worker => (peer, worker) with
      | none => service
      | some (peer, worker) =>
          let closed := peer.channel.closed
          if worker.isIdle closed peer.mayGoOn then
            service
          else
            let (worker, step) := worker.step service.config moment closed service.tables
            let service := service.modifyPeer id fun peer => { peer with worker := some worker }
            work moment id steps (service.apply step)

def settle (moment : Moment) (id : Nat) (service : Service) : Service :=
  let bound := (((service.peer? id).bind Peer.worker).map Worker.stepBound).getD 0
  service.work moment id bound

def connect (moment : Moment) (service : Service) : Nat × Service :=
  let id := service.connected + 1
  let (slot, step) := service.tables.accept moment.now id
  let worker := slot.map fun slot =>
    { connection := id, slot, source := { chunks := [], fault := none } }
  let peer : Peer := { channel := { id }, worker }
  (id, ({ service with connected := id, peers := service.peers ++ [peer] } : Service).apply step)

def arrive (moment : Moment) (id : Nat) (bytes : List UInt8) (service : Service) : Service :=
  (service.modifyPeer id (Peer.send bytes)).settle moment id

def hangUp (moment : Moment) (id : Nat) (service : Service) : Service :=
  (service.modifyPeer id Peer.hangUp).settle moment id

def dismiss (id : Nat) (service : Service) : Service :=
  { service with peers := service.peers.filter fun peer => peer.id != id }

def sweep (moment : Moment) (service : Service) : Service :=
  let swept := service.apply (service.tables.sweep service.config moment.now)
  (swept.peers.map Peer.id).foldl (fun service id => service.settle moment id) swept

/-- A peer reads so many frames, or, with no number given, all frames up to the end of its stream.
While it waits the server goes on sweeping, up to so many times. -/
def receive (moment : Moment) (id : Nat) (wanted : Option Nat) :
    Nat → Service → List Frame × Option WireError × Service
  | sweeps, service =>
      match service.peer? id with
      | none => ([], some .disconnected, service)
      | some peer =>
          let reading := peer.receiveUpTo (wanted.getD (peer.sink.taken.length + 1))
          let read := service.modifyPeer id fun _ => reading.peer
          if reading.error.isSome || wanted == some reading.frames.length then
            (reading.frames, reading.error, read)
          else
            match sweeps with
            | 0 => (reading.frames, none, read)
            | sweeps + 1 =>
                let later := { moment with now := moment.now + service.config.sweepInterval }
                let rest := receive later id (wanted.map (· - reading.frames.length)) sweeps
                  (read.sweep later)
                (reading.frames ++ rest.1, rest.2)

end Service

end Cardroom
