/-
A whole server: its setup, its room, and the connections that it has taken in, each with a worker.
A server starts once; when it is shut down it stops its feed, drops every connection without
waiting for its worker, lets the guests go, and clears its roster.
-/
import Parley.Manager
import Parley.Query
import Parley.Report
import Parley.Server.Config
import Parley.Wire.Frame
import Parley.Worker

namespace Parley

/-- A server: whether it serves, and whether its endpoints wait to be used. -/
structure Server where
  config : Server.Config
  room : Room
  manager : Manager := {}
  workers : List Worker := []
  running : Bool := false
  bound : Bool := true

namespace Server

/-! ## Beginning and end -/

/-- A server with a setup, which is checked. -/
def new (config : Config) : Except ServerError Server := do
  let config ← config.check
  let room : Room :=
    match config.bridgeAddress with
    | some _ => { bridge := .new config.bridgeQueueCapacity, directory := .guests }
    | none => {}
  return { config, room }

/-- The bridge begins to follow the feed, if there is one. -/
def subscribeBridge (s : Server) : Server :=
  if s.config.bridgeAddress.isNone then s
  else
    let (id, feed) := s.room.feed.subscribe
    { s with room := { s.room with feed, bridgeSubscription := some id } }

/-- The bridge no longer follows the feed. -/
def unsubscribeBridge (r : Room) : Room :=
  match r.bridgeSubscription with
  | some id =>
    { r with feed := (r.feed.unsubscribe? id).getD r.feed, bridgeSubscription := none }
  | none => r

/-- Starts serving. -/
def start (s : Server) : Except ServerError Server :=
  if s.running then .error .alreadyRunning
  else if !s.bound then .error .shutDown
  else .ok { s.subscribeBridge with running := true, bound := false }

/-- Drops a connection without waiting for its worker, and counts its end. -/
def drop (r : Room) (conn : ConnId) : Room :=
  let r := r.close conn
  { r with tally := r.tally.connectionClosed ⟨0⟩ }

/-- Stops serving. -/
def shutdown (s : Server) : Except ServerError Server :=
  if !s.running then .error .notRunning
  else
    let r := { s.room with feed := s.room.feed.stop }
    let r := unsubscribeBridge r
    let r := (r.bridge.guests.map (·.id)).foldl Room.detach r
    let r := s.manager.entries.foldl drop r
    .ok { s with
      room := { r with roster := r.roster.clear.2 }
      manager := { s.manager with entries := [], tasks := [] }
      workers := []
      running := false }

/-! ## Connections -/

/-- How the other end of a connection reacts: it takes every frame that can be encoded. -/
def react (maxFrameLength : Nat) (_ : Nat) (frame : Text) : Outcome :=
  match Wire.encode maxFrameLength frame with
  | .ok _ => .accepted
  | .error e => .refused (.protocol e)

/-- Takes in a connection, unless there are as many as there may be; its worker starts. -/
def accept (s : Server) : Option (ConnId × List Worker.Notice) × Server :=
  if s.manager.entries.length ≥ s.config.maxConnections then
    (none, { s with room := { s.room with tally := s.room.tally.connectionError } })
  else
    let (conn, manager) := s.manager.add
    let (worker, notices) := Worker.start { conn }
    let link : Link := { react := react s.config.maxFrameLength }
    let room := { s.room with
      links := s.room.links.set conn link
      tally := s.room.tally.connectionOpened }
    (some (conn, notices), { s with manager, room, workers := s.workers ++ [worker] })

/-- The worker of a connection. -/
def worker? (s : Server) (conn : ConnId) : Option Worker := s.workers.find? (·.conn = conn)

/-- The task of a connection comes to its end, which counts the end of the connection. -/
def endTask (s : Server) (conn : ConnId) : Server :=
  let (manager, counts) := (s.manager.run? (Manager.endOfTask conn ⟨0⟩)).getD (s.manager, [])
  { s with
    manager
    workers := s.workers.filter (·.conn ≠ conn)
    room := { s.room with tally := counts.foldl Tally.count s.room.tally } }

/-- Something comes to the worker of a connection. -/
def receive (s : Server) (conn : ConnId) (input : Worker.Input) (now : Nat) :
    List Worker.Notice × Server :=
  match s.worker? conn with
  | none => ([], s)
  | some worker =>
    let (room, worker, notices) := worker.receive s.room input now
    let s := { s with
      room
      workers := s.workers.map fun w => if w.conn = conn then worker else w }
    (notices, if worker.ended then s.endTask conn else s)

/-- Orders the worker of a connection that is in the table to do something. -/
def order (s : Server) (conn : ConnId) (order : Control) (now : Nat) :
    Except ServerError (List Worker.Notice × Server) :=
  if s.manager.entries.contains conn then .ok (s.receive conn (.control order) now)
  else .error (.connectionNotFound conn)

/-- Takes a connection out of the table and has its worker end. -/
def remove (s : Server) (conn : ConnId) (now : Nat) :
    Except ServerError (List Worker.Notice × Server) :=
  match s.manager.remove? conn with
  | some manager => .ok ({ s with manager }.receive conn (.control .close) now)
  | none => .error (.connectionNotFound conn)

/-! ## Questions -/

/-- A datagram comes to a server, which reads so many bytes of it. As long as it serves it answers a
question, and counts that it has. -/
def query (s : Server) (datagram : List UInt8) : Option Text × Server :=
  let request := Text.fromUtf8 (datagram.take 1024)
  if !s.running then (none, s)
  else
    match s.room.roster.answer? request with
    | some reply =>
      (some reply, { s with room := { s.room with tally := s.room.tally.queryAnswered } })
    | none => (none, s)

/-! ## At a glance -/

/-- The connections whose link has been closed by others than their worker. -/
def abandoned (s : Server) : List ConnId :=
  (s.workers.map (·.conn)).filter fun conn => (s.room.links conn).isClosed

/-- A snapshot of the server. -/
def snapshot (s : Server) (uptime : Duration) : Report.Snapshot :=
  { openConnections := s.manager.entries.length
    sessions := s.room.roster.size
    totalConnections := s.room.tally.connectionsOpened.toNat
    relayAddress := s.config.relayAddress
    queryAddress := s.config.queryAddress
    uptime }

end Server
end Parley
