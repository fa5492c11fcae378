/-
Reports on the parts of a server and of a client, as people read them who look into a running one.
-/
import Parley.Feed
import Parley.Net.Address
import Parley.Roster
import Parley.Tally
import Parley.Text.Quoted
import Parley.Text.Record

namespace Parley

open Text (record wrapped brackets flag quoted)

/-- A session, with all that is known of it. -/
def Session.report (s : Session) : Text :=
  record "Session"
    [("id", wrapped "SessionId" (quoted s.id)), ("name", quoted s.name),
      ("connection", wrapped "ConnectionId" (Text.decimal s.link.number)),
      ("sequence", Text.decimal s.sequence), ("last_liveness", Text.decimal s.mark)]

/-- How many sessions there are, and which names are active. -/
def Roster.report (r : Roster) : Text :=
  record "SessionRegistry"
    [("sessions", Text.decimal r.size), ("names", brackets (r.activeNames.map quoted))]

/-- How many listen to the feed, and whether it still delivers. -/
def Feed.report (f : Feed) : Text :=
  record "MessageDistributor"
    [("subscribers", Text.decimal f.subscribers.length), ("running", flag f.isRunning)]

namespace Report

/-- The routing between sessions: how many there are, and how long a write may take. -/
def routing (sessions : Nat) (writeTimeout : Duration) : Text :=
  record "Relay" [("sessions", Text.decimal sessions), ("write_timeout", writeTimeout.text)]

/-- The bridge: how many guests it has, and how many frames may wait for each. -/
def bridge (guests capacity : Nat) : Text :=
  record "BridgeHub" [("peers", Text.decimal guests), ("queue_capacity", Text.decimal capacity)]

/-- The search for silent sessions: its interval and its threshold. -/
def reaping (interval threshold : Duration) : Text :=
  record "HeartbeatReaper" [("interval", interval.text), ("threshold", threshold.text)]

/-- The open connections, and the number that the next one gets. -/
def connections (count next : Nat) : Text :=
  record "ConnectionManager"
    [("connection_count", Text.decimal count), ("next_id", Text.decimal next)]

/-- A whole server at a moment. -/
structure Snapshot where
  openConnections : Nat
  sessions : Nat
  totalConnections : Nat
  relayAddress : Net.Address
  queryAddress : Net.Address
  uptime : Duration

/-- A server's connections and sessions, where it listens, and how long it has been up. -/
def Snapshot.text (s : Snapshot) : Text :=
  record "RelayServer"
    [("open", Text.decimal s.openConnections), ("sessions", Text.decimal s.sessions),
      ("total", Text.decimal s.totalConnections), ("relay", s.relayAddress.text),
      ("uptime", s.uptime.text)]

end Report
end Parley
