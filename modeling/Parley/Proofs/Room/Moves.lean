/-
What can happen in a room: each thing that comes from a connection, from a guest, from the feed or
from the server itself, as one move; and runs of such moves. Frames may come from any connection at
any stage, and from any guest, whether it is attached or not.
-/
import Parley.Proofs.Bridge.Seats
import Parley.Room.Delivery
import Parley.Room.GuestFrames
import Parley.Room.Sweep

namespace Parley.Room

/-- Something that happens in a room. -/
inductive Move where
  | register (id : SessionId) (name : Text) (conn : ConnId) (mark : Nat)
  | frame (conn : ConnId) (stage : Stage) (raw : Text) (now : Nat)
  | announce (text : Text)
  | tell (id : SessionId) (text : Text)
  | disconnect (id : SessionId)
  | connectionLost (conn : ConnId)
  | reap (now threshold : Nat)
  | disconnectAll
  | attach (id : SessionId)
  | guestFrame (id : SessionId) (raw : Text)
  | detach (id : SessionId)
  | deliver (name frame : Text)
  | forward (line : Text)
  | readNext (id : SessionId)
  | read (id : SessionId)
  | stopReading (id : SessionId)
  | publish (line : Text)
  | serve
  deriving DecidableEq, Repr

/-- One move. A guest comes only under an id that no attached guest has; what is refused changes
nothing. -/
def step (r : Room) : Move → Room
  | .register id name conn mark => (r.register? id name conn mark).getD r
  | .frame conn stage raw now => (r.dispatch conn stage raw now).2
  | .announce text => (r.announce text).2
  | .tell id text => (r.tell id text).2
  | .disconnect id => ((r.disconnect? id).map (·.2)).getD r
  | .connectionLost conn => ((r.connectionLost? conn).map (·.2)).getD r
  | .reap now threshold => (r.reap now threshold).2
  | .disconnectAll => r.disconnectAll.2
  | .attach id => if (r.bridge.guest? id).isSome then r else r.attach id
  | .guestFrame id raw => (r.guestFrame id raw).2
  | .detach id => r.detach id
  | .deliver name frame => (r.deliver name frame).2
  | .forward line => (r.forward line).2
  | .readNext id => { r with bridge := r.bridge.readNext id }
  | .read id => { r with bridge := ((r.bridge.read? id).map (·.2.2)).getD r.bridge }
  | .stopReading id => { r with bridge := (r.bridge.stopReading? id).getD r.bridge }
  | .publish line => r.publish line
  | .serve => r.serve?.getD r

/-- Several moves, one after the other. -/
def run (r : Room) : List Move → Room
  | [] => r
  | m :: rest => (r.step m).run rest

/-- A room without sessions, reservations and guests. -/
def emptied (r : Room) : Room :=
  { r with roster := {}, bridge := { r.bridge with guests := [] } }

end Parley.Room
