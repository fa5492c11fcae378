/-
How sessions begin and end. A session ends once: by being disconnected, with its connection, or
with all others at once; only the session that is found is taken out.
-/
import Parley.Room.Messages

namespace Parley.Room

/-- Begins a session on a connection, unless its name or its id is taken. -/
def register? (r : Room) (id : SessionId) (name : Text) (conn : ConnId) (mark : Nat) :
    Option Room :=
  (r.roster.register? id name conn mark).map fun roster => { r with roster }

/-- Advances the last sign of life of a session, if there is one with that id. -/
def touch (r : Room) (id : SessionId) (mark : Nat) : Room :=
  { r with roster := (r.roster.touch? id mark).getD r.roster }

/-- Counts the end of a session that has been taken out, and tells observers. -/
def seeOff (r : Room) (id : SessionId) : Room :=
  { r with tally := r.tally.sessionClosed }.publish (disconnectedLine id)

/-- Ends a session without a word: takes it out and closes its link. -/
def expel? (r : Room) (id : SessionId) : Option (Session × Room) :=
  (r.roster.remove? id).map fun (session, roster) =>
    (session, { r with roster, tally := r.tally.sessionClosed }.close session.link)

/-- Takes a session out and closes its link; its end has yet to be counted. -/
def unseat? (r : Room) (id : SessionId) : Option (Session × Room) :=
  (r.roster.remove? id).map fun (session, roster) =>
    (session, { r with roster }.close session.link)

/-- Ends a session: takes it out, closes its link and tells observers. -/
def disconnect? (r : Room) (id : SessionId) : Option (Session × Room) :=
  (r.expel? id).map fun (session, r) => (session, r.publish (disconnectedLine id))

/-- Ends a session whose connection was lost, and tells observers; its link is not looked at. -/
def strike? (r : Room) (id : SessionId) : Option (Session × Room) :=
  (r.roster.remove? id).map fun (session, roster) => (session, { r with roster }.seeOff id)

/-- Ends the session bound to a connection that was lost, if there is one. -/
def connectionLost? (r : Room) (conn : ConnId) : Option (Session × Room) :=
  (r.roster.bound? conn).bind fun bound => r.strike? bound.id

/-- The frame that takes leave of a session. -/
def farewell : Text := (Wire.Message.logoff Wire.Marker.server).wire

/-- Takes leave of each of some sessions and closes its link; where the farewell stalls, the link
is closed when its time is over, after the others. -/
def partFrom (r : Room) (sessions : List Session) : Room :=
  let (stalled, r) := sessions.foldl (fun (stalled, r) s =>
    let (outcome, r) := r.write s.link farewell
    if outcome.isStalled then (stalled ++ [s.link], r) else (stalled, r.close s.link)) ([], r)
  stalled.foldl close r

/-- Takes all sessions out, with every reservation, and takes leave of each; says how many there
were. -/
def disconnectAll (r : Room) : Nat × Room :=
  let (sessions, roster) := r.roster.clear
  (sessions.length, { r with roster }.partFrom sessions)

end Parley.Room
