/-
A room: the sessions and guests that take part, the links to them, the feed of lines, and what is
counted. Everything that leaves the room is logged in order: each write and what became of it, each
closing of a link, each line and whom it was handed to, each frame for a guest.
-/
import Parley.Bridge
import Parley.Feed
import Parley.Link
import Parley.Roster
import Parley.Tally

namespace Parley

/-- Something that leaves a room. -/
inductive Event where
  | wrote (conn : ConnId) (frame : Text) (outcome : Outcome)
  | closed (conn : ConnId)
  | published (line : Text)
  | handed (subscriber : SubscriberId) (line : Text)
  | queued (guest : SessionId) (frame : Text)
  | ended (guest : SessionId)
  | told (name frame : Text)
  deriving DecidableEq, Repr

/-- Who is asked for the holder of a name that no session has: nobody, the guests of the bridge,
or a stand-in that knows some names; the first who is named stays, even one who has gone. -/
inductive Directory where
  | unset
  | guests
  | standIn (names : List Text)
  | gone
  deriving DecidableEq, Repr

/-- The state of a room. -/
structure Room where
  roster : Roster := {}
  tally : Tally := {}
  feed : Feed := {}
  links : Links := fun _ => {}
  bridge : Bridge := .new 1
  bridgeSubscription : Option SubscriberId := none
  directory : Directory := .unset
  log : List Event := []

/-- Counts what became of a write. -/
def Tally.writeEnded (t : Tally) (outcome : Outcome) : Tally :=
  match outcome.failure? with
  | none => t.frameSent
  | some _ => t.sendFailure

namespace Room

/-- Logs an event. -/
def record (r : Room) (e : Event) : Room := { r with log := r.log ++ [e] }

/-! ## The feed -/

/-- Publishes a line, unless the feed has stopped. -/
def publish? (r : Room) (line : Text) : Option Room :=
  (r.feed.publish? line).map fun feed => { r with feed }.record (.published line)

/-- Publishes a line; it is lost if the feed has stopped. -/
def publish (r : Room) (line : Text) : Room := (r.publish? line).getD r

/-! ## Links -/

/-- Writes a frame to a connection. -/
def write (r : Room) (conn : ConnId) (frame : Text) : Outcome × Room :=
  let (outcome, link) := (r.links conn).write frame
  (outcome, { r with
    links := r.links.set conn link
    tally := r.tally.writeEnded outcome }.record (.wrote conn frame outcome))

/-- Closes the link of a connection. -/
def close (r : Room) (conn : ConnId) : Room :=
  { r with links := r.links.set conn (r.links conn).close }.record (.closed conn)

/-! ## What writing and closing leave as it was -/

@[simp] theorem roster_record (r : Room) (e : Event) : (r.record e).roster = r.roster := rfl
@[simp] theorem feed_record (r : Room) (e : Event) : (r.record e).feed = r.feed := rfl
@[simp] theorem links_record (r : Room) (e : Event) : (r.record e).links = r.links := rfl
@[simp] theorem bridge_record (r : Room) (e : Event) : (r.record e).bridge = r.bridge := rfl
@[simp] theorem tally_record (r : Room) (e : Event) : (r.record e).tally = r.tally := rfl
@[simp] theorem log_record (r : Room) (e : Event) : (r.record e).log = r.log ++ [e] := rfl

@[simp] theorem roster_write (r : Room) (conn : ConnId) (frame : Text) :
    (r.write conn frame).2.roster = r.roster := rfl

@[simp] theorem feed_write (r : Room) (conn : ConnId) (frame : Text) :
    (r.write conn frame).2.feed = r.feed := rfl

@[simp] theorem bridge_write (r : Room) (conn : ConnId) (frame : Text) :
    (r.write conn frame).2.bridge = r.bridge := rfl

@[simp] theorem roster_close (r : Room) (conn : ConnId) : (r.close conn).roster = r.roster := rfl
@[simp] theorem feed_close (r : Room) (conn : ConnId) : (r.close conn).feed = r.feed := rfl
@[simp] theorem bridge_close (r : Room) (conn : ConnId) : (r.close conn).bridge = r.bridge := rfl

/-- A connection that has been closed stays closed, whatever is written to whom. -/
theorem isClosed_write (r : Room) (conn other : ConnId) (frame : Text) :
    ((r.write conn frame).2.links other).isClosed = (r.links other).isClosed := by
  by_cases h : other = conn
  · subst h
    simp [write, record]
  · simp [write, record, Links.set_of_ne _ _ h]

/-- Closing a connection closes it, and leaves every other as it is. -/
theorem isClosed_close (r : Room) (conn other : ConnId) :
    ((r.close conn).links other).isClosed =
      (decide (other = conn) || (r.links other).isClosed) := by
  by_cases h : other = conn
  · subst h
    simp [close, record]
  · simp [close, record, Links.set_of_ne _ _ h, h]

theorem roster_publish (r : Room) (line : Text) : (r.publish line).roster = r.roster := by
  unfold publish publish?
  cases r.feed.publish? line <;> rfl

end Room
end Parley
