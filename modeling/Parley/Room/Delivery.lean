/-
The work of the feed in a room: each move of its worker, with what the bridge does when it is
handed a line.
-/
import Parley.Room.Guests

namespace Parley.Room

/-- Takes the next line out of the queue. -/
def dequeue? (r : Room) : Option Room := r.feed.dequeue?.map fun feed => { r with feed }

/-- Hands the line that is being delivered to the next subscriber; the bridge forwards it to its
guests. -/
def hand? (r : Room) (reply : Feed.Reply) : Option (SubscriberId × Room) :=
  (r.feed.hand? reply).map fun (subscriber, line, feed) =>
    let r := { r with feed }.record (.handed subscriber line)
    (subscriber, if r.bridgeSubscription = some subscriber then (r.forward line).2 else r)

/-- Is done with a line. -/
def finish? (r : Room) : Option Room := r.feed.finish?.map fun feed => { r with feed }

/-- Ends the worker of a stopped feed. -/
def exit? (r : Room) : Option Room := r.feed.exit?.map fun feed => { r with feed }

/-- One move of the worker, if it can make one; every subscriber takes its line. -/
def serve? (r : Room) : Option Room :=
  ((((r.hand? .taken).map (·.2)).or r.finish?).or r.dequeue?).or r.exit?

/-- A number of moves of the worker, or as many as it can make. -/
def serve : Nat → Room → Room
  | 0, r => r
  | n + 1, r =>
    match r.serve? with
    | some r => serve n r
    | none => r

/-- Lets the worker go on until it has to wait for another line. -/
def deliverAll (r : Room) : Room := serve (r.feed.work + 1) r

end Parley.Room
