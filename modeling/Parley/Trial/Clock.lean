/-
A room on trial, in time that moves only when everything is idle: links that react in set ways,
observers of the feed that may hold its worker up, and sweeps at fixed intervals. While one
activity waits for a stalled write, the others go on.
-/
import Parley.Room.Delivery
import Parley.Room.GuestFrames
import Parley.Room.Sweep

namespace Parley.Trial

/-! ## What is set up -/

/-- The ways in which a link reacts to writes. -/
inductive Mode where
  | accepting
  | shut
  | broken
  | narrow
  | stalling
  deriving DecidableEq, Repr

/-- What becomes of a frame on a link in a mode. -/
def Mode.react : Mode → Nat → Text → Outcome
  | .accepting, _, _ => .accepted
  | .shut, _, _ => .refused .connectionClosed
  | .broken, _, _ => .refused (.io (.plain .brokenPipe))
  | .narrow, _, _ => .refused (.protocol .embeddedNewline)
  | .stalling, _, _ => .stalled

/-- The ways in which an observer takes lines; one with a gate takes a line and waits for a
permit. -/
inductive Manner where
  | taking
  | refusing
  | breaking
  | gated
  deriving DecidableEq, Repr

/-- What an observer replies to a line. -/
def Manner.reply : Manner → Feed.Reply
  | .taking | .gated => .taken
  | .refusing => .refused
  | .breaking => .broken

/-- An observer of the feed: its number among the observers, its number as a subscriber, its
manner, and the permits of its gate. -/
structure Observer where
  number : Nat
  id : SubscriberId
  manner : Manner := .taking
  permits : Nat := 0

/-- What a patrol waits for: its turn to begin, the end of the pause before a sweep, or the end of
the time for the writes of its sweep that have stalled. -/
inductive Patrol.Wait where
  | turn
  | pause
  | writes (sweep : Sweep) (stalled : Nat)

/-- Sweeps at an interval: what is waited for, and until when; whether this is the patrol that is
ended when one is to end, and whether it has been ended, so that its sweep is the last one. -/
structure Patrol where
  interval : Nat
  due : Nat
  wait : Patrol.Wait := .turn
  latest : Bool := true
  stopped : Bool := false

end Trial

/-- A room on trial. Times are in milliseconds: the time since the trial began, how long a write
may stall, the silence after which a session is lost, and what the clock on the wall shows. The
patrols are in the order in which they began to wait. -/
structure Trial where
  room : Room := {}
  clock : Nat := 0
  writeTimeout : Nat := 1000
  threshold : Nat := 30000
  wallClock : Nat
  stages : List (ConnId × Stage) := []
  observers : List Trial.Observer := []
  heldBy : Option SubscriberId := none
  patrols : List Trial.Patrol := []

namespace Trial

/-! ## The worker of the feed -/

/-- The observer that is a subscriber. -/
def observer? (t : Trial) (id : SubscriberId) : Option Observer :=
  t.observers.find? (·.id = id)

/-- The observer with a number. -/
def numbered? (t : Trial) (number : Nat) : Option Observer :=
  t.observers.find? (·.number = number)

/-- Changes the observer with a number. -/
def updateObserver (t : Trial) (number : Nat) (change : Observer → Observer) : Trial :=
  { t with observers := t.observers.map fun o => if o.number = number then change o else o }

/-- What the next subscriber replies to the line that is being delivered. -/
def nextReply (t : Trial) : Feed.Reply :=
  match t.room.feed.delivery with
  | some ⟨_, next :: _⟩ => (t.observer? next).elim .taken (·.manner.reply)
  | _ => .taken

/-- One move of the worker, if it can make one. -/
def serve? (t : Trial) : Option Trial :=
  match t.heldBy with
  | some id =>
    (t.observer? id).bind fun o =>
      if o.permits = 0 then none
      else some { t.updateObserver o.number (fun o => { o with permits := o.permits - 1 }) with
        heldBy := none }
  | none =>
    match t.room.hand? t.nextReply with
    | some (id, room) =>
      some { t with
        room
        heldBy := if (t.observer? id).any (·.manner = .gated) then some id else none }
    | none =>
      ((t.room.finish?.or t.room.dequeue?).or t.room.exit?).map fun room => { t with room }

/-- A number of moves of the worker, or as many as it can make. -/
def serve : Nat → Trial → Trial
  | 0, t => t
  | n + 1, t =>
    match t.serve? with
    | some t => serve n t
    | none => t

/-- Lets the worker go on until it has to wait. -/
def pump (t : Trial) : Trial := t.serve (2 * t.room.feed.work + 2)

/-! ## Sweeps at intervals -/

/-- How many writes have stalled since the log had some length. -/
def stallsSince (r : Room) (length : Nat) : Nat :=
  (r.log.drop length).countP fun
    | .wrote _ _ outcome => outcome.isStalled
    | _ => false

/-- Goes on with a sweep until it has to wait for stalled writes, or is over; says for how many
writes it waits. A write that has no time to stall in is not waited for. -/
def sweepOn (writeTimeout : Nat) : Nat → Room → Sweep → Room × Sweep × Nat
  | 0, r, w => (r, w, 0)
  | n + 1, r, w =>
    if w.isOver then (r, w, 0)
    else
      let (r', w') := w.step r
      let stalls := stallsSince r' r.log.length
      if writeTimeout ≠ 0 && stalls ≠ 0 then (r', w', stalls)
      else sweepOn writeTimeout n r' w'

/-- A patrol that begins to pause. -/
def Patrol.rest (p : Patrol) : Patrol :=
  { p with wait := .pause, due := p.due + max 1 p.interval }

/-- What a patrol does when its time has come. -/
def patrol (t : Trial) (p : Patrol) : Room × Option Patrol :=
  let go (w : Sweep) : Room × Option Patrol :=
    let (room, w, stalled) := sweepOn t.writeTimeout (w.steps + 1) t.room w
    if w.isOver then (room, if p.stopped then none else some p.rest)
    else (room, some { p with wait := .writes w stalled, due := p.due + t.writeTimeout })
  match p.wait with
  | .turn => (t.room, some p.rest)
  | .pause => go (.start t.room t.wallClock t.threshold)
  | .writes w _ => go w

/-- The place of the patrol whose time comes first, if it comes before some time; of several with
the same time, the one that has waited longest. -/
def nextPatrol (t : Trial) (before : Nat) : Option (Nat × Patrol) :=
  (t.patrols.zipIdx.filter (·.1.due < before)).foldl (fun first (p, i) =>
    match first with
    | some (_, q) => if p.due < q.due then some (i, p) else first
    | none => some (i, p)) none

/-- Lets time pass up to some time, with all that happens before it. -/
def passTo : Nat → Nat → Trial → Trial
  | 0, time, t => { t with clock := time }
  | n + 1, time, t =>
    let t := t.pump
    match t.nextPatrol time with
    | none => { t with clock := time }
    | some (i, p) =>
      let t := { t with clock := max t.clock p.due }
      let (room, again) := t.patrol p
      passTo n time { t with room, patrols := t.patrols.eraseIdx i ++ again.toList }

/-- Lets some time pass. A patrol begins once, and then waits a millisecond or more each time. -/
def pass (t : Trial) (millis : Nat) : Trial :=
  passTo (t.patrols.length * (millis + 2) + 1) (t.clock + millis) t

/-- Waits for the writes that have stalled since the log had some length. -/
def settle (t : Trial) (length : Nat) : Trial :=
  if stallsSince t.room length = 0 then t else t.pass t.writeTimeout

/-- What is counted so far: a write that is still stalled has not failed yet. -/
def tally (t : Trial) : Tally :=
  let pending := t.patrols.foldl (fun n p =>
    match p.wait with
    | .writes _ stalled => n + stalled
    | _ => n) 0
  { t.room.tally with sendFailures := t.room.tally.sendFailures - UInt64.ofNat pending }

end Parley.Trial
