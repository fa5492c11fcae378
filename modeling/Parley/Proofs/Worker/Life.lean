/-
The life of one worker in single steps, between any two of which anything may happen elsewhere.
What comes in on its stream waits to be read, and orders wait to be obeyed; the worker waits for
one of these or for its link to be closed, and takes whichever it likes first. With what it has
begun it then goes on step by step: it handles a frame, looks whether a session has begun and then
for its name, and in the end looks for the session of its connection, ends it, closes the link and
says so. Where it closes a link that was open it waits until that has come to an end, which is up to
the other end and may never be. Where nothing else comes between, the steps do what `receive` does
at once (`take_receive`).
-/
import Parley.Proofs.House.Moves
import Parley.Proofs.Room.Elsewhere

namespace Parley

open Wire (Message)

/-- What a frame begins that ends a session whose link is open: the session is taken out, and the
closing of its link is on its way. -/
def Room.beginsLogoff? (r : Room) (stage : Stage) (raw : Text) : Option (Session × Room) :=
  match stage, Message.parse raw with
  | .active, .ok (.logoff id) =>
    ({ r with tally := r.tally.frameReceived }.unseat? id).filter
      fun p => !(r.links p.1.link).isClosed
  | _, _ => none

/-- What a frame begins that ends a session whose link is open. -/
theorem Room.beginsLogoff?_some {r room : Room} {stage : Stage} {raw : Text} {s : Session}
    (h : r.beginsLogoff? stage raw = some (s, room)) :
    ∃ roster, stage = .active ∧ Message.parse raw = .ok (.logoff s.id) ∧
      r.roster.remove? s.id = some (s, roster) ∧ (r.links s.link).isClosed = false ∧
      room = { r with roster, tally := r.tally.frameReceived }.close s.link := by
  unfold beginsLogoff? at h
  split at h
  · rename_i id hraw
    obtain ⟨hout, hopen⟩ := Option.filter_eq_some_iff.1 h
    obtain ⟨⟨s', roster⟩, hr, hq⟩ := Option.map_eq_some_iff.1 hout
    cases hq
    obtain ⟨-, rfl⟩ := Roster.lookup?_some (Roster.remove?_sessions hr).1
    exact ⟨roster, rfl, hraw, hr, by simpa using hopen, rfl⟩
  · cases h

namespace Worker

/-- What comes in on the stream of a connection. -/
inductive Arrival where
  | frame (raw : Text)
  | streamEnd
  | failure (error : ServerError)
  deriving DecidableEq, Repr

/-- What an arrival is to the worker. -/
def Arrival.input : Arrival → Input
  | .frame raw => .frame raw
  | .streamEnd => .streamEnd
  | .failure e => .readFailure e

/-- The frame that arrives. -/
def Arrival.frame? : Arrival → Option Text
  | .frame raw => some raw
  | .streamEnd | .failure _ => none

/-- What a worker is about: it has yet to begin, waits for something to come, for the closing of the
link of a session that it ends, has handled a frame that came at a stage, has found a session that
has begun, has a failure to tell of, has to look for the session of its connection, has found it,
has to close the link, waits for that closing, and has to tell that it is over; and it is over. -/
inductive Phase where
  | new
  | waiting
  | loggingOff (session : Session)
  | handled (before : Stage)
  | introducing (id : SessionId)
  | failing (error : ServerError)
  | losing
  | striking (id : SessionId)
  | closing
  | shutting
  | parting
  | finished
  deriving DecidableEq, Repr

/-- Whether a worker waits for a closing to come to an end. -/
def Phase.AwaitsClosing : Phase → Prop
  | .loggingOff _ | .shutting => True
  | _ => False

/-- A worker in its room: what waits for it, the frames that it has read, and what has been told of
it. -/
structure Life where
  room : Room
  worker : Worker
  phase : Phase := .new
  stream : List Arrival := []
  orders : List Control := []
  frames : List Text := []
  told : List Notice := []

namespace Life

/-- Something that happens: something comes for the worker, something happens elsewhere, the worker
makes a step, or a closing that it waits for comes to an end. -/
inductive Move where
  | arrives (a : Arrival)
  | order (c : Control)
  | elsewhere (a : Room.Act)
  | begins
  | reads (now : Nat)
  | obeys
  | notes
  | goesOn
  | shuts
  deriving DecidableEq, Repr

/-- The frame that a move brings. -/
def Move.frame? : Move → Option Text
  | .arrives a => a.frame?
  | _ => none

/-- The worker begins. -/
def begin (l : Life) : Life :=
  { l with worker := l.worker.start.1, told := l.told ++ l.worker.start.2, phase := .waiting }

/-- The worker takes what is next on its stream. -/
def read (l : Life) (now : Nat) : Life :=
  match l.stream with
  | [] => l
  | .frame raw :: rest =>
    let l := { l with stream := rest, frames := l.frames ++ [raw] }
    match l.room.beginsLogoff? l.worker.stage raw with
    | some (session, room) =>
      { l with
        room
        worker := { l.worker with received := l.worker.received + 1 }
        phase := .loggingOff session }
    | none =>
      let (stage, room) := l.room.dispatch l.worker.conn l.worker.stage raw now
      { l with
        room
        worker := { l.worker with stage, received := l.worker.received + 1 }
        phase := .handled l.worker.stage }
  | .streamEnd :: rest => { l with phase := .losing, stream := rest }
  | .failure e :: rest => { l with phase := .failing e, stream := rest }

/-- The worker obeys the next order. -/
def heed (l : Life) : Life :=
  match l.orders with
  | [] => l
  | .send frame :: rest =>
    { l with
      room := House.ordered l.room l.worker.conn frame
      phase := match ((l.room.links l.worker.conn).outcome frame).failure? with
        | none => .waiting
        | some e => .failing e
      orders := rest }
  | .close :: rest => { l with phase := .losing, orders := rest }

/-- The worker goes on with what it has begun. -/
def goOn (l : Life) : Life :=
  match l.phase with
  | .handled before =>
    { l with
      phase := match newcomer? l.room l.worker.conn before l.worker.stage with
        | some id => .introducing id
        | none => if l.worker.stage = .closed then .losing else .waiting }
  | .introducing id => { l with told := l.told ++ [introduction l.room id], phase := .waiting }
  | .failing e => { l with told := l.told ++ [.failed e], phase := .losing }
  | .losing =>
    { l with
      phase := match l.room.roster.bound? l.worker.conn with
        | some s => .striking s.id
        | none => .closing }
  | .striking id =>
    { l with room := ((l.room.strike? id).map (·.2)).getD l.room, phase := .closing }
  | .closing =>
    { l with
      room := l.room.close l.worker.conn
      phase := if (l.room.links l.worker.conn).isClosed then .parting else .shutting }
  | .parting =>
    { l with
      worker := { l.worker with stage := .closed, ended := true }
      told := l.told ++ [.disconnected (l.room.links l.worker.conn).isClosed]
      phase := .finished }
  | .new | .waiting | .loggingOff _ | .shutting | .finished => l

/-- The closing that the worker waits for comes to an end. -/
def shut (l : Life) : Life :=
  match l.phase with
  | .loggingOff s =>
    { l with
      room := l.room.seeOff s.id
      worker := { l.worker with stage := if s.link = l.worker.conn then .closed else .active }
      phase := .handled .active }
  | .shutting => { l with phase := .parting }
  | _ => l

/-- One move. What cannot be done changes nothing; nobody else speaks for the connection. -/
def step (l : Life) : Move → Life
  | .arrives a => { l with stream := l.stream ++ [a] }
  | .order c => { l with orders := l.orders ++ [c] }
  | .elsewhere a => if a.isOf l.worker.conn then l else { l with room := l.room.act a }
  | .begins => if l.phase = .new then l.begin else l
  | .reads now => if l.phase = .waiting then l.read now else l
  | .obeys => if l.phase = .waiting then l.heed else l
  | .notes =>
    if l.phase = .waiting ∧ (l.room.links l.worker.conn).isClosed then { l with phase := .losing }
    else l
  | .goesOn => l.goOn
  | .shuts => l.shut

/-- Several moves, one after the other. -/
def run (l : Life) (moves : List Move) : Life := moves.foldl step l

/-- A worker that has come to a room without sessions and guests. -/
def start (room : Room) (conn : ConnId) : Life := { room := room.emptied, worker := { conn } }

/-! ## The steps of a worker -/

/-- A number of steps that nothing comes between, and before each of which the closing that the
worker may wait for comes to an end. -/
def goOnFor (l : Life) : Nat → Life
  | 0 => l
  | n + 1 => l.shut.goOn.goOnFor n

/-- Whether a worker has nothing to go on with. -/
def IsAtRest (l : Life) : Prop := l.phase = .waiting ∨ l.phase = .finished

/-- Some steps take a worker to rest, with a room, a worker and some more notices to show for it. -/
def ComesTo (l : Life) (n : Nat) (p : Room × Worker × List Notice) : Prop :=
  (l.goOnFor n).IsAtRest ∧ (l.goOnFor n).room = p.1 ∧ (l.goOnFor n).worker = p.2.1 ∧
    (l.goOnFor n).told = l.told ++ p.2.2

theorem ComesTo.stays {l : Life} (h : l.IsAtRest) : l.ComesTo 0 (l.room, l.worker, []) :=
  ⟨h, rfl, rfl, (List.append_nil _).symm⟩

theorem ComesTo.after {l l' : Life} {n : Nat} {room : Room} {worker : Worker}
    {first more : List Notice} (hstep : l.shut.goOn = l') (htold : l'.told = l.told ++ first)
    (h : l'.ComesTo n (room, worker, more)) :
    l.ComesTo (n + 1) (room, worker, first ++ more) := by
  subst hstep
  obtain ⟨hrest, hroom, hworker, hmore⟩ := h
  refine ⟨hrest, hroom, hworker, ?_⟩
  rw [← List.append_assoc, ← htold]
  exact hmore

/-- What an input is taken by. -/
inductive Takes (l : Life) (now : Nat) : Input → Move → Prop where
  | reads {a : Arrival} {rest : List Arrival} (next : l.stream = a :: rest) :
      Takes l now a.input (.reads now)
  | obeys {c : Control} {rest : List Control} (next : l.orders = c :: rest) :
      Takes l now (.control c) .obeys
  | notes (closed : (l.room.links l.worker.conn).isClosed = true) :
      Takes l now .closedLocally .notes

end Life
end Worker
end Parley
