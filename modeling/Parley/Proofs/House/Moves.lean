/-
A house: a room with the workers of its connections, and the moves that change both. Connections
come and their frames are handled each at the stage that its worker shows; sweeps are made and
sessions ended from outside; and workers write what they are ordered to, and end. Whatever comes to
a worker, what it does is a run of such moves (`receive_run`).
-/
import Parley.Room.Sweep
import Parley.Worker

namespace Parley

/-- A room and the workers of the connections that have come to it. -/
structure House where
  room : Room
  workers : ConnId → Option Worker := fun _ => none

namespace House

/-- Something that happens in a house. -/
inductive Move where
  | connect (conn : ConnId) (react : Nat → Text → Outcome)
  | frame (conn : ConnId) (raw : Text) (now : Nat)
  | reap (now threshold : Nat)
  | disconnect (id : SessionId)
  | disconnectAll
  | order (conn : ConnId) (frame : Text)
  | finish (conn : ConnId)

/-- The stage that the worker of a connection shows, if the connection has come. -/
def stage? (h : House) (conn : ConnId) : Option Stage := (h.workers conn).map (·.stage)

/-- Whether the worker of a connection has ended. -/
def HasEnded (h : House) (conn : ConnId) : Prop :=
  ∃ w, h.workers conn = some w ∧ w.ended = true

/-- The sessions that are bound to a connection. -/
def sessionsOn (h : House) (conn : ConnId) : List Session :=
  h.room.roster.sessions.filter (·.link = conn)

/-- The house after one worker and the room have changed. -/
def put (h : House) (room : Room) (w : Worker) : House :=
  { room, workers := fun c => if c = w.conn then some w else h.workers c }

/-- The room after a worker has written what it was ordered to. -/
def ordered (r : Room) (conn : ConnId) (frame : Text) : Room :=
  { r with links := r.links.set conn ((r.links conn).write frame).2 }.record
    (.wrote conn frame ((r.links conn).write frame).1)

/-- One move. A connection that has come before does not come again, and nothing is heard of one
that has not come; a worker that has ended does not end again. -/
def step (h : House) : Move → House
  | .connect conn react =>
    match h.workers conn with
    | some _ => h
    | none =>
      h.put { h.room with links := h.room.links.set conn { react } } (Worker.start { conn }).1
  | .frame conn raw now =>
    match h.workers conn with
    | some w =>
      let (stage, room) := h.room.dispatch conn w.stage raw now
      h.put room { w with stage, received := w.received + 1 }
    | none => h
  | .reap now threshold => { h with room := (h.room.reap now threshold).2 }
  | .disconnect id =>
    match h.room.disconnect? id with
    | some (_, room) => { h with room }
    | none => h
  | .disconnectAll => { h with room := h.room.disconnectAll.2 }
  | .order conn frame => { h with room := ordered h.room conn frame }
  | .finish conn =>
    match h.workers conn with
    | some w =>
      if w.ended then h
      else
        let (room, w, _) := w.finish h.room
        h.put room w
    | none => h

/-- Several moves, one after the other. -/
def run (h : House) : List Move → House
  | [] => h
  | m :: rest => (h.step m).run rest

/-- A house whose room has no sessions and to which no connection has come. -/
def opened (room : Room) : House := { room := { room with roster := {} } }

@[simp] theorem room_put (h : House) (room : Room) (w : Worker) : (h.put room w).room = room := rfl

theorem workers_put (h : House) (room : Room) (w : Worker) (c : ConnId) :
    (h.put room w).workers c = if c = w.conn then some w else h.workers c := rfl

@[simp] theorem workers_put_self (h : House) (room : Room) (w : Worker) :
    (h.put room w).workers w.conn = some w := if_pos rfl

theorem stage?_put (h : House) (room : Room) (w : Worker) (c : ConnId) :
    (h.put room w).stage? c = if c = w.conn then some w.stage else h.stage? c := by
  unfold stage?
  rw [workers_put]
  split <;> rfl

theorem stage?_of_workers {h : House} {conn : ConnId} {w : Worker}
    (hw : h.workers conn = some w) : h.stage? conn = some w.stage := by
  rw [stage?, hw]; rfl

/-! ## What a worker does -/

theorem put_put (h : House) (r r' : Room) {w w' : Worker} (hc : w'.conn = w.conn) :
    (h.put r w).put r' w' = h.put r' w' := by
  unfold put
  congr 1
  funext c
  simp only [hc]
  split <;> rfl

theorem put_same {h : House} {w : Worker} (hw : h.workers w.conn = some w) (r : Room) :
    h.put r w = { h with room := r } := by
  unfold put
  congr 1
  funext c
  split
  · rename_i hc; rw [hc, hw]
  · rfl

theorem step_finish {h : House} {w : Worker} (hw : h.workers w.conn = some w)
    (hn : w.ended = false) :
    h.step (.finish w.conn) = h.put (w.finish h.room).1 (w.finish h.room).2.1 := by
  simp only [step, hw, hn, Bool.false_eq_true, if_false]

theorem step_frame {h : House} {w : Worker} (hw : h.workers w.conn = some w) (raw : Text)
    (now : Nat) :
    h.step (.frame w.conn raw now) = h.put (h.room.dispatch w.conn w.stage raw now).2
      { w with
        stage := (h.room.dispatch w.conn w.stage raw now).1
        received := w.received + 1 } := by
  simp only [step, hw]

theorem put_step_finish (h : House) (r : Room) {w : Worker} (hn : w.ended = false) :
    (h.put r w).step (.finish w.conn) = h.put (w.finish r).1 (w.finish r).2.1 := by
  rw [step_finish (workers_put_self h r w) hn]
  exact put_put h _ _ rfl

theorem handleFrame_run {h : House} {w : Worker} (hw : h.workers w.conn = some w)
    (hn : w.ended = false) (raw : Text) (now : Nat) :
    ∃ moves, h.put (w.handleFrame h.room raw now).1 (w.handleFrame h.room raw now).2.1 =
      h.run moves := by
  have hf := step_frame hw raw now
  unfold Worker.handleFrame
  simp only
  split
  · refine ⟨[.frame w.conn raw now, .finish w.conn], ?_⟩
    show _ = (h.step (.frame w.conn raw now)).step (.finish w.conn)
    rw [hf]
    exact (put_step_finish h _ (by exact hn)).symm
  · exact ⟨[.frame w.conn raw now], hf.symm⟩

theorem obey_run {h : House} {w : Worker} (hw : h.workers w.conn = some w)
    (hn : w.ended = false) (frame : Text) :
    ∃ moves, h.put (w.obey h.room frame).1 (w.obey h.room frame).2.1 = h.run moves := by
  unfold Worker.obey
  simp only
  split
  · exact ⟨[.order w.conn frame], put_same hw _⟩
  · refine ⟨[.order w.conn frame, .finish w.conn], ?_⟩
    exact (step_finish (h := h.step (.order w.conn frame)) hw hn).symm

/-- Whatever comes to a worker, what it does to the house is a run. -/
theorem receive_run {h : House} {w : Worker} (hw : h.workers w.conn = some w)
    (input : Worker.Input) (now : Nat) :
    ∃ moves, h.put (w.receive h.room input now).1 (w.receive h.room input now).2.1 =
      h.run moves := by
  unfold Worker.receive
  cases hn : w.ended with
  | true => exact ⟨[], put_same hw _⟩
  | false =>
    simp only [Bool.false_eq_true, if_false]
    have hfinish : ∃ moves, h.put (w.finish h.room).1 (w.finish h.room).2.1 = h.run moves :=
      ⟨[.finish w.conn], (step_finish hw hn).symm⟩
    cases input with
    | frame raw => exact handleFrame_run hw hn raw now
    | streamEnd => exact hfinish
    | readFailure e => exact hfinish
    | control order =>
      cases order with
      | send frame => exact obey_run hw hn frame
      | close => exact hfinish
    | closedLocally => exact hfinish

end House
end Parley
