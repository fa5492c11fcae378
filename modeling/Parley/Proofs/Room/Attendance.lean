/-
What the moves of a room do to its sessions. All that a room keeps of them and counts of them is its
attendance, and only a few deeds are done to that: a session begins, gives a sign of life, is closed
or reaped, or all of them go at once. Which deeds a move does is seen before it (`deeds`), and they
make of the attendance before the move the one after it (`attendance_step`).
-/
import Parley.Proofs.Room.Talks

namespace Parley

/-! ## Deeds -/

/-- The sessions of a room, the number of registrations so far, and what is counted of them: how
many have begun, been closed and been reaped. -/
structure Attendance where
  sessions : List Session
  registered : Nat
  begun : UInt64
  closed : UInt64
  reaped : UInt64
  deriving DecidableEq, Repr

/-- Something that is done to the sessions. Those that begin at the server's own wish are not
counted. -/
inductive Deed where
  | begins (id : SessionId) (name : Text) (link : ConnId) (mark : Nat) (counted : Bool)
  | marks (id : SessionId) (mark : Nat)
  | closes (id : SessionId)
  | reaps (id : SessionId)
  | clears
  deriving DecidableEq, Repr

namespace Attendance

/-- Whether there is a session with an id. -/
def has (a : Attendance) (id : SessionId) : Bool := a.sessions.any (·.id = id)

/-- What a deed makes of the attendance. Who is not there cannot be closed or reaped; nobody is
counted who goes with all others. -/
def after (a : Attendance) : Deed → Attendance
  | .begins id name link mark counted =>
    { a with
      sessions := a.sessions ++ [⟨id, name, link, a.registered + 1, mark⟩]
      registered := a.registered + 1
      begun := if counted then a.begun + 1 else a.begun }
  | .marks id mark =>
    { a with sessions := a.sessions.map fun s =>
        if s.id = id then { s with mark := max s.mark mark } else s }
  | .closes id =>
    if a.has id then
      { a with sessions := a.sessions.filter (·.id ≠ id), closed := a.closed + 1 }
    else a
  | .reaps id =>
    if a.has id then
      { a with sessions := a.sessions.filter (·.id ≠ id), reaped := a.reaped + 1 }
    else a
  | .clears => { a with sessions := [] }

theorem has_iff {a : Attendance} {id : SessionId} :
    a.has id = true ↔ ∃ s ∈ a.sessions, s.id = id := by
  simp [has]

/-- A sign of life of somebody who is not there changes nothing. -/
theorem after_marks_absent {a : Attendance} {id : SessionId} (h : a.has id = false) (mark : Nat) :
    a.after (.marks id mark) = a := by
  have habsent : ∀ s ∈ a.sessions, s.id ≠ id := by simpa [has] using h
  have hsame : (a.sessions.map fun s => if s.id = id then { s with mark := max s.mark mark } else s)
      = a.sessions := by
    rw [List.map_congr_left (g := fun s => s) fun s hs => if_neg (habsent s hs), List.map_id']
  rw [after, hsame]

/-- Endings leave some of those who were there. -/
theorem foldl_ends {deeds : List Deed} (hd : ∀ d ∈ deeds, ∃ id, d = .closes id ∨ d = .reaps id) :
    ∀ a : Attendance, (deeds.foldl after a).sessions.Sublist a.sessions ∧
      (deeds.foldl after a).registered = a.registered := by
  induction deeds with
  | nil => exact fun a => ⟨List.Sublist.refl _, rfl⟩
  | cons d rest ih =>
    intro a
    obtain ⟨hsub, hregistered⟩ := ih (fun d hd' => hd d (List.mem_cons_of_mem _ hd')) (a.after d)
    have hone : (a.after d).sessions.Sublist a.sessions ∧
        (a.after d).registered = a.registered := by
      obtain ⟨id, hdeed⟩ := hd d List.mem_cons_self
      by_cases hid : a.has id = true
      · rcases hdeed with rfl | rfl <;> rw [after, if_pos hid] <;>
          exact ⟨List.filter_sublist, rfl⟩
      · rcases hdeed with rfl | rfl <;> rw [after, if_neg hid] <;>
          exact ⟨List.Sublist.refl _, rfl⟩
    exact ⟨hsub.trans hone.1, hregistered.trans hone.2⟩

end Attendance

namespace Room

open Wire (Message Chat)

/-- The attendance of a room. -/
def attendance (r : Room) : Attendance :=
  ⟨r.roster.sessions, r.roster.registered, r.tally.sessionsRegistered, r.tally.sessionsClosed,
    r.tally.sessionsReaped⟩

/-- What is done by a message before registration. -/
def firstDeeds (r : Room) (conn : ConnId) (now : Nat) : Message → List Deed
  | .register id name =>
    if (r.roster.register? id name conn now).isSome then [.begins id name conn now true] else []
  | _ => []

/-- What is done by a message after registration. -/
def laterDeeds (now : Nat) : Message → List Deed
  | .logoff id => [.closes id]
  | .keepAlive id => [.marks id now]
  | _ => []

/-- What is done by a frame from a connection. -/
def frameDeeds (r : Room) (conn : ConnId) (stage : Stage) (raw : Text) (now : Nat) : List Deed :=
  match Message.parse raw with
  | .error _ => []
  | .ok message =>
    match stage with
    | .accepted | .awaitingRegister => r.firstDeeds conn now message
    | .active => laterDeeds now message
    | .closed => []

/-- What is done by a move. -/
def deeds (r : Room) : Move → List Deed
  | .register id name conn mark =>
    if (r.roster.register? id name conn mark).isSome then [.begins id name conn mark false] else []
  | .frame conn stage raw now => r.frameDeeds conn stage raw now
  | .disconnect id => [.closes id]
  | .connectionLost conn => (r.roster.bound? conn).toList.map (.closes ·.id)
  | .reap now threshold =>
    (r.roster.sessions.filter (Sweep.isSilent now threshold)).map (.reaps ·.id)
  | .disconnectAll => [.clears]
  | .announce _ | .tell .. | .attach _ | .guestFrame .. | .detach _ | .deliver .. | .forward _
  | .readNext _ | .read _ | .stopReading _ | .publish _ | .serve => []

/-! ## What does nothing to the sessions -/

variable (r : Room)

theorem has_attendance (id : SessionId) : r.attendance.has id = r.roster.contains id := by
  rw [Bool.eq_iff_iff, Attendance.has_iff, Roster.contains_iff]
  rfl

@[simp] theorem attendance_write (conn : ConnId) (frame : Text) :
    (r.write conn frame).2.attendance = r.attendance := by
  unfold attendance write Tally.writeEnded
  simp only
  cases ((r.links conn).write frame).1.failure? <;> rfl

/-- To talk is nothing to the sessions. -/
theorem Talks.attendance {r r' : Room} (h : Talks r r') : r'.attendance = r.attendance := by
  refine h.same (fun r r' hq => ?_) attendance_write
  rw [Room.attendance, Room.attendance, hq.sessions, hq.registered, hq.tally]

theorem attendance_partFrom (sessions : List Session) :
    (r.partFrom sessions).attendance = r.attendance :=
  partFrom_same attendance attendance_write (fun _ _ => rfl) r sessions

/-! ## What ends sessions -/

variable {r : Room}

theorem attendance_remove? {id : SessionId} {s : Session} {roster : Roster}
    (hr : r.roster.remove? id = some (s, roster)) :
    r.attendance.has id = true ∧ roster.sessions = r.roster.sessions.filter (·.id ≠ id) ∧
      roster.registered = r.roster.registered := by
  obtain ⟨hfound, hsessions, -, hregistered⟩ := Roster.remove?_sessions hr
  refine ⟨?_, hsessions, hregistered⟩
  rw [has_attendance, Roster.contains, hfound]
  rfl

theorem has_of_remove?_none {id : SessionId} (hr : r.roster.remove? id = none) :
    r.attendance.has id = false := by
  rw [has_attendance, Roster.remove?_eq_none.1 hr]

/-- Whoever is taken out and counted as closed. -/
theorem attendance_closed {id : SessionId} {s : Session} {roster : Roster}
    (hr : r.roster.remove? id = some (s, roster)) :
    ({ r with roster, tally := r.tally.sessionClosed } : Room).attendance =
      r.attendance.after (.closes id) := by
  obtain ⟨hhas, hsessions, hregistered⟩ := attendance_remove? hr
  rw [Attendance.after, if_pos hhas, attendance, hsessions, hregistered]
  rfl

theorem attendance_expel? (id : SessionId) :
    (((r.expel? id).map (·.2)).getD r).attendance = r.attendance.after (.closes id) := by
  cases hr : r.roster.remove? id with
  | none =>
    rw [expel?, hr, Attendance.after, has_of_remove?_none hr]
    rfl
  | some p =>
    rw [expel?, hr, ← attendance_closed hr]
    rfl

theorem attendance_disconnect? (id : SessionId) :
    (((r.disconnect? id).map (·.2)).getD r).attendance = r.attendance.after (.closes id) := by
  rw [← attendance_expel?, disconnect?]
  cases r.expel? id with
  | none => rfl
  | some p => exact (publish_quiet _ _).talks.attendance

theorem attendance_connectionLost? (hw : r.roster.WF) (conn : ConnId) :
    (((r.connectionLost? conn).map (·.2)).getD r).attendance =
      ((r.roster.bound? conn).toList.map (Deed.closes ·.id)).foldl Attendance.after
        r.attendance := by
  unfold connectionLost?
  cases hb : r.roster.bound? conn with
  | none => rfl
  | some s =>
    obtain ⟨hs, -⟩ := Roster.bound?_some hb
    have hr := Roster.remove?_eq hw ((Roster.lookup?_eq_some hw).2 ⟨hs, rfl⟩)
    show _ = r.attendance.after (.closes s.id)
    rw [← attendance_closed hr]
    simp only [Option.bind_some, strike?, hr]
    exact (publish_quiet _ _).talks.attendance

/-! ## Sweeps -/

/-- A session that is reaped is taken out in one step and counted in the next; one that has gone
is passed over. -/
theorem attendance_sweep (sessions : List Session) : ∀ {r : Room} {removed n : Nat},
    3 * sessions.length ≤ n →
    (Sweep.run n r ⟨sessions, .announce, removed⟩).1.attendance =
      (sessions.map (Deed.reaps ·.id)).foldl Attendance.after r.attendance := by
  induction sessions with
  | nil =>
    intro r removed n _
    induction n with
    | zero => rfl
    | succ n ih => exact ih (Nat.zero_le _)
  | cons s rest ih =>
    intro r removed n hn
    obtain ⟨n, rfl⟩ : ∃ m, n = m + 3 := ⟨n - 3, by simp at hn; omega⟩
    have hn : 3 * rest.length ≤ n := by simp at hn; omega
    rw [List.map_cons, List.foldl_cons]
    -- the announcement and the line do nothing to the sessions
    have hsame : ((r.announce (Sweep.lostText s.name)).2.publish
        (Sweep.lostLine s.name)).attendance = r.attendance :=
      Talks.attendance ((announce_talks r _).trans (publish_quiet _ _).talks)
    generalize hq : (r.announce (Sweep.lostText s.name)).2.publish (Sweep.lostLine s.name) = q
      at hsame
    cases hr : q.roster.remove? s.id with
    | none =>
      have hpass : Sweep.run (n + 3) r ⟨s :: rest, .announce, removed⟩ =
          Sweep.run (n + 1) q ⟨rest, .announce, removed⟩ := by
        simp only [Sweep.run, Sweep.step, hq, hr]
      rw [hpass, ih (by omega), hsame, Attendance.after, ← hsame, has_of_remove?_none hr]
      rfl
    | some p =>
      obtain ⟨gone, roster⟩ := p
      obtain ⟨hhas, hsessions, hregistered⟩ := attendance_remove? hr
      have htake : Sweep.run (n + 3) r ⟨s :: rest, .announce, removed⟩ =
          Sweep.run n { ({ q with roster } : Room).close gone.link with
            tally := q.tally.sessionReaped } ⟨rest, .announce, removed + 1⟩ := by
        simp only [Sweep.run, Sweep.step, hq, hr]
        rfl
      rw [htake, ih hn, ← hsame]
      congr 1
      rw [Attendance.after, if_pos hhas]
      show Attendance.mk roster.sessions roster.registered _ _ _ = _
      rw [hsessions, hregistered]
      rfl

/-! ## Every move -/

theorem attendance_register? {id : SessionId} {name : Text} {conn : ConnId} {mark : Nat}
    {roster : Roster} (hr : r.roster.register? id name conn mark = some roster) :
    ({ r with roster } : Room).attendance = r.attendance.after (.begins id name conn mark false) ∧
    ({ r with roster, tally := r.tally.sessionRegistered } : Room).attendance =
      r.attendance.after (.begins id name conn mark true) := by
  obtain ⟨-, -, rfl⟩ := Roster.register?_some hr
  exact ⟨rfl, rfl⟩

theorem attendance_touch (id : SessionId) (mark : Nat) :
    (r.touch id mark).attendance = r.attendance.after (.marks id mark) := by
  unfold touch
  cases ht : r.roster.touch? id mark with
  | none =>
    have habsent : r.attendance.has id = false := by
      rw [has_attendance]
      by_contra h
      rw [Roster.touch?, if_pos (by simpa using h)] at ht
      cases ht
    rw [Attendance.after_marks_absent habsent]
    rfl
  | some roster =>
    obtain ⟨-, rfl⟩ := Roster.touch?_some ht
    rfl

theorem attendance_handleUnregistered (conn : ConnId) (now : Nat) (message : Message) :
    (r.handleUnregistered conn now message).2.attendance =
      (r.firstDeeds conn now message).foldl Attendance.after r.attendance := by
  cases message with
  | register id name =>
    simp only [handleUnregistered, firstDeeds, register?]
    cases hr : r.roster.register? id name conn now with
    | none => exact attendance_write _ conn _
    | some roster => exact (attendance_register? hr).2
  | logoff _ => rfl
  | incoming _ _ => rfl
  | debug => rfl
  | usernameQuery _ => rfl
  | keepAlive _ => rfl
  | unknown _ => rfl

theorem attendance_handleActive (conn : ConnId) (now : Nat) (message : Message) :
    (r.handleActive conn now message).2.attendance =
      (laterDeeds now message).foldl Attendance.after r.attendance := by
  cases message with
  | incoming id text =>
    simp only [handleActive]
    split
    · exact (converse_talks r _ text).attendance
    · rfl
  | logoff id =>
    show _ = r.attendance.after (.closes id)
    rw [← attendance_expel?]
    simp only [handleActive]
    cases r.expel? id <;> rfl
  | keepAlive id => exact attendance_touch id now
  | register _ _ => rfl
  | debug => rfl
  | usernameQuery _ => rfl
  | unknown _ => rfl

theorem attendance_dispatch (conn : ConnId) (stage : Stage) (raw : Text) (now : Nat) :
    (r.dispatch conn stage raw now).2.attendance =
      (r.frameDeeds conn stage raw now).foldl Attendance.after r.attendance := by
  have hh : (r.handle conn stage raw now).2.attendance =
      (r.frameDeeds conn stage raw now).foldl Attendance.after r.attendance := by
    unfold handle frameDeeds
    cases Message.parse raw with
    | error e => rfl
    | ok message =>
      -- by now the frame is counted, which is nothing to the sessions
      cases stage with
      | accepted => exact attendance_handleUnregistered conn now message
      | awaitingRegister => exact attendance_handleUnregistered conn now message
      | active => exact attendance_handleActive conn now message
      | closed => rfl
  exact (publishLeft_talks _ _).attendance.trans hh

/-- The attendance after a move is what the deeds of the move make of the one before it. -/
theorem attendance_step (hw : r.roster.WF) (m : Move) :
    (r.step m).attendance = (r.deeds m).foldl Attendance.after r.attendance := by
  cases m with
  | register id name conn mark =>
    simp only [step, deeds, register?]
    cases hr : r.roster.register? id name conn mark with
    | none => rfl
    | some roster => exact (attendance_register? hr).1
  | frame conn stage raw now => exact attendance_dispatch conn stage raw now
  | disconnect id => exact attendance_disconnect? id
  | connectionLost conn => exact attendance_connectionLost? hw conn
  | reap now threshold => exact attendance_sweep _ (Nat.le_refl _)
  | disconnectAll => exact attendance_partFrom _ _
  | announce _ | tell _ _ | attach _ | guestFrame _ _ | detach _ | deliver _ _ | forward _
  | readNext _ | read _ | stopReading _ | publish _ | serve =>
    exact Talks.attendance (step_talks r trivial)

/-! ## The kinds of moves -/

/-- What begins a session: a registration that is counted is a frame, and any other is not. -/
def Begins (m : Move) (id : SessionId) (name : Text) (conn : ConnId) (mark : Nat) : Bool → Prop
  | true => ∃ stage raw, m = .frame conn stage raw mark ∧
      Message.parse raw = .ok (.register id name)
  | false => m = .register id name conn mark

/-- The four kinds of moves, by their deeds: a session begins under a new id, one gives a sign of
life, any number of them end, or all go at once. -/
inductive Does (r : Room) (m : Move) : Prop where
  | begins (id : SessionId) (name : Text) (conn : ConnId) (mark : Nat) (counted : Bool)
      (deeds : r.deeds m = [.begins id name conn mark counted])
      (fresh : r.attendance.has id = false) (origin : Begins m id name conn mark counted)
  | marks (id : SessionId) (mark : Nat) (deeds : r.deeds m = [.marks id mark])
  | ends (deeds : ∀ d ∈ r.deeds m, ∃ id, d = .closes id ∨ d = .reaps id)
  | clears (all : m = .disconnectAll)

theorem Does.nothing {m : Move} (h : r.deeds m = []) : Does r m := .ends (by simp [h])

theorem fresh_of_register? {id : SessionId} {name : Text} {conn : ConnId} {mark : Nat}
    (h : (r.roster.register? id name conn mark).isSome = true) : r.attendance.has id = false := by
  obtain ⟨roster, hr⟩ := Option.isSome_iff_exists.1 h
  rw [has_attendance]
  exact (Roster.register?_some hr).2.1

theorem does_register (r : Room) (id : SessionId) (name : Text) (conn : ConnId) (mark : Nat) :
    Does r (.register id name conn mark) := by
  by_cases h : (r.roster.register? id name conn mark).isSome = true
  · exact .begins id name conn mark false (if_pos h) (fresh_of_register? h) rfl
  · exact .nothing (if_neg h)

theorem does_frame (r : Room) (conn : ConnId) (stage : Stage) (raw : Text) (now : Nat) :
    Does r (.frame conn stage raw now) := by
  cases hraw : Message.parse raw with
  | error e => exact .nothing (by simp only [deeds, frameDeeds, hraw])
  | ok message =>
    have hfirst : r.deeds (.frame conn stage raw now) = r.firstDeeds conn now message →
        Does r (.frame conn stage raw now) := by
      intro hdeeds
      cases message with
      | register id name =>
        by_cases h : (r.roster.register? id name conn now).isSome = true
        · exact .begins id name conn now true (hdeeds.trans (if_pos h)) (fresh_of_register? h)
            ⟨stage, raw, rfl, hraw⟩
        · exact .nothing (hdeeds.trans (if_neg h))
      | logoff _ => exact .nothing hdeeds
      | incoming _ _ => exact .nothing hdeeds
      | debug => exact .nothing hdeeds
      | usernameQuery _ => exact .nothing hdeeds
      | keepAlive _ => exact .nothing hdeeds
      | unknown _ => exact .nothing hdeeds
    cases stage with
    | accepted => exact hfirst (by simp only [deeds, frameDeeds, hraw])
    | awaitingRegister => exact hfirst (by simp only [deeds, frameDeeds, hraw])
    | active =>
      have hdeeds : r.deeds (.frame conn .active raw now) = laterDeeds now message := by
        simp only [deeds, frameDeeds, hraw]
      cases message with
      | keepAlive id => exact .marks id now hdeeds
      | logoff id =>
        refine .ends fun d hd => ⟨id, .inl ?_⟩
        rw [hdeeds] at hd
        exact List.mem_singleton.1 hd
      | register _ _ => exact .nothing hdeeds
      | incoming _ _ => exact .nothing hdeeds
      | debug => exact .nothing hdeeds
      | usernameQuery _ => exact .nothing hdeeds
      | unknown _ => exact .nothing hdeeds
    | closed => exact .nothing (by simp only [deeds, frameDeeds, hraw])

theorem does (r : Room) (m : Move) : Does r m := by
  cases m with
  | register id name conn mark => exact does_register r id name conn mark
  | frame conn stage raw now => exact does_frame r conn stage raw now
  | disconnect id => exact .ends fun d hd => ⟨id, .inl (List.mem_singleton.1 hd)⟩
  | connectionLost conn =>
    refine .ends fun d hd => ?_
    obtain ⟨s, -, rfl⟩ := List.mem_map.1 hd
    exact ⟨s.id, .inl rfl⟩
  | reap now threshold =>
    refine .ends fun d hd => ?_
    obtain ⟨s, -, rfl⟩ := List.mem_map.1 hd
    exact ⟨s.id, .inr rfl⟩
  | disconnectAll => exact .clears rfl
  | announce _ => exact .nothing rfl
  | tell _ _ => exact .nothing rfl
  | attach _ => exact .nothing rfl
  | guestFrame _ _ => exact .nothing rfl
  | detach _ => exact .nothing rfl
  | deliver _ _ => exact .nothing rfl
  | forward _ => exact .nothing rfl
  | readNext _ => exact .nothing rfl
  | read _ => exact .nothing rfl
  | stopReading _ => exact .nothing rfl
  | publish _ => exact .nothing rfl
  | serve => exact .nothing rfl

end Room
end Parley
