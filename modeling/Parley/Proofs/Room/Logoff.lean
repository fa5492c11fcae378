/-
A session that is logged off. Whoever says so, the session that has the id is taken out with its
name, its link is closed, it is counted and its line goes out; the connection that said so ends
only if it is the session's own (`logoff_exact`).

Three copies of the session play a part: the one that is looked up, the one that is taken out and
whose link is closed, and the one whose connection is compared. On a roster that keeps its invariant
they are the same (`dispatch_logoff`), and what the roster is without it can be read off each
question that it answers.
-/
import Parley.Proofs.Room.Changes
import Parley.Proofs.Room.Losses
import Parley.Proofs.Room.Turnover

namespace Parley.Room

open Wire (Message)

/-! ## A roster without a session -/

section Without

variable {r : Room} {s : Session}

theorem lookup?_rosterWithout (r : Room) (s : Session) (id : SessionId) :
    (r.rosterWithout s).lookup? id = if id = s.id then none else r.roster.lookup? id :=
  find?_key_filter_ne r.roster.sessions s.id id

theorem holder?_rosterWithout (r : Room) (s : Session) (name : Text) :
    (r.rosterWithout s).holder? name = if name = s.name then none else r.roster.holder? name := by
  rw [Roster.holder?, rosterWithout, find?_key_filter_ne r.roster.holders s.name name,
    Roster.holder?]
  split <;> rfl

/-- Of all names only that of the session becomes free. -/
theorem isActive_rosterWithout (hw : r.roster.WF) (hs : s ∈ r.roster.sessions) (name : Text) :
    (r.rosterWithout s).isActive name = (decide (name ≠ s.name) && r.roster.isActive name) := by
  have hreserved : (r.rosterWithout s).reserved = r.roster.reserved := rfl
  rw [Roster.isActive, holder?_rosterWithout, hreserved, Roster.isActive]
  by_cases h : name = s.name
  · -- no name is held and reserved at once
    have hfree : name ∉ r.roster.reserved := fun hname => hw.apart name hname s hs h.symm
    simp [h, h ▸ hfree]
  · simp [h]

end Without

/-! ## Logging off -/

/-- The line that goes out when a session has disconnected, if the feed goes on. -/
def leavingLines (r : Room) (s : Session) : List Text :=
  if r.feed.stopped || r.feed.ended then []
  else ["Client: ".toList ++ s.id ++ " Disconnected.".toList]

/-- What a room is after a session has been logged off by a frame: the session is gone with its name
and nothing else of the roster, its link has been closed once more and no other has been touched, a
frame more has been received and a session more has been closed, and its line is published once,
last of all. -/
structure LoggedOff (s : Session) (r r' : Room) : Prop where
  roster : r'.roster = { r.roster with
    sessions := r.roster.sessions.filter (·.id ≠ s.id)
    holders := r.roster.holders.filter (·.1 ≠ s.name) }
  sessions : ∃ before after, r.roster.sessions = before ++ s :: after ∧
    r'.roster.sessions = before ++ after
  lookup : ∀ id, r'.roster.lookup? id = if id = s.id then none else r.roster.lookup? id
  active : ∀ name, r'.roster.isActive name = (decide (name ≠ s.name) && r.roster.isActive name)
  closed : (r'.links s.link).isClosed = true
  link : r'.links s.link = { r.links s.link with closes := (r.links s.link).closes + 1 }
  others : ∀ c ≠ s.link, r'.links c = r.links c
  tally : r'.tally = { r.tally with
    framesReceived := r.tally.framesReceived + 1
    sessionsClosed := r.tally.sessionsClosed + 1 }
  feed : r'.feed = { r.feed with queue := r.feed.queue ++ r.leavingLines s }
  log : r'.log = r.log ++ .closed s.link :: (r.leavingLines s).map .published
  bridge : r'.bridge = r.bridge
  subscription : r'.bridgeSubscription = r.bridgeSubscription
  directory : r'.directory = r.directory

section Logoff

variable {r : Room} {s : Session} {raw : Text}

/-- The room when a session has been taken out for a frame, its link is closed and its end is
counted. -/
def loggingOff (r : Room) (s : Session) : Room :=
  ({ r with
    roster := r.rosterWithout s
    tally := r.tally.frameReceived.sessionClosed } : Room).close s.link

theorem dispatch_logoff (hw : r.roster.WF) (hs : s ∈ r.roster.sessions)
    (hraw : Message.parse raw = .ok (.logoff s.id)) (conn : ConnId) (now : Nat) :
    r.dispatch conn .active raw now =
      (if s.link = conn then .closed else .active,
        (r.loggingOff s).publish (disconnectedLine s.id)) := by
  have hfound : r.roster.lookup? s.id = some s := (Roster.lookup?_eq_some hw).2 ⟨hs, rfl⟩
  have hremoved : r.roster.remove? s.id = some (s, r.rosterWithout s) :=
    Roster.remove?_eq hw hfound
  simp only [dispatch, handle, hraw, handleActive, expel?, hremoved, Option.map_some]
  rfl

theorem publish_loggingOff (hw : r.roster.WF) (hs : s ∈ r.roster.sessions) :
    LoggedOff s r ((r.loggingOff s).publish (disconnectedLine s.id)) := by
  have hroster : ((r.loggingOff s).publish (disconnectedLine s.id)).roster = r.rosterWithout s :=
    roster_publish ..
  constructor
  case roster => exact hroster
  case sessions =>
    rw [hroster]
    exact exists_split_filter hw.ids hs
  case lookup =>
    rw [hroster]
    exact lookup?_rosterWithout r s
  case active =>
    rw [hroster]
    exact isActive_rosterWithout hw hs
  case closed =>
    rw [publish_taken]
    exact (isClosed_close ..).trans (by rw [decide_eq_true rfl, Bool.true_or])
  case link =>
    rw [publish_taken]
    exact Links.set_self ..
  case others =>
    rw [publish_taken]
    exact fun c hc => Links.set_of_ne _ _ hc
  case log =>
    rw [publish_taken]
    exact List.append_assoc ..
  -- what is left is neither of the roster nor of the links nor the log, and is read off the room
  all_goals
    rw [publish_taken]
    rfl

end Logoff

/-- In every room that can come about, what a logoff does is the same over every registered
connection that it comes from. If a session has the id, the roster is what it was without this
session and its name, the session's link is closed and no other, one session more is counted as
closed, and the line that it has disconnected is published once; the connection that the frame came
from is closed if the session is bound to it, and stays active otherwise. If no session has the id,
nothing happens but that a frame is counted. -/
theorem logoff_exact (room : Room) (moves : List Move) :
    let r := room.emptied.run moves
    ∀ {id : SessionId} {raw : Text}, Message.parse raw = .ok (.logoff id) → ∀ conn now,
      let p := r.dispatch conn .active raw now
      (∀ s, r.roster.lookup? id = some s →
        LoggedOff s r p.2 ∧ p.1 = (if s.link = conn then .closed else .active)) ∧
      (r.roster.contains id = false →
        p = (.active, { r with tally :=
          { r.tally with framesReceived := r.tally.framesReceived + 1 } })) ∧
      ∀ other time, (r.dispatch other .active raw time).2 = p.2 := by
  intro r id raw hraw conn now p
  have hw : r.roster.WF := (run_wf (emptied_wf room) moves).roster
  refine ⟨fun s hs => ?_, fun habsent => dispatch_logoff_absent hraw habsent now,
    fun other time => ?_⟩
  · obtain ⟨hthere, rfl⟩ := Roster.lookup?_some hs
    have hp : p = _ := dispatch_logoff hw hthere hraw conn now
    rw [hp]
    exact ⟨publish_loggingOff hw hthere, rfl⟩
  · by_cases hid : r.roster.contains id = true
    · obtain ⟨s, hs, rfl⟩ := Roster.contains_iff.1 hid
      have hp : p = _ := dispatch_logoff hw hs hraw conn now
      rw [hp, dispatch_logoff hw hs hraw other time]
    · have habsent : r.roster.contains id = false := Bool.eq_false_iff.2 hid
      have hp : p = _ := dispatch_logoff_absent hraw habsent now
      rw [hp, dispatch_logoff_absent hraw habsent time]

/-- Bob logs Ann off, who is on another connection, and then himself. -/
theorem logoff_exact_of_two :
    let ann : Session := ⟨"1".toList, "ann".toList, ⟨1⟩, 1, 0⟩
    let bob : Session := ⟨"2".toList, "bob".toList, ⟨2⟩, 2, 0⟩
    let both : List Move := [.register ann.id ann.name ann.link 0,
      .register bob.id bob.name bob.link 0]
    let raw := (Message.logoff ann.id).wire
    let own := (Message.logoff bob.id).wire
    let r := ({} : Room).emptied.run both
    Message.parse raw = .ok (.logoff ann.id) ∧ r.roster.sessions = [ann, bob] ∧
    LoggedOff ann r (r.dispatch bob.link .active raw 5).2 ∧
    (r.dispatch bob.link .active raw 5).1 = .active ∧
    LoggedOff bob r (r.dispatch bob.link .active own 6).2 ∧
    (r.dispatch bob.link .active own 6).1 = .closed := by
  intro ann bob both raw own r
  have hraw : Message.parse raw = .ok (.logoff ann.id) := by decide
  have hann := (logoff_exact {} both hraw bob.link 5).1 ann (by decide)
  have hbob := (logoff_exact {} both (by decide : Message.parse own = .ok (.logoff bob.id))
    bob.link 6).1 bob (by decide)
  exact ⟨hraw, by decide, hann.1, hann.2, hbob.1, hbob.2⟩

end Parley.Room
