/-
What is done in a room without anybody coming or going. All that is said, forwarded, delivered,
published and served is made of two things: frames that are written to connections, and steps that
are quiet, which leave the sessions, the links and the counters as they are and log no more than
what becomes of lines and guests (`Talks`). What neither of the two changes, none of it changes
(`Talks.same`).
-/
import Mathlib.Logic.Relation
import Parley.Proofs.Room.Logs

namespace Parley

open Wire (Message Chat)

/-- Whether an event is none of a link: neither a write nor a closing. -/
def Event.IsQuiet : Event → Prop
  | .wrote .. | .closed _ => False
  | .published _ | .handed .. | .queued .. | .ended _ | .told .. => True

namespace Room

/-- Nothing but lines, mailboxes, guests and reservations, and what is logged of them. -/
structure Quiet (r r' : Room) : Prop where
  sessions : r'.roster.sessions = r.roster.sessions
  registered : r'.roster.registered = r.roster.registered
  links : r'.links = r.links
  tally : r'.tally = r.tally
  logs : Logs Event.IsQuiet r r'

/-- One thing that is done: a frame is written, or it is quiet. -/
inductive Talk (r : Room) : Room → Prop where
  | quiet {r' : Room} (h : Quiet r r') : Talk r r'
  | write (conn : ConnId) (frame : Text) : Talk r (r.write conn frame).2

/-- Any number of such things, one after the other. -/
abbrev Talks : Room → Room → Prop := Relation.ReflTransGen Talk

/-- What neither a quiet step nor a write changes, any number of them leaves as it is. -/
theorem Talks.same {α : Type} {f : Room → α} (hquiet : ∀ r r', Quiet r r' → f r' = f r)
    (hwrite : ∀ r conn frame, f (r.write conn frame).2 = f r) {r r' : Room} (h : Talks r r') :
    f r' = f r := by
  induction h with
  | refl => rfl
  | tail _ hstep ih =>
    refine Eq.trans ?_ ih
    cases hstep with
    | quiet hq => exact hquiet _ _ hq
    | write conn frame => exact hwrite _ conn frame

theorem Quiet.talks {r r' : Room} (h : Quiet r r') : Talks r r' := .single (.quiet h)

theorem OnlyEvicts.quiet {p : Event → Prop} {r r' : Room} (h : OnlyEvicts r r')
    (hlogs : Logs p r r') (hp : ∀ e, p e → e.IsQuiet) : Quiet r r' :=
  ⟨h.sessions, h.registered, h.links, h.tally, hlogs.mono hp⟩

variable (r : Room)

/-! ## Quiet steps -/

theorem publish_quiet (line : Text) : Quiet r (r.publish line) := by
  have hlogs := (publish_logs r line).mono (q := Event.IsQuiet) fun e he => he ▸ trivial
  obtain ⟨feed, log, h⟩ := publish_eq r line
  rw [h] at hlogs ⊢
  exact ⟨rfl, rfl, rfl, rfl, hlogs⟩

theorem publishLeft_talks (line : Option Text) : Talks r (r.publishLeft line) := by
  cases line with
  | none => exact .refl
  | some line => exact (publish_quiet r line).talks

theorem record_quiet {e : Event} (he : e.IsQuiet) : Quiet r (r.record e) :=
  (record_onlyEvicts r e).quiet (p := (· = e)) (.single rfl rfl) fun _ h => h ▸ he

theorem ForGuest.isQuiet {id : SessionId} {frame : Text} {e : Event} (h : ForGuest id frame e) :
    e.IsQuiet := by
  rcases h with rfl | rfl <;> exact trivial

theorem sendTo_quiet (id : SessionId) (frame : Text) : Quiet r (r.sendTo id frame).2 :=
  (sendTo_onlyEvicts r id frame).quiet (sendTo_logs r id frame) fun _ he => he.isQuiet

theorem deliver_quiet (name frame : Text) : Quiet r (r.deliver name frame).2 :=
  (deliver_onlyEvicts r name frame).quiet (deliver_logs r name frame)
    fun _ ⟨_, _, he⟩ => he.isQuiet

theorem detach_quiet (id : SessionId) : Quiet r (r.detach id) :=
  (detach_onlyEvicts r id).quiet (detach_logs r id) fun _ he => he ▸ trivial

theorem forward_quiet (line : Text) : Quiet r (r.forward line).2 :=
  (forward_onlyEvicts r line).quiet (forward_logs r line) fun _ ⟨_, _, _, he⟩ => he.isQuiet

theorem tellDirectory_talks (name frame : Text) : Talks r (r.tellDirectory name frame).2 := by
  unfold tellDirectory
  split
  · exact (deliver_quiet r name frame).talks
  · split
    · exact (record_quiet r (e := .told name frame) trivial).talks
    · exact .refl
  · exact .refl
  · exact .refl

theorem nameGuest_talks (id : SessionId) (name : Text) : Talks r (r.nameGuest id name) := by
  unfold nameGuest
  split
  · exact .refl
  · split
    · exact (sendTo_quiet r id _).talks
    · rename_i roster hr
      obtain ⟨-, rfl⟩ := Roster.reserve?_some hr
      simp only
      split
      · exact Quiet.talks ⟨rfl, rfl, rfl, rfl, .nothing rfl⟩
      · rw [release_eq]
        exact Quiet.talks ⟨rfl, rfl, rfl, rfl, .nothing rfl⟩

theorem serve?_talks {r r' : Room} (hs : r.serve? = some r') : Talks r r' := by
  have hfeed : ∀ feed, Talks r { r with feed } :=
    fun feed => Quiet.talks ⟨rfl, rfl, rfl, rfl, .nothing rfl⟩
  cases serve?_serves hs with
  | feed feed => exact hfeed feed
  | handed delivering subscriber feed =>
    exact (hfeed feed).trans (record_quiet _ (e := .handed subscriber _) trivial).talks
  | @forwarded d delivering subscriber feed =>
    -- a line handed to the bridge goes on to its guests
    have hhanded := record_quiet { r with feed } (e := .handed subscriber d.line) trivial
    exact ((hfeed feed).trans hhanded.talks).trans (forward_quiet _ d.line).talks

/-! ## Messages -/

theorem write_talks (conn : ConnId) (frame : Text) : Talks r (r.write conn frame).2 :=
  .single (.write conn frame)

theorem writeAll_talks (frame : Text) (sessions : List Session) :
    ∀ r : Room, Talks r (r.writeAll frame sessions).2 := by
  induction sessions with
  | nil => exact fun _ => .refl
  | cons s rest ih => exact fun r => (write_talks r s.link frame).trans (ih _)

theorem broadcast_talks (frame : Text) (sender : Option SessionId) :
    Talks r (r.broadcast frame sender).2 :=
  writeAll_talks frame _ r

theorem announce_talks (text : Text) : Talks r (r.announce text).2 := broadcast_talks r _ none

theorem tell_talks (id : SessionId) (text : Text) : Talks r (r.tell id text).2 := by
  unfold tell
  split
  · exact .refl
  · rename_i s _
    have hs := write_talks r s.link (Message.notice text).wire
    simp only
    split <;> exact hs

theorem sendPrivate_talks (sender target payload : Text) :
    Talks r (r.sendPrivate sender target payload).2 := by
  unfold sendPrivate
  simp only
  split
  · rename_i s _
    have hs := write_talks r s.link (Message.private sender target payload).wire
    split <;> exact hs
  · exact tellDirectory_talks r target _

theorem converse_talks (speaker : Session) (text : Text) :
    Talks r (r.converse speaker text).2 := by
  cases ht : Chat.parse text with
  | broadcast said =>
    rw [converse, ht]
    exact broadcast_talks r _ _
  | personal target payload =>
    have hs := sendPrivate_talks r speaker.name target payload
    rw [converse_personal r speaker ht]
    simp only
    split
    · exact hs.trans (write_talks _ speaker.link _)
    · exact hs

theorem guestConverse_talks (id : SessionId) (nickname text : Text) :
    Talks r (r.guestConverse id nickname text).2 := by
  cases ht : Chat.parse text with
  | broadcast said =>
    rw [guestConverse, ht]
    exact broadcast_talks r _ _
  | personal target payload =>
    have hs := sendPrivate_talks r nickname target payload
    rw [guestConverse_personal r id nickname ht]
    simp only
    split
    · exact hs.trans (sendTo_quiet _ id _).talks
    · exact hs

theorem guestMessage_talks (id : SessionId) (raw : Text) (message : Message) :
    Talks r (r.guestMessage id raw message).2.2 := by
  cases message with
  | register _ name => exact nameGuest_talks r id name
  | incoming sender text =>
    simp only [guestMessage]
    split
    · split
      · exact guestConverse_talks r id _ text
      · exact .refl
    · exact .refl
  | usernameQuery _ =>
    simp only [guestMessage]
    split
    · exact (sendTo_quiet r id _).talks
    · exact .refl
  | logoff _ => exact .refl
  | debug => exact .refl
  | keepAlive _ => exact .refl
  | unknown _ => exact .refl

theorem guestFrame_talks (id : SessionId) (raw : Text) : Talks r (r.guestFrame id raw).2 := by
  have hh : Talks r (r.guestHandle id raw).2.2 := by
    unfold guestHandle
    split
    · exact .refl
    · exact guestMessage_talks r id raw _
  exact hh.trans (publishLeft_talks _ _)

/-! ## Moves -/

/-- The moves that only talk. -/
def Move.IsTalk : Move → Prop
  | .announce _ | .tell .. | .attach _ | .guestFrame .. | .detach _ | .deliver .. | .forward _
  | .readNext _ | .read _ | .stopReading _ | .publish _ | .serve => True
  | .register .. | .frame .. | .disconnect _ | .connectionLost _ | .reap .. | .disconnectAll =>
    False

/-- Moves by which nobody can come or go only talk. -/
theorem step_talks {m : Move} (hm : m.IsTalk) : Talks r (r.step m) := by
  have hbridge : ∀ bridge, Talks r { r with bridge } :=
    fun bridge => Quiet.talks ⟨rfl, rfl, rfl, rfl, .nothing rfl⟩
  cases m with
  | announce text => exact announce_talks r text
  | tell id text => exact tell_talks r id text
  | attach id =>
    simp only [step]
    split
    · exact .refl
    · exact (hbridge _).trans (record_quiet _ (e := .queued id _) trivial).talks
  | guestFrame id raw => exact guestFrame_talks r id raw
  | detach id => exact (detach_quiet r id).talks
  | deliver name frame => exact (deliver_quiet r name frame).talks
  | forward line => exact (forward_quiet r line).talks
  | readNext id => exact hbridge _
  | read id => exact hbridge _
  | stopReading id => exact hbridge _
  | publish line => exact (publish_quiet r line).talks
  | serve =>
    simp only [step]
    cases hs : r.serve? with
    | none => exact .refl
    | some r' => exact serve?_talks hs
  | register _ _ _ _ => exact hm.elim
  | frame _ _ _ _ => exact hm.elim
  | disconnect _ => exact hm.elim
  | connectionLost _ => exact hm.elim
  | reap _ _ => exact hm.elim
  | disconnectAll => exact hm.elim

end Room
end Parley
