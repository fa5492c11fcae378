/-
Those who speak in a room under a name: sessions, and guests with a nickname. What either of them
says goes the same way, but for the frame that comes from a session being counted, and a session
not being written what it says itself (`utters_personal`, `utters_broadcast`).
-/
import Parley.Room.GuestFrames
import Parley.Proofs.Wire.Address

namespace Parley

open Wire (Message Chat)

/-- Somebody who speaks under a name. -/
inductive Speaker where
  | session (s : Session)
  | guest (id : SessionId) (nickname : Text)
  deriving DecidableEq, Repr

namespace Speaker

/-- The id that a speaker names in its frames. -/
def id : Speaker → SessionId
  | session s => s.id
  | guest id _ => id

/-- The name under which a speaker is heard. -/
def name : Speaker → Text
  | session s => s.name
  | guest _ nickname => nickname

/-- The session that is not written what a speaker says to everybody. -/
def self? : Speaker → Option SessionId
  | session s => some s.id
  | guest .. => none

/-- The connection of a speaker that has a session. -/
def link? : Speaker → Option ConnId
  | session s => some s.link
  | guest .. => none

/-- The guest that a speaker is. -/
def guest? : Speaker → Option SessionId
  | session _ => none
  | guest id _ => some id

/-- Whether a speaker takes part in a room. -/
def TakesPart (p : Speaker) (r : Room) : Prop :=
  match p with
  | session s => r.roster.lookup? s.id = some s
  | guest id nickname => r.bridge.nicknameOf? id = some nickname

/-- The room after a frame from a speaker; a session's comes over its own connection. -/
def utters (p : Speaker) (r : Room) (raw : Text) (now : Nat) : Room :=
  match p with
  | session s => (r.dispatch s.link .active raw now).2
  | guest id _ => (r.guestFrame id raw).2

/-- The room after one try to hand a frame to a speaker. -/
def hand (p : Speaker) (r : Room) (frame : Text) : Room :=
  match p with
  | session s => (r.write s.link frame).2
  | guest id _ => (r.sendTo id frame).2

/-- The room when a frame from a speaker has been counted; only those of sessions are. -/
def counted (p : Speaker) (r : Room) : Room :=
  match p with
  | session _ => { r with tally := { r.tally with framesReceived := r.tally.framesReceived + 1 } }
  | guest .. => r

/-! ## What counting leaves as it was -/

section Counted

variable (p : Speaker) (r : Room)

@[simp] theorem roster_counted : (p.counted r).roster = r.roster := by cases p <;> rfl
@[simp] theorem bridge_counted : (p.counted r).bridge = r.bridge := by cases p <;> rfl
@[simp] theorem feed_counted : (p.counted r).feed = r.feed := by cases p <;> rfl
@[simp] theorem links_counted : (p.counted r).links = r.links := by cases p <;> rfl
@[simp] theorem log_counted : (p.counted r).log = r.log := by cases p <;> rfl

@[simp] theorem directory_counted : (p.counted r).directory = r.directory := by cases p <;> rfl

@[simp] theorem bridgeSubscription_counted :
    (p.counted r).bridgeSubscription = r.bridgeSubscription := by cases p <;> rfl

end Counted

/-! ## What is said -/

section Utters

variable {p : Speaker} {r : Room} (hp : p.TakesPart r) {raw text : Text}
  (hraw : Message.parse raw = .ok (.incoming p.id text))
include hp hraw

theorem dispatch_eq {s : Session} (hs : p = .session s) (now : Nat) :
    r.dispatch s.link .active raw now =
      let (line, r) := (p.counted r).converse s text
      (.active, r.publishLeft line) := by
  subst hs
  have howned : (counted (.session s) r).owned? s.link s.id = some s := by
    show (r.roster.lookup? s.id).filter (·.link = s.link) = some s
    rw [show r.roster.lookup? s.id = some s from hp]
    simp
  have hhandle : r.handle s.link .active raw now =
      (counted (.session s) r).handleActive s.link now (.incoming s.id text) := by
    simp only [Room.handle, show Message.parse raw = _ from hraw]
    rfl
  rw [Room.dispatch, hhandle]
  simp only [Room.handleActive, howned]

theorem guestFrame_eq {id : SessionId} {nickname : Text} (hg : p = .guest id nickname) :
    (r.guestFrame id raw).2 =
      let (line, r) := r.guestConverse id nickname text
      r.publishLeft line := by
  subst hg
  simp only [Room.guestFrame, Room.guestHandle, show Message.parse raw = _ from hraw,
    Room.guestMessage, Speaker.id, if_true, show r.bridge.nicknameOf? id = some nickname from hp]

/-- A private message goes to the holder of a name; if there is nobody, its sender is told. -/
theorem utters_personal {target payload : Text} (ht : Chat.parse text = .personal target payload)
    (now : Nat) :
    p.utters r raw now =
      match (p.counted r).sendPrivate p.name target payload with
      | (.nobody, q) => p.hand q (Room.invalidName target)
      | (_, q) => q := by
  cases p with
  | session s =>
    rw [utters, dispatch_eq hp hraw rfl now, Room.converse, ht]
    simp only [name]
    obtain ⟨handover, q⟩ := (counted (.session s) r).sendPrivate s.name target payload
    cases handover <;> rfl
  | guest id nickname =>
    rw [utters, guestFrame_eq hp hraw rfl, Room.guestConverse, ht]
    simp only [name, counted]
    obtain ⟨handover, q⟩ := r.sendPrivate nickname target payload
    cases handover <;> rfl

/-- Any other message goes to every session but its own, and is published. -/
theorem utters_broadcast (ht : Chat.parse text = .broadcast text) (now : Nat) :
    p.utters r raw now =
      ((p.counted r).broadcast (Message.incoming p.name text).wire p.self?).2.publish
        (Wire.displayLine p.name text) := by
  cases p with
  | session s => rw [utters, dispatch_eq hp hraw rfl now, Room.converse, ht]; rfl
  | guest id nickname => rw [utters, guestFrame_eq hp hraw rfl, Room.guestConverse, ht]; rfl

end Utters

end Speaker
end Parley
