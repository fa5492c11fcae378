/-
Who is heard under which name. Chat goes out under a name only for a frame from whoever holds that
name: the connection that a session is bound to, or the guest that reserved the nickname, and only
if the frame bears their own id (`chat_is_authentic`).
-/
import Parley.Proofs.Room.Causes
import Parley.Proofs.Room.Names

namespace Parley.Room

open Wire (Message Chat)

/-- A frame has one speaker at most. -/
theorem says_unique {r : Room} {o : Origin} {raw text said : Text} {p q : Speaker}
    (hp : p.Says r o raw text) (hq : q.Says r o raw said) : q = p ∧ said = text := by
  obtain ⟨htakes, ho, hraw⟩ := hp
  obtain ⟨htakes', ho', hraw'⟩ := hq
  rw [hraw] at hraw'
  injection hraw' with hmessage
  injection hmessage with hid htext
  refine ⟨?_, htext.symm⟩
  rw [← ho] at ho'
  cases p with
  | session s =>
    cases q with
    | guest id nickname => cases ho'
    | session s' =>
      have hs : r.roster.lookup? s.id = some s := htakes
      have hs' : r.roster.lookup? s'.id = some s' := htakes'
      rw [← show s.id = s'.id from hid, hs] at hs'
      rw [Option.some.inj hs']
  | guest id nickname =>
    cases q with
    | session s => cases ho'
    | guest id' nickname' =>
      obtain rfl : id = id' := hid
      have hn : r.bridge.nicknameOf? id = some nickname := htakes
      have hn' : r.bridge.nicknameOf? id = some nickname' := htakes'
      rw [hn] at hn'
      rw [Option.some.inj hn']

/-- A session that takes part holds its name. -/
theorem named_of_takesPart {r : Room} (hw : r.roster.WF) {s : Session}
    (hs : (Speaker.session s).TakesPart r) : r.roster.named? s.name = some s :=
  (Roster.named?_eq_some hw).2 ⟨(Roster.lookup?_some hs).1, rfl⟩

/-- The nickname of a guest that takes part is reserved. -/
theorem Housed.reserved_of_takesPart {r : Room} (h : Housed r) {id : SessionId} {nickname : Text}
    (hg : (Speaker.guest id nickname).TakesPart r) : nickname ∈ r.roster.reserved := by
  obtain ⟨g, hfound, hname⟩ := Option.bind_eq_some_iff.1 hg
  exact h.mem_reserved.2 ⟨g, (Bridge.guest?_some hfound).1, hname⟩

/-- In every room that can come about, whatever a frame sends out as chat is what one speaker says
under its own name: a session that is bound to the connection that the frame came from, or the guest
that it came from, and the frame bears that one's id. All other frames that come of it go back to
where it came from, and all other lines tell of a session that has begun or ended. A frame of chat
that bears any other id changes nothing but a counter. A session holds the name under which it is
heard, and so does a guest, as long as everybody is disconnected at once only while no guest has a
nickname. -/
theorem chat_is_authentic (room : Room) (moves : List Move) (o : Origin) (raw : Text) (now : Nat) :
    let r := room.emptied.run moves
    let r' := r.step (o.move raw now)
    (∃ events, r'.log = r.log ++ events ∧
      (∀ e ∈ events, ∀ frame, e.frame? = some frame →
        (∃ p text, Speaker.Says p r o raw text ∧ Utterance p text frame) ∨
        o.Gets frame e ∧ Reply o raw frame) ∧
      ∀ line, .published line ∈ events →
        (∃ p text, Speaker.Says p r o raw text ∧ Chat.parse text = .broadcast text ∧
          line = Wire.displayLine p.name text) ∨
        (∃ id name, Message.parse raw = .ok (.register id name) ∧ line = connectedLine id name) ∨
        ∃ id, Message.parse raw = .ok (.logoff id) ∧ line = disconnectedLine id) ∧
    (∀ p q text said, Speaker.Says p r o raw text → Speaker.Says q r o raw said →
      q = p ∧ said = text) ∧
    (∀ id text, Message.parse raw = .ok (.incoming id text) →
      (∀ p : Speaker, p.TakesPart r → p.origin = o → p.id ≠ id) → r' = o.counted r) ∧
    (∀ s, (Speaker.session s).TakesPart r → r.roster.named? s.name = some s) ∧
    (Spares room.emptied moves → ∀ id nickname, (Speaker.guest id nickname).TakesPart r →
      nickname ∈ r.roster.reserved) := by
  intro r r'
  have hw : r.WF := run_wf (emptied_wf room) moves
  refine ⟨?_, fun p q text said hp hq => says_unique hp hq, ?_, ?_, ?_⟩
  · obtain ⟨events, hlog, hsent⟩ := step_sent r o raw now
    refine ⟨events, hlog, fun e he frame hf => ?_, fun line hl => ?_⟩
    · exact (hsent e he).frame hf
    · exact (hsent _ hl).published
  · intro id text hraw hforeign
    exact step_of_foreign hraw hforeign now
  · intro s hs
    exact named_of_takesPart hw.roster hs
  · intro hm id nickname hg
    have h : Housed r := spares_housed (emptied_housed room) hm
    exact h.reserved_of_takesPart hg

/-- A session speaks over its own connection; the same frame over another one is only counted. -/
theorem chat_over_two_connections :
    let bob : Session := ⟨"1".toList, "bob".toList, ⟨1⟩, 1, 0⟩
    let r := (emptied {}).run [.register bob.id bob.name bob.link 0,
      .register "2".toList "ann".toList ⟨2⟩ 0]
    let raw := (Message.incoming bob.id "hi".toList).wire
    (Speaker.session bob).Says r (.connection ⟨1⟩ .active) raw "hi".toList ∧
    r.step (.frame ⟨2⟩ .active raw 0) = { r with tally := r.tally.frameReceived } := by
  intro bob r raw
  have hbob : r.roster.lookup? bob.id = some bob := by decide
  have hraw : Message.parse raw = .ok (.incoming bob.id "hi".toList) := by decide
  refine ⟨⟨hbob, rfl, hraw⟩, ?_⟩
  obtain ⟨-, -, hforeign, -⟩ := chat_is_authentic {} [.register bob.id bob.name bob.link 0,
    .register "2".toList "ann".toList ⟨2⟩ 0] (.connection ⟨2⟩ .active) raw 0
  refine hforeign bob.id "hi".toList hraw fun p hp ho hid => ?_
  cases p with
  | guest id nickname => cases ho
  | session s =>
    have hs : r.roster.lookup? s.id = some s := hp
    rw [show s.id = bob.id from hid, hbob] at hs
    cases hs
    cases ho

end Parley.Room
