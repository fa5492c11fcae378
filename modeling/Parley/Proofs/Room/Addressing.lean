/-
Whom a client can reach by name. A client writes an address by putting a name between its two marks,
and the room splits the address where the second mark comes first; nothing is escaped, and a name
may be any text. So a name that contains the mark is cut short, one that is empty is no address, and
with every other name the message reaches its holder, and nobody but the holder (`reached_iff`).
-/
import Parley.Client
import Parley.Proofs.Room.Authenticity
import Parley.Proofs.Room.Private
import Parley.Proofs.Wire.RoundTrip

namespace Parley

open Wire (Message Chat)

/-! ## Holders of names -/

namespace Speaker

/-- Whether the next frame for the holder of a name reaches it: its link takes the frame, or the
guests are asked for names and its mailbox has room. -/
def CanBeReached (p : Speaker) (r : Room) : Prop :=
  match p with
  | session s => ∀ frame, (r.links s.link).outcome frame = .accepted
  | guest id _ => r.directory = .guests ∧
      ∃ g, r.bridge.guest? id = some g ∧ g.receipt r.bridge.capacity = .taken

/-- What is logged when a frame reaches somebody. -/
def reached (p : Speaker) (frame : Text) : Event :=
  match p with
  | session s => .wrote s.link frame .accepted
  | guest id _ => .queued id frame

theorem frame?_reached (p : Speaker) (frame : Text) : (p.reached frame).frame? = some frame := by
  cases p <;> rfl

/-- A frame that reaches somebody reaches nobody else. -/
theorem log_hand {p : Speaker} {r : Room} (h : p.CanBeReached r) (frame : Text) :
    (p.hand r frame).log = r.log ++ [p.reached frame] := by
  cases p with
  | session s =>
    show r.log ++ [.wrote s.link frame ((r.links s.link).outcome frame)] = _
    rw [h frame]
    rfl
  | guest id nickname =>
    obtain ⟨-, g, hg, ht⟩ := h
    rw [hand, Room.sendTo_taken frame hg ht]
    rfl

/-- A frame has come to somebody and to nobody else: its link has accepted it, or it is the last in
its mailbox. -/
def Got (p : Speaker) (frame : Text) (r r' : Room) : Prop :=
  match p with
  | session s => Room.Wrote r s.link frame .accepted r'
  | guest id _ => ∃ g, g.id = id ∧ Room.Queued r g frame r'

theorem got_hand {p : Speaker} {r : Room} (hw : r.WF) (h : p.CanBeReached r) (frame : Text) :
    p.Got frame r (p.hand r frame) := by
  cases p with
  | session s =>
    have haccepted : (r.write s.link frame).1 = .accepted := h frame
    rw [Got, ← haccepted]
    exact Room.wrote_write r s.link frame
  | guest id nickname =>
    obtain ⟨-, g, hg, ht⟩ := h
    obtain ⟨hmem, rfl⟩ := Bridge.guest?_some hg
    exact ⟨g, rfl, Room.queued_sendTo hw hmem ht frame⟩

theorem CanBeReached.counted {p : Speaker} {r : Room} (h : p.CanBeReached r) (q : Speaker) :
    p.CanBeReached (q.counted r) := by
  cases p with
  | session s => simpa [CanBeReached] using h
  | guest id nickname => simpa [CanBeReached] using h

end Speaker

namespace Room

/-- A guest whose nickname nobody else has is the one who is found by it. -/
theorem named?_of_once {r : Room} {g : Guest} {name : Text} (hg : g ∈ r.bridge.guests)
    (hname : g.nickname = some name) (once : r.names.count name = 1) :
    (∀ s ∈ r.roster.sessions, s.name ≠ name) ∧ r.bridge.named? name = some g := by
  obtain ⟨before, after, hguests⟩ := List.append_of_mem hg
  have hnicknames : r.bridge.nicknames =
      before.filterMap (·.nickname) ++ name :: after.filterMap (·.nickname) := by
    rw [Bridge.nicknames, hguests, List.filterMap_append, List.filterMap_cons_some hname]
  rw [names, List.count_append, hnicknames, List.count_append, List.count_cons_self] at once
  have hsessions : (r.roster.sessions.map (·.name)).count name = 0 := by omega
  have hbefore : (before.filterMap (·.nickname)).count name = 0 := by omega
  rw [List.count_eq_zero] at hsessions hbefore
  constructor
  · exact fun s hs e => hsessions (e ▸ List.mem_map_of_mem hs)
  · have hearlier : before.find? (·.nickname = some name) = none := by
      refine List.find?_eq_none.2 fun g' hg' e => hbefore ?_
      exact List.mem_filterMap.2 ⟨g', hg', by simpa using e⟩
    rw [Bridge.named?, hguests, List.find?_append, hearlier, Option.none_or,
      List.find?_cons_of_pos (by simpa using hname)]

/-! ## Names that can be addressed -/

section Addressed

variable {p holder : Speaker} {r : Room} {raw payload : Text}

/-- A private message to a name that can be written in an address is handed to its holder. -/
theorem utters_to_holder (hw : r.WF) (hp : p.TakesPart r) (hh : holder.TakesPart r)
    (hreach : holder.CanBeReached r) (hone : holder.guest? = none ∨ r.names.count holder.name = 1)
    (hraw : Message.parse raw = .ok (.incoming p.id (Chat.addressed holder.name payload)))
    (hname : holder.name ≠ []) (hmark : Wire.Marker.addressEnd ∉ holder.name) (now : Nat) :
    p.utters r raw now =
      holder.hand (p.counted r) (Message.private p.name holder.name payload).wire := by
  cases holder with
  | session s =>
    refine utters_to_session hp hraw hname hmark ?_ now
    rw [Speaker.roster_counted]
    exact named_of_takesPart hw.roster hh
  | guest id nickname =>
    obtain ⟨hd, g, hg, ht⟩ := hreach
    obtain ⟨g', hg', hnick⟩ := Option.bind_eq_some_iff.1 hh
    obtain rfl : g = g' := Option.some.inj (hg.symm.trans hg')
    obtain ⟨hmem, rfl⟩ := Bridge.guest?_some hg
    obtain ⟨hfree, hnamed⟩ := named?_of_once hmem hnick (hone.resolve_left nofun)
    refine utters_to_guest hp hraw hname hmark hw hd ?_ ?_ ?_ now
    · rw [Speaker.roster_counted]
      exact (Roster.named?_eq_none hw.roster).2 hfree
    · rw [Speaker.bridge_counted]
      exact hnamed
    · rw [Speaker.bridge_counted]
      exact ht

/-! ## Names that cannot -/

/-- What comes of chat under the id of a speaker carries what it says, or tells it that nobody has
the name that it has addressed. -/
theorem frame_of_utters {text frame : Text} {e : Event} (hp : p.TakesPart r)
    (hraw : Message.parse raw = .ok (.incoming p.id text)) (he : Sent r p.origin raw e)
    (hf : e.frame? = some frame) :
    Utterance p text frame ∨ ∃ target payload,
      Chat.parse text = .personal target payload ∧ frame = invalidName target := by
  rcases he.frame hf with ⟨q, said, hsays, hutters⟩ | ⟨-, hreply⟩
  · obtain ⟨rfl, rfl⟩ := says_unique ⟨hp, rfl, hraw⟩ hsays
    exact .inl hutters
  · cases hreply with
    | taken asks => rw [hraw] at asks; cases asks
    | answered _ asks _ => rw [hraw] at asks; cases asks
    | nobody asks one =>
      rw [hraw] at asks
      cases asks
      exact .inr ⟨_, _, one, rfl⟩

end Addressed
end Room

/-- Of a name that cannot be written in an address, only what stands before the mark is taken for
the target. -/
theorem Wire.Chat.cut_of_personal {name text target payload : Text}
    (h : parse (addressed name text) = .personal target payload)
    (hname : ¬ (name ≠ [] ∧ Marker.addressEnd ∉ name)) :
    Marker.addressEnd ∉ target ∧ ∃ rest, name = target ++ Marker.addressEnd :: rest := by
  have haddress : address? (addressed name text) = some (target, payload) := by
    unfold parse at h
    split at h
    · rename_i target' payload' e
      cases h
      exact e
    · cases h
  obtain ⟨hne, hno, htext⟩ := address?_eq_some.1 haddress
  have hother : name ≠ target := by
    rintro rfl
    exact hname ⟨hne, hno⟩
  refine ⟨hno, ?_⟩
  rcases List.append_eq_append_iff.1 (List.cons.inj htext).2 with ⟨z, rfl, hz⟩ | ⟨z, rfl, hz⟩
  · cases z with
    | nil => exact absurd (List.append_nil name).symm hother
    | cons c z =>
      obtain ⟨rfl, -⟩ := List.cons.inj hz
      exact absurd (List.mem_append_right name List.mem_cons_self) hno
  · cases z with
    | nil => exact absurd (List.append_nil target) hother
    | cons c z =>
      obtain ⟨rfl, -⟩ := List.cons.inj hz
      exact ⟨z, rfl⟩

namespace Room

/-- No frame that comes of chat for a name that cannot be written in an address is a private message
to that name. -/
theorem ne_private_of_unaddressable {p : Speaker} {name text frame : Text}
    (hname : ¬ (name ≠ [] ∧ Wire.Marker.addressEnd ∉ name))
    (h : Utterance p (Chat.addressed name text) frame ∨ ∃ target payload,
      Chat.parse (Chat.addressed name text) = .personal target payload ∧
        frame = invalidName target) :
    frame ≠ (Message.private p.name name text).wire := by
  rintro rfl
  rcases h with hutters | ⟨target, payload, one, heq⟩
  · generalize hframe : (Message.private p.name name text).wire = frame at hutters
    cases hutters with
    | all all =>
      -- the name of the speaker ends at a mark in one, at an arrow in the other
      simp only [Message.private, Message.wire, List.append_assoc,
        List.append_cancel_left_eq] at hframe
      exact absurd (List.cons.inj hframe).1 (by decide)
    | one one =>
      obtain ⟨-, rest, rfl⟩ := Chat.cut_of_personal one hname
      simp only [Message.private, Message.wire, List.append_assoc, List.cons_append,
        List.append_cancel_left_eq] at hframe
      exact absurd (List.cons.inj hframe).1 (by decide)
  · -- what the sender is told has no end mark in it
    obtain ⟨hno, rest, rfl⟩ := Chat.cut_of_personal one hname
    have hin : Wire.Marker.addressEnd ∈ invalidName target := by
      rw [← heq]
      simp [Message.private, Message.wire]
    simp only [invalidName, Message.notice, Message.wire, List.mem_append, hno, or_false] at hin
    revert hin
    decide

/-- What somebody says to the holder of a name reaches that one alone exactly if the name can be
written in an address. -/
theorem utters_reached_iff {p holder : Speaker} {r : Room} {raw text : Text} (hw : r.WF)
    (hp : p.TakesPart r) (hh : holder.TakesPart r) (hreach : holder.CanBeReached r)
    (hone : holder.guest? = none ∨ r.names.count holder.name = 1)
    (hraw : Message.parse raw = .ok (.incoming p.id (Chat.addressed holder.name text)))
    (now : Nat) :
    (p.utters r raw now).log =
        r.log ++ [holder.reached (Message.private p.name holder.name text).wire] ↔
      holder.name ≠ [] ∧ Wire.Marker.addressEnd ∉ holder.name := by
  constructor
  · intro hlog
    by_contra hname
    obtain ⟨events, hevents, hsent⟩ := utters_sent ⟨hp, rfl, hraw⟩ now
    rw [hlog] at hevents
    obtain rfl := List.append_cancel_left hevents
    have hframe := frame_of_utters hp hraw (hsent _ List.mem_cons_self) (holder.frame?_reached _)
    exact ne_private_of_unaddressable hname hframe rfl
  · rintro ⟨hname, hmark⟩
    rw [utters_to_holder hw hp hh hreach hone hraw hname hmark now,
      Speaker.log_hand (hreach.counted p), Speaker.log_counted]

/-- In every room that can come about, what a client whose id is plain sends as a private message to
the holder of a name is handed to that holder, as the private message from the client's session, and
goes to nobody else, exactly if the name is not empty and has no end mark of an address in it. It
has then been accepted by the link of the holder, or is the last in its mailbox, and all else is as
before but that a frame has been counted as received. The holder is a session whose link takes the
frame, or a guest with room in its mailbox that has the name alone; and it has, as long as everybody
is disconnected at once only while no guest has a nickname. -/
theorem reached_iff (room : Room) (moves : List Move) :
    let r := room.emptied.run moves
    (∀ {c : Client} {s : Session} {holder : Speaker} {text raw : Text},
      r.roster.lookup? c.uuid = some s → c.uuid ≠ [] → Wire.Plain c.uuid →
      holder.TakesPart r → holder.CanBeReached r →
      holder.guest? = none ∨ r.names.count holder.name = 1 →
      c.sayTo holder.name text = .sending raw .lock false → ∀ now,
      let frame := (Message.private s.name holder.name text).wire
      let r' := (r.dispatch s.link .active raw now).2
      let addressable := holder.name ≠ [] ∧ Wire.Marker.addressEnd ∉ holder.name
      (r'.log = r.log ++ [holder.reached frame] ↔ addressable) ∧
      (addressable → r' = holder.hand { r with tally := r.tally.frameReceived } frame ∧
        holder.Got frame { r with tally := { r.tally with
          framesReceived := r.tally.framesReceived + 1 } } r')) ∧
    (Spares room.emptied moves → ∀ holder : Speaker, holder.TakesPart r →
      r.names.count holder.name = 1) := by
  intro r
  have hw : r.WF := run_wf (emptied_wf room) moves
  refine ⟨?_, fun hm holder hh => ?_⟩
  · intro c s holder text raw hs hid hplain hh hreach hone hsays now frame r' addressable
    obtain rfl : (Message.incoming c.uuid (Chat.addressed holder.name text)).wire = raw :=
      (Client.Activity.sending.inj hsays).1
    have hmine : s.id = c.uuid := (Roster.lookup?_some hs).2
    have hp : (Speaker.session s).TakesPart r := by
      show r.roster.lookup? s.id = some s
      rw [hmine]
      exact hs
    have hraw : Message.parse (Message.incoming c.uuid (Chat.addressed holder.name text)).wire =
        .ok (.incoming (Speaker.session s).id (Chat.addressed holder.name text)) := by
      rw [show (Speaker.session s).id = c.uuid from hmine]
      exact Wire.parse_wire_eq_self_iff.2 ⟨hid, hplain⟩
    refine ⟨utters_reached_iff hw hp hh hreach hone hraw now, fun h => ?_⟩
    have hhanded : r' = holder.hand ((Speaker.session s).counted r) frame :=
      utters_to_holder hw hp hh hreach hone hraw h.1 h.2 now
    refine ⟨hhanded, ?_⟩
    rw [hhanded]
    exact Speaker.got_hand (counted_wf hw (.session s)) (hreach.counted (.session s)) frame
  · have hhoused : Housed r := spares_housed (emptied_housed room) hm
    refine List.count_eq_one_of_mem hhoused.names_nodup (List.mem_append.2 ?_)
    cases holder with
    | session s => exact .inl (List.mem_map_of_mem (Roster.lookup?_some hh).1)
    | guest id nickname =>
      obtain ⟨g, hg, hname⟩ := Option.bind_eq_some_iff.1 hh
      exact .inr (List.mem_filterMap.2 ⟨g, (Bridge.guest?_some hg).1, hname⟩)

/-- A client sends a guest a private message. -/
theorem reached_of_guest :
    let room : Room := { directory := .guests, bridge := .new 4 }
    let moves := [.frame ⟨1⟩ .awaitingRegister (Message.register "1".toList "bob".toList).wire 0,
      .attach "7".toList,
      .guestFrame "7".toList (Message.register "7".toList "ann".toList).wire]
    let r := room.emptied.run moves
    let c : Client := { maxFrameLength := 100, uuid := "1".toList, name := "bob".toList }
    let bob : Session := ⟨"1".toList, "bob".toList, ⟨1⟩, 1, 0⟩
    let ann : Speaker := .guest "7".toList "ann".toList
    let raw := (Message.incoming c.uuid (Chat.addressed ann.name "hi".toList)).wire
    r.roster.lookup? c.uuid = some bob ∧ ann.TakesPart r ∧ ann.CanBeReached r ∧
    r.names.count ann.name = 1 ∧ c.sayTo ann.name "hi".toList = .sending raw .lock false ∧
    (r.dispatch bob.link .active raw 0).2.log =
      r.log ++ [ann.reached (Message.private "bob".toList "ann".toList "hi".toList).wire] ∧
    (r.dispatch bob.link .active raw 0).2.bridge.guests = [⟨ann.id, some ann.name,
      [Wire.greeting ann.id, (Message.private "bob".toList "ann".toList "hi".toList).wire],
      true⟩] := by
  intro room moves r c bob ann raw
  have hs : r.roster.lookup? c.uuid = some bob := by decide
  have hh : ann.TakesPart r := by
    show r.bridge.nicknameOf? "7".toList = some "ann".toList
    decide
  have hreach : ann.CanBeReached r :=
    ⟨by decide, ⟨"7".toList, some "ann".toList, [Wire.greeting "7".toList], true⟩,
      by decide, by decide⟩
  have hone : r.names.count ann.name = 1 :=
    (reached_iff room moves).2 ⟨nofun, nofun, nofun, trivial⟩ ann hh
  refine ⟨hs, hh, hreach, hone, rfl, ?_, by decide⟩
  exact ((reached_iff room moves).1 hs (by decide) (by decide) hh hreach (.inr hone) rfl 0).1.2
    (by decide)

/-- Somebody registers under a name with the end mark of an address in it. What is sent to that name
does not arrive, and its sender is told that nobody has the part of it before the mark. -/
theorem not_reached_of_mark :
    let r := (emptied {}).run [
      .frame ⟨1⟩ .awaitingRegister (Message.register "1".toList "bob".toList).wire 0,
      .frame ⟨2⟩ .awaitingRegister (Message.register "2".toList "a#b".toList).wire 0]
    let c : Client := { maxFrameLength := 100, uuid := "1".toList, name := "bob".toList }
    let bob : Session := ⟨"1".toList, "bob".toList, ⟨1⟩, 1, 0⟩
    let holder : Speaker := .session ⟨"2".toList, "a#b".toList, ⟨2⟩, 2, 0⟩
    let raw := (Message.incoming c.uuid (Chat.addressed holder.name "hi".toList)).wire
    let r' := (r.dispatch bob.link .active raw 0).2
    r.roster.lookup? c.uuid = some bob ∧ Wire.Plain c.uuid ∧ holder.TakesPart r ∧
    holder.CanBeReached r ∧ c.sayTo holder.name "hi".toList = .sending raw .lock false ∧
    r'.log = r.log ++ [.wrote bob.link (invalidName "a".toList) .accepted] ∧
    ¬ r'.log = r.log ++
      [holder.reached (Message.private bob.name holder.name "hi".toList).wire] := by
  intro r c bob holder raw r'
  have hh : holder.TakesPart r := by
    show r.roster.lookup? "2".toList = some ⟨"2".toList, "a#b".toList, ⟨2⟩, 2, 0⟩
    decide
  exact ⟨by decide, by decide, hh, fun _ => rfl, rfl, by decide, by decide⟩

end Room
end Parley
