/-
What sessions say, as others see it. The frame of a message to everybody reaches the reader of
every other session as it was written; under which name it is shown there is up to the name alone.
It is shown under the name that was registered exactly if that name is plain (`shown_as_said_iff`):
nothing is escaped, so a name that runs on into the mark after it is cut short, and the rest of it
shows up in the text.
-/
import Parley.Proofs.Room.Logs
import Parley.Proofs.Wire.Grammar
import Parley.Proofs.Wire.Passage
import Parley.Proofs.Wire.Slot

namespace Parley

open Wire (Message Chat)

/-! ## Registrations -/

/-- Whoever has registered is found under the id. -/
theorem Roster.lookup?_register? {r r' : Roster} {id : SessionId} {name : Text} {conn : ConnId}
    {mark : Nat} (h : r.register? id name conn mark = some r') :
    r'.lookup? id = some ⟨id, name, conn, r.registered + 1, mark⟩ := by
  obtain ⟨-, hfree, rfl⟩ := register?_some h
  have hnone : r.sessions.find? (·.id = id) = none := by
    rw [contains, Option.isSome_eq_false_iff, Option.isNone_iff_eq_none] at hfree
    exact hfree
  show (r.sessions ++ _).find? _ = _
  rw [List.find?_append, hnone]
  simp

namespace Room

/-- A frame that makes a connection active begins a session on it. -/
theorem registered_of_dispatch {r : Room} {conn : ConnId} {stage : Stage} {raw : Text}
    {id : SessionId} {name : Text} (hraw : Message.parse raw = .ok (.register id name))
    (hasked : stage = .accepted ∨ stage = .awaitingRegister) {now : Nat}
    (hdone : (r.dispatch conn stage raw now).1 = .active) :
    ∃ s, (r.dispatch conn stage raw now).2.roster.lookup? id = some s ∧ s.name = name ∧
      s.link = conn := by
  have hhandle : r.handle conn stage raw now =
      ({ r with tally := r.tally.frameReceived } : Room).handleUnregistered conn now
        (.register id name) := by
    rcases hasked with rfl | rfl <;> simp only [handle, hraw]
  rw [dispatch, hhandle] at hdone ⊢
  simp only [handleUnregistered] at hdone ⊢
  split at hdone
  · rename_i r1 hr
    obtain ⟨roster, hroster, rfl⟩ := Option.map_eq_some_iff.1 hr
    refine ⟨⟨id, name, conn, r.roster.registered + 1, now⟩, ?_, rfl, rfl⟩
    show (publish _ _).roster.lookup? id = _
    rw [roster_publish]
    exact Roster.lookup?_register? hroster
  · cases hdone

/-! ## Messages to everybody -/

/-- What a session says to everybody is written to the others, and nothing else is. -/
theorem written_utters {r : Room} {s : Session} {raw text : Text}
    (hs : r.roster.lookup? s.id = some s) (hraw : Message.parse raw = .ok (.incoming s.id text))
    (ht : Chat.parse text = .broadcast text) (now : Nat) :
    ∃ tries : List (Session × Outcome),
      tries.map (·.1) = r.roster.sessions.filter (·.id ≠ s.id) ∧
      (r.dispatch s.link .active raw now).2.written = r.written ++ tries.map fun (t, outcome) =>
        (t.link, (Message.incoming s.name text).wire, outcome) := by
  let p := Speaker.session s
  let frame := (Message.incoming s.name text).wire
  have hutters : (r.dispatch s.link .active raw now).2 =
      ((p.counted r).broadcast frame (some s.id)).2.publish (Wire.displayLine s.name text) :=
    Speaker.utters_broadcast (p := p) hs hraw ht now
  refine ⟨(p.counted r).tries frame ((p.counted r).audience (some s.id)), ?_, ?_⟩
  · rw [map_fst_tries, audience, Speaker.roster_counted]
    exact List.filter_congr fun t _ => by simp
  · rw [hutters, written_publish, written_broadcast_tries]
    simp only [written, Speaker.log_counted, frame]

end Room

/-! ## What is shown -/

/-- A chat message whose text does not end in a carriage return passes from an encoder to a decoder
as it is. -/
theorem Wire.readStream_incoming_eq {limit limit' : Nat} {slot text : Text} {bytes : List UInt8}
    (hend : text.getLast? ≠ some '\r')
    (henc : encode limit (Message.incoming slot text).wire = .ok bytes) (hle : limit ≤ limit')
    {chunks : List (List UInt8)} (hchunks : chunks.flatten = bytes) :
    (Decoder.readStream limit' chunks).1 = [(Message.incoming slot text).wire] := by
  obtain ⟨-, hfits, -⟩ := encode_eq_ok_iff.1 henc
  rw [readStream_incoming henc limit' hchunks, if_pos (Nat.le_trans hfits hle),
    Text.dropSuffix_singleton_of_ne hend]

namespace Room

/-- A registration that succeeds begins a session with the name that is in it. From then on, and as
long as the session takes part, what it says to everybody is written to all the others in one and
the same frame. That frame can be encoded if it has no line end in it and is short enough, and it
passes through the decoder of whoever reads it as it is, in whatever chunks. What is shown for it is
chat under the registered name with the text as it was said, exactly if the name is plain; else it
is shown under the part of the name that is read off its slot, or not at all if nothing is left. -/
theorem shown_as_said_iff (r : Room) {conn : ConnId} {stage : Stage} {raw : Text} {id : SessionId}
    {name : Text} (hraw : Message.parse raw = .ok (.register id name))
    (hasked : stage = .accepted ∨ stage = .awaitingRegister) (now : Nat)
    (hdone : (r.dispatch conn stage raw now).1 = .active) (moves : List Move) :
    let begun := (r.dispatch conn stage raw now).2
    let q := begun.run moves
    (∃ s, begun.roster.lookup? id = some s ∧ s.name = name ∧ s.link = conn) ∧
    ∀ {s : Session} {said text : Text}, q.roster.lookup? s.id = some s → s.name = name →
      Message.parse said = .ok (.incoming s.id text) →
      (∀ target payload, target ≠ [] → Wire.Marker.addressEnd ∉ target →
        text ≠ Chat.addressed target payload) →
      '\n' ∉ text → text.getLast? ≠ some '\r' → ∀ later,
      let frame := (Message.incoming name text).wire
      (∃ tries : List (Session × Outcome),
        tries.map (·.1) = q.roster.sessions.filter (·.id ≠ s.id) ∧
        (q.dispatch s.link .active said later).2.written =
          q.written ++ tries.map fun (t, outcome) => (t.link, frame, outcome)) ∧
      (∀ limit, '\n' ∉ name → Text.utf8Length frame ≤ limit →
        ∃ bytes, Wire.encode limit frame = .ok bytes) ∧
      (∀ {limit limit' : Nat} {bytes : List UInt8} {chunks : List (List UInt8)},
        Wire.encode limit frame = .ok bytes → limit ≤ limit' → chunks.flatten = bytes →
        (Wire.Decoder.readStream limit' chunks).1 = [frame]) ∧
      (Client.Frame.parse frame = .chat name text ↔ Wire.Plain name) ∧
      Client.Frame.parse frame = if (Wire.readSlot name).1 = [] then .other
        else .chat (Wire.readSlot name).1 (Wire.readText name text) := by
  intro begun q
  obtain ⟨-, hname⟩ := Wire.ne_nil_of_parse_register hraw
  refine ⟨registered_of_dispatch hraw hasked hdone, ?_⟩
  intro s said text hs hnamed hsaid htext hline hend later frame
  have ht : Chat.parse text = .broadcast text := Chat.parse_of_not_addressed htext
  refine ⟨?_, ?_, ?_, ?_, Client.Frame.parse_incoming name text⟩
  · subst hnamed
    exact written_utters hs hsaid ht later
  · intro limit hnoLine hfits
    refine ⟨_, Wire.encode_eq_ok_iff.2 ⟨?_, hfits, rfl⟩⟩
    have hmarks : '\n' ∉ Wire.Marker.messageLeft ∧ '\n' ∉ Wire.Marker.middle ∧
        '\n' ∉ Wire.Marker.messageRight := by decide
    simp only [frame, Message.wire, List.mem_append, not_or]
    exact ⟨⟨⟨⟨hmarks.1, hnoLine⟩, hmarks.2.1⟩, hmarks.2.2⟩, hline⟩
  · intro limit limit' bytes chunks henc hle hchunks
    exact Wire.readStream_incoming_eq hend henc hle hchunks
  · rw [Client.Frame.parse_eq_chat_iff]
    exact and_iff_right hname

/-- What a session with a plain name says is shown to the other one as it was said. -/
theorem shown_as_said_of_plain :
    let raw := (Message.register "1".toList "bob".toList).wire
    let said := (Message.incoming "1".toList "hi".toList).wire
    let r := (emptied {}).run [.register "2".toList "ann".toList ⟨2⟩ 0]
    let begun := (r.dispatch ⟨1⟩ .awaitingRegister raw 0).2
    let frame := (Message.incoming "bob".toList "hi".toList).wire
    Message.parse raw = .ok (.register "1".toList "bob".toList) ∧
    (r.dispatch ⟨1⟩ .awaitingRegister raw 0).1 = .active ∧
    (begun.dispatch ⟨1⟩ .active said 0).2.written = [(⟨2⟩, frame, .accepted)] ∧
    Client.Frame.parse frame = .chat "bob".toList "hi".toList := by
  intro raw said r begun frame
  have hraw : Message.parse raw = .ok (.register "1".toList "bob".toList) := by decide
  have hdone : (r.dispatch ⟨1⟩ .awaitingRegister raw 0).1 = .active := by decide
  obtain ⟨-, h⟩ := shown_as_said_iff r hraw (.inr rfl) 0 hdone []
  let bob : Session := ⟨"1".toList, "bob".toList, ⟨1⟩, 2, 0⟩
  have hs : begun.roster.lookup? bob.id = some bob := by decide
  obtain ⟨-, -, -, hshown, -⟩ := @h bob said "hi".toList hs rfl (by decide)
    (fun target payload _ _ e => absurd (List.cons.inj e).1 (by decide)) (by decide) (by decide) 0
  exact ⟨hraw, hdone, by decide, hshown.2 (by decide)⟩

/-- A name that contains the mark after it, or ends in the character of that, is cut short: the
session is taken for another one, and if nothing is left of its name, its chat for no chat at
all. -/
theorem shown_under_another_name :
    let heard := fun name : Text => ((emptied {}).run [.register "2".toList "ann".toList ⟨2⟩ 0,
      .frame ⟨1⟩ .awaitingRegister (Message.register "1".toList name).wire 0,
      .frame ⟨1⟩ .active (Message.incoming "1".toList "hi".toList).wire 0]).written.map
        fun (conn, frame, _) => (conn, Client.Frame.parse frame)
    heard "bob>>>>>x".toList = [(⟨2⟩, .chat "bob".toList "x>>>>> << MESSAGE >>hi".toList)] ∧
    heard "bob>".toList = [(⟨2⟩, .chat "bob".toList "> << MESSAGE >>hi".toList)] ∧
    heard ">".toList = [(⟨2⟩, .other)] := by
  decide

end Room
end Parley
