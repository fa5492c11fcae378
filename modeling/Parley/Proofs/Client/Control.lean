/-
What makes a client stop. The end of a session and the refusal of a name reach a client as frames of
their own, and no chat can be taken for one of them, whatever is said under whatever name: it starts
with a mark of its own, it has no line end in it, and it is read as one frame at most. All else that
a room writes comes of everybody being disconnected at once, or of a registration on the connection
that it is written to (`control_is_the_servers`).
-/
import Parley.Proofs.Room.Causes
import Parley.Proofs.Wire.Passage
import Parley.Proofs.Wire.Slot

namespace Parley

open Wire (Message Chat)

/-- Chat is taken for chat, or for nothing that a client knows. -/
theorem Client.Frame.parse_incoming_cases (slot text : Text) :
    parse (Message.incoming slot text).wire = .other ∨
      ∃ sender said, parse (Message.incoming slot text).wire = .chat sender said := by
  rw [parse_incoming]
  split
  · exact .inl rfl
  · exact .inr ⟨_, _, rfl⟩

/-- The bytes of a chat message are read as one chat message, or as none if it is too long. -/
theorem Wire.chat_of_readStream {limit : Nat} {slot text : Text} {bytes : List UInt8}
    (henc : encode limit (Message.incoming slot text).wire = .ok bytes) (limit' : Nat)
    {chunks : List (List UInt8)} (hchunks : chunks.flatten = bytes) :
    (Decoder.readStream limit' chunks).1.length ≤ 1 ∧
      ∀ frame ∈ (Decoder.readStream limit' chunks).1,
        ∃ said, frame = (Message.incoming slot said).wire := by
  rw [readStream_incoming henc limit' hchunks]
  split
  · refine ⟨Nat.le_refl 1, fun frame hf => ⟨Text.dropSuffix ['\r'] text, ?_⟩⟩
    exact List.mem_singleton.1 hf
  · exact ⟨Nat.zero_le 1, nofun⟩

namespace Room

theorem Utterance.isChat {p : Speaker} {text frame : Text} (h : Utterance p text frame) :
    ∃ slot said, frame = (Message.incoming slot said).wire := by
  cases h with
  | all all => exact ⟨p.name, text, rfl⟩
  | @one target payload one => exact ⟨_, payload, rfl⟩

/-- What a move writes is chat, or takes leave of everybody, or refuses a name to the connection
that asked for it. -/
theorem Carried.written {r : Room} {m : Move} {conn : ConnId} {frame : Text} {outcome : Outcome}
    (h : Carried r (.wrote conn frame outcome) frame m) :
    (∃ slot text, frame = (Message.incoming slot text).wire) ∨
      (m = .disconnectAll ∧ frame = farewell) ∨
      ∃ stage raw now id name, m = .frame conn stage raw now ∧
        Message.parse raw = .ok (.register id name) ∧ frame = Wire.Marker.duplicated := by
  have hguest : ∀ id, ¬ ForGuest id frame (.wrote conn frame outcome) := by
    rintro id (he | he) <;> cases he
  cases h with
  | said said utters => exact .inl utters.isChat
  | @replied o raw now back reply =>
    cases o with
    | guest id => exact absurd back (hguest id)
    | connection c stage =>
      obtain ⟨outcome', he⟩ := back
      cases he
      cases reply with
      | nobody asks one => exact .inl ⟨Wire.Marker.server, _, rfl⟩
      | answered guest asks marks => cases guest
      | @taken id name asks => exact .inr (.inr ⟨stage, raw, now, id, name, rfl, asks, rfl⟩)
  | @announced text is => exact .inl ⟨Wire.Marker.server, text, is⟩
  | @told id text is => exact .inl ⟨Wire.Marker.server, text, is⟩
  | lost mem silent is => exact .inl ⟨Wire.Marker.server, _, is⟩
  | parted is => exact .inr (.inl ⟨rfl, is⟩)
  -- all others are for guests
  | greeted goes is => exact absurd goes (hguest _)
  | delivered goes => exact absurd goes (hguest _)
  | forwarded goes => exact absurd goes (hguest _)
  | served delivers goes is => exact absurd goes (hguest _)

/-- Whatever chat could be encoded, under whatever name and with whatever text, is read from its
bytes, in whatever chunks, as one frame at most, and a client takes that for chat or for nothing
that it knows; never for the end of its session or the refusal of its name. In every run, all that
is written to links is chat, but for the farewells when everybody is disconnected at once and for
the refusals of registrations, each of which goes to the connection that the registration came
from. -/
theorem control_is_the_servers (room : Room) (moves : List Move) :
    (∀ (slot text : Text) (limit limit' : Nat) (bytes : List UInt8) (chunks : List (List UInt8)),
      Wire.encode limit (Message.incoming slot text).wire = .ok bytes → chunks.flatten = bytes →
      (Wire.Decoder.readStream limit' chunks).1.length ≤ 1 ∧
      ∀ frame ∈ (Wire.Decoder.readStream limit' chunks).1,
        Client.Frame.parse frame = .other ∨
          ∃ sender said, Client.Frame.parse frame = .chat sender said) ∧
    ∃ events, (room.emptied.run moves).log = room.log ++ events ∧
      ∀ conn frame outcome, .wrote conn frame outcome ∈ events →
        (∃ slot text, frame = (Message.incoming slot text).wire) ∨
        ∃ before m after, moves = before ++ m :: after ∧
          (m = .disconnectAll ∧ frame = farewell ∨
            ∃ stage raw now id name, m = .frame conn stage raw now ∧
              Message.parse raw = .ok (.register id name) ∧ frame = Wire.Marker.duplicated) := by
  constructor
  · intro slot text limit limit' bytes chunks henc hchunks
    obtain ⟨hone, hchat⟩ := Wire.chat_of_readStream henc limit' hchunks
    refine ⟨hone, fun frame hf => ?_⟩
    obtain ⟨said, rfl⟩ := hchat frame hf
    exact Client.Frame.parse_incoming_cases slot said
  · obtain ⟨events, hlog, hcauses⟩ := run_causes moves room.emptied
    refine ⟨events, hlog, fun conn frame outcome hw => ?_⟩
    obtain ⟨before, m, after, hmoves, hcause⟩ := hcauses _ hw
    rcases (hcause.carried rfl).written with hchat | hcontrol
    · exact .inl hchat
    · exact .inr ⟨before, m, after, hmoves, hcontrol⟩

/-- Chat that says what a refusal says, and ends in a carriage return, is chat all the same. -/
theorem refusal_in_chat :
    let slot := Wire.Marker.duplicated
    let text := Wire.Marker.duplicated ++ ['\r']
    ∃ bytes, Wire.encode 1024 (Message.incoming slot text).wire = .ok bytes ∧
      (Wire.Decoder.readStream 1024 [bytes]).1 =
        [(Message.incoming slot Wire.Marker.duplicated).wire] ∧
      ∀ frame ∈ (Wire.Decoder.readStream 1024 [bytes]).1, Client.Frame.parse frame = .other ∨
        ∃ sender said, Client.Frame.parse frame = .chat sender said := by
  intro slot text
  have henc : Wire.encode 1024 (Message.incoming slot text).wire = .ok _ :=
    Wire.encode_eq_ok_iff.2 ⟨by decide, by decide, rfl⟩
  obtain ⟨hchat, -⟩ := control_is_the_servers {} []
  refine ⟨_, henc, ?_, (hchat slot text 1024 1024 _ _ henc (List.flatten_singleton)).2⟩
  rw [Wire.readStream_incoming henc 1024 List.flatten_singleton, if_pos (by decide)]
  rfl

end Room
end Parley
