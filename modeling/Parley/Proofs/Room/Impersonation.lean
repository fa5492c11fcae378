/-
Who can speak as the server. What the server says bears its name in the sender slot, and nothing
keeps others from that name: chat under a name is shown as the server's exactly if the name, with
the mark that follows it, starts with the server's and the mark (`shown_from_server_iff`). Apart
from those who pose as the server in this way, and from lines and frames that are handed on as they
are, only the server itself is shown as the server.
-/
import Parley.Proofs.Room.Causes
import Parley.Proofs.Wire.Slot

namespace Parley

open Wire (Message Chat)

/-! ## Slots that start like the server's -/

/-- In the slot of a private message the sender's name comes before the arrow, so a mark that fits
into no part of an arrow is at the start of the slot only as the start of the name. -/
theorem Wire.prefix_arrow_iff {mark name rest : Text} (hdash : '-' ∉ mark)
    (hend : mark.getLast? ≠ some ' ') :
    mark <+: name ++ (Marker.arrow ++ rest) ↔ mark <+: name := by
  constructor
  · intro h
    rcases List.prefix_or_prefix_of_prefix h (List.prefix_append name _) with hshort | hlong
    · exact hshort
    obtain ⟨beyond, rfl⟩ := hlong
    have hbeyond : beyond <+: ' ' :: '-' :: '>' :: ' ' :: rest :=
      (List.prefix_append_right_inj name).1 h
    rcases List.prefix_cons_iff.1 hbeyond with rfl | ⟨more, rfl, hmore⟩
    · rw [List.append_nil]
    rcases List.prefix_cons_iff.1 hmore with rfl | ⟨more, rfl, -⟩
    · -- the mark would end in the blank of the arrow
      exact absurd List.getLast?_concat hend
    · exact absurd (by simp) hdash
  · exact fun h => h.trans (List.prefix_append name _)

namespace Client.Frame

open Wire

/-- Whether a frame is shown as chat from the server. -/
def FromServer (frame : Text) : Prop := ∃ said, parse frame = .chat Marker.server said

/-- Chat is shown as the server's exactly if its slot starts like the server's. -/
theorem fromServer_iff (slot text : Text) :
    FromServer (Message.incoming slot text).wire ↔
      Marker.server ++ Marker.middle <+: slot ++ Marker.middle :=
  parse_sender_iff (by decide) (by decide)

theorem fromServer_notice (text : Text) : FromServer (Message.notice text).wire :=
  (fromServer_iff Marker.server text).2 (List.prefix_refl _)

/-- Chat is, to the letter, what the server says exactly if its slot and the marks after it start
like the server's. -/
theorem eq_notice_iff (slot text : Text) :
    (∃ said, (Message.incoming slot text).wire = (Message.notice said).wire) ↔
      Marker.server ++ Marker.middle ++ Marker.messageRight <+:
        slot ++ Marker.middle ++ Marker.messageRight := by
  have hwire : ∀ slot text, (Message.incoming slot text).wire =
      Marker.messageLeft ++ (slot ++ Marker.middle ++ Marker.messageRight ++ text) := by
    intro slot text
    simp only [Message.wire, List.append_assoc]
  constructor
  · rintro ⟨said, h⟩
    -- such a message is shown as the server's, so that its slot is as long as the server's name
    have hshown : Marker.server ++ Marker.middle <+: slot ++ Marker.middle := by
      rw [← fromServer_iff slot text, h]
      exact fromServer_notice said
    have hlen := hshown.length_le
    rw [Message.notice, hwire, hwire] at h
    refine List.prefix_of_prefix_length_le
      ⟨said, (List.append_cancel_left h).symm⟩ (List.prefix_append _ text) ?_
    simp only [List.length_append] at hlen ⊢
    omega
  · rintro ⟨beyond, h⟩
    refine ⟨beyond ++ text, ?_⟩
    rw [Message.notice, hwire, hwire, ← h, List.append_assoc _ beyond text]

/-- Only chat is shown as the server's. -/
theorem not_fromServer_of_other {frame : Text} (h : parse frame = .other ∨
    parse frame = .logoff ∨ parse frame = .nameDuplicated) : ¬ FromServer frame := by
  rintro ⟨said, hsaid⟩
  rcases h with h | h | h <;> rw [h] at hsaid <;> cases hsaid

/-- A greeting starts with no mark, so that it is no chat whatever id is in it. -/
theorem parse_greeting (id : SessionId) : parse (greeting id) = .other ∨
    parse (greeting id) = .logoff ∨ parse (greeting id) = .nameDuplicated := by
  have hkind : Kind.classify (greeting id) = .unknown := rfl
  have hparse : Message.parse (greeting id) = .ok (.unknown (greeting id)) := by
    rw [Message.parse, hkind]
  unfold parse
  split
  · exact .inr (.inr rfl)
  · rw [hparse]
    exact .inl rfl

end Client.Frame

/-! ## Speakers who pose as the server -/

/-- Whether the slot of what a speaker says starts like the server's, up to some text after the
mark: to everybody, the slot is the speaker's name; to one, it goes on with an arrow. -/
def Speaker.Poses (p : Speaker) (text after : Text) : Prop :=
  match Chat.parse text with
  | .broadcast _ =>
    Wire.Marker.server ++ Wire.Marker.middle ++ after <+: p.name ++ Wire.Marker.middle ++ after
  | .personal .. => Wire.Marker.server ++ Wire.Marker.middle ++ after <+: p.name

namespace Room

open Client.Frame

section Utterance

variable {p : Speaker} {text frame : Text} (h : Utterance p text frame)
include h

/-- What a speaker says is shown as the server's exactly if its slot starts like the server's. -/
theorem Utterance.fromServer_iff : FromServer frame ↔ p.Poses text [] := by
  unfold Speaker.Poses
  cases h with
  | all all =>
    rw [all, Client.Frame.fromServer_iff]
    simp only [List.append_nil]
  | @one target payload one =>
    have hslot : p.name ++ Wire.Marker.arrow ++ target ++ Wire.Marker.middle =
        p.name ++ (Wire.Marker.arrow ++ (target ++ Wire.Marker.middle)) := by simp
    rw [one, Message.private, Client.Frame.fromServer_iff, hslot,
      Wire.prefix_arrow_iff (by decide) (by decide)]
    simp only [List.append_nil]

/-- It is what the server itself would say exactly if that goes for the mark before the text too. -/
theorem Utterance.eq_notice_iff :
    (∃ said, frame = (Message.notice said).wire) ↔ p.Poses text Wire.Marker.messageRight := by
  unfold Speaker.Poses
  cases h with
  | all all => rw [all, Client.Frame.eq_notice_iff]
  | @one target payload one =>
    have hslot : p.name ++ Wire.Marker.arrow ++ target ++ Wire.Marker.middle ++
        Wire.Marker.messageRight = p.name ++ (Wire.Marker.arrow ++
          (target ++ Wire.Marker.middle ++ Wire.Marker.messageRight)) := by simp
    rw [one, Message.private, Client.Frame.eq_notice_iff, hslot,
      Wire.prefix_arrow_iff (by decide) (by decide)]

end Utterance

/-! ## Everybody who is shown as the server -/

/-- Why a frame that a move sends out is shown as the server's: the server says it, to all, to one,
of a lost session or to a sender whom it cannot serve; or somebody poses as the server; or it was
handed in as it is, by itself or as a line. -/
inductive AsServer (r : Room) (e : Event) (frame : Text) : Move → Prop where
  | announced {text : Text} (is : frame = (Message.notice text).wire) :
      AsServer r e frame (.announce text)
  | told {id : SessionId} {text : Text} (is : frame = (Message.notice text).wire) :
      AsServer r e frame (.tell id text)
  | lost {now threshold : Nat} {s : Session} (mem : s ∈ r.roster.sessions)
      (silent : Sweep.isSilent now threshold s = true)
      (is : frame = (Message.notice (Sweep.lostText s.name)).wire) :
      AsServer r e frame (.reap now threshold)
  | nobody {o : Origin} {raw : Text} {now : Nat} {target : Text} (back : o.Gets frame e)
      (is : frame = invalidName target) : AsServer r e frame (o.move raw now)
  | poses {o : Origin} {raw : Text} {now : Nat} {p : Speaker} {text : Text}
      (said : p.Says r o raw text) (utters : Utterance p text frame) (poses : p.Poses text []) :
      AsServer r e frame (o.move raw now)
  | delivered {name : Text} : AsServer r e frame (.deliver name frame)
  | forwarded : AsServer r e frame (.forward frame)
  | served {d : Delivery} (delivers : r.feed.delivery = some d) (is : frame = d.line) :
      AsServer r e frame .serve

theorem Carried.asServer {r : Room} {m : Move} {frame : Text} {e : Event}
    (h : Carried r e frame m) (hserver : FromServer frame) : AsServer r e frame m := by
  have hduplicated : ¬ FromServer Wire.Marker.duplicated := not_fromServer_of_other (by decide)
  have hclear : ¬ FromServer Wire.Marker.clear := not_fromServer_of_other (by decide)
  have hfarewell : ¬ FromServer farewell := not_fromServer_of_other (by decide)
  cases h with
  | said said utters => exact .poses said utters (utters.fromServer_iff.1 hserver)
  | replied back reply =>
    cases reply with
    | nobody asks one => exact .nobody back rfl
    | taken asks => exact absurd hserver hduplicated
    | answered guest asks marks =>
      rcases marks with rfl | rfl
      · exact absurd hserver hduplicated
      · exact absurd hserver hclear
  | announced is => exact .announced is
  | told is => exact .told is
  | lost mem silent is => exact .lost mem silent is
  | parted is =>
    subst is
    exact absurd hserver hfarewell
  | @greeted id goes is =>
    subst is
    exact absurd hserver (not_fromServer_of_other (parse_greeting id))
  | delivered goes => exact .delivered
  | forwarded goes => exact .forwarded
  | served delivers goes is => exact .served delivers is

/-- In every room that can come about, a frame that comes of one and does not go back to where that
came from is what its speaker says; it is shown as the server's exactly if the speaker's name starts
like the server's slot, and is what the server would say exactly if that goes for the mark before
the text too. In every run, whatever is shown as the server's was said by the server itself or by
somebody whose name starts like that, or was handed in as it is. -/
theorem shown_from_server_iff (room : Room) (moves : List Move) (o : Origin) (raw : Text)
    (now : Nat) :
    let r := room.emptied.run moves
    (∃ events, (r.step (o.move raw now)).log = r.log ++ events ∧
      ∀ e ∈ events, ∀ frame, e.frame? = some frame →
        o.Gets frame e ∧ Reply o raw frame ∨
        ∃ p text, Speaker.Says p r o raw text ∧ Utterance p text frame ∧
          (FromServer frame ↔ p.Poses text []) ∧
          ((∃ said, frame = (Message.notice said).wire) ↔
            p.Poses text Wire.Marker.messageRight)) ∧
    ∃ events, r.log = room.log ++ events ∧
      ∀ e ∈ events, ∀ frame, e.frame? = some frame → FromServer frame →
        ∃ before m after, moves = before ++ m :: after ∧
          AsServer (room.emptied.run before) e frame m := by
  intro r
  constructor
  · obtain ⟨events, hlog, hsent⟩ := step_sent r o raw now
    refine ⟨events, hlog, fun e he frame hf => ?_⟩
    rcases (hsent e he).frame hf with ⟨p, text, hsaid, hutters⟩ | hreply
    · exact .inr ⟨p, text, hsaid, hutters, hutters.fromServer_iff, hutters.eq_notice_iff⟩
    · exact .inl hreply
  · obtain ⟨events, hlog, hcauses⟩ := run_causes moves room.emptied
    refine ⟨events, hlog, fun e he frame hf hserver => ?_⟩
    obtain ⟨before, m, after, hmoves, hcause⟩ := hcauses e he
    exact ⟨before, m, after, hmoves, (hcause.carried hf).asServer hserver⟩

/-- A session gets the name of the server, and what it says is what the server would say. -/
theorem session_speaks_as_server :
    let r := (emptied {}).run [
      .frame ⟨2⟩ .awaitingRegister (Message.register "2".toList "bob".toList).wire 0,
      .frame ⟨1⟩ .awaitingRegister (Message.register "1".toList Wire.Marker.server).wire 0,
      .frame ⟨1⟩ .active (Message.incoming "1".toList "hi".toList).wire 0]
    r.written = [(⟨2⟩, (Message.notice "hi".toList).wire, .accepted)] ∧
    Client.Frame.parse (Message.notice "hi".toList).wire =
      .chat Wire.Marker.server "hi".toList := by
  decide

end Room
end Parley
