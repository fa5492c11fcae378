/-
The question whether a name is taken has one answer, whoever asks and however: by a datagram, over
the bridge, or by trying to register or to reserve the name (`questions_agree`).

A question that comes without a connection is read without the line ends after it, one from a guest
is read as it is and then once more without them. The mark of a question does not end in a line end,
so no more is lost of either than what ends the name.
-/
import Parley.Proofs.Room.Private
import Parley.Proofs.Roster.Run
import Parley.Proofs.Wire.Grammar
import Parley.Server

namespace Parley

open Wire (Message Kind)

/-! ## Answers -/

/-- The line ends after a question are none of its mark. -/
theorem trimEndWhile_query (asked : Text) :
    Text.trimEndWhile isLineEnd (Wire.Marker.query ++ asked) =
      Wire.Marker.query ++ Text.trimEndWhile isLineEnd asked := by
  refine Text.trimEndWhile_append (fun c hc => ?_) asked
  obtain rfl : ' ' = c := Option.some.inj hc
  rfl

/-- A request asks about a name if it is the question for it, but for the line ends after it. -/
theorem askedName?_eq_some {request name : Text} : askedName? request = some name ↔
    name ≠ [] ∧ Text.trimEndWhile isLineEnd request = Wire.Marker.query ++ name := by
  unfold askedName?
  generalize Text.trimEndWhile isLineEnd request = trimmed
  constructor
  · intro h
    split at h
    · rename_i asked hraw
      cases h
      cases Wire.written_of_parse hraw with
      | usernameQuery hname => exact ⟨hname, rfl⟩
    · cases h
  · rintro ⟨hname, rfl⟩
    rw [Wire.parse_of_written (.usernameQuery hname)]

namespace Roster

variable {r : Roster} {name : Text}

theorem isSome_answer? {request : Text} : (r.answer? request).isSome = true ↔
    ∃ name, name ≠ [] ∧ Text.trimEndWhile isLineEnd request = Wire.Marker.query ++ name := by
  rw [answer?, Option.isSome_map, Option.isSome_iff_exists]
  exact exists_congr fun _ => askedName?_eq_some

/-- Line ends after a request do not count. -/
theorem answer?_append {ends : Text} (h : ∀ c ∈ ends, c = '\r' ∨ c = '\n') (request : Text) :
    r.answer? (request ++ ends) = r.answer? request := by
  have hends : ∀ c ∈ ends, isLineEnd c = true := by
    intro c hc
    simpa [isLineEnd] using h c hc
  rw [answer?, askedName?, Text.trimEndWhile_append_of_all hends]
  rfl

/-- Whoever asks about a name that does not end in a line end is answered about that name. -/
theorem answer?_wire (hname : name ≠ []) (hend : ∀ c ∈ name.getLast?, isLineEnd c = false) :
    r.answer? (Message.usernameQuery name).wire =
      some (if r.isActive name then Wire.Marker.duplicated else Wire.Marker.clear) := by
  have hasked : askedName? (Message.usernameQuery name).wire = some name := by
    refine askedName?_eq_some.2 ⟨hname, ?_⟩
    rw [Message.wire, trimEndWhile_query, Text.trimEndWhile_eq_self hend]
  rw [answer?, hasked, Option.map_some]

/-- Taken is what is neither to be reserved nor to be registered. -/
theorem answer?_wire_iff (hname : name ≠ []) (hend : ∀ c ∈ name.getLast?, isLineEnd c = false) :
    let reply := r.answer? (Message.usernameQuery name).wire
    (reply = some Wire.Marker.duplicated ↔ r.reserve? name = none) ∧
    (reply = some Wire.Marker.clear ↔ r.reserve? name ≠ none) ∧
    ∀ id link mark, r.contains id = false →
      (reply = some Wire.Marker.duplicated ↔ r.register? id name link mark = none) := by
  intro reply
  have hreply : reply = some (if r.isActive name then Wire.Marker.duplicated
      else Wire.Marker.clear) := answer?_wire hname hend
  have hdiffer : Wire.Marker.duplicated ≠ Wire.Marker.clear := by decide
  have htaken : reply = some Wire.Marker.duplicated ↔ r.isActive name = true := by
    rw [hreply]
    split <;> simp_all [hdiffer.symm]
  have hfree : reply = some Wire.Marker.clear ↔ ¬ r.isActive name = true := by
    rw [hreply]
    split <;> simp_all
  refine ⟨?_, ?_, fun id link mark habsent => ?_⟩
  · rw [htaken, reserve?_eq_none]
  · rw [hfree, ne_eq, reserve?_eq_none]
  · rw [htaken, register?_eq_none, habsent]
    simp

end Roster

/-! ## Where questions come in -/

/-- A datagram changes nothing but how many answers were given. -/
theorem Server.query_eq (s : Server) (datagram : List UInt8) :
    let reply := if s.running then
      s.room.roster.answer? (Text.fromUtf8 (datagram.take 1024)) else none
    s.query datagram = (reply, { s with room := { s.room with tally :=
      if reply.isSome then
        { s.room.tally with queriesAnswered := s.room.tally.queriesAnswered + 1 }
      else s.room.tally } }) := by
  obtain ⟨config, room, manager, workers, running, bound⟩ := s
  intro reply
  cases running with
  | false => rfl
  | true =>
    have hreply : reply = room.roster.answer? (Text.fromUtf8 (datagram.take 1024)) := rfl
    simp only [query, hreply]
    cases room.roster.answer? (Text.fromUtf8 (datagram.take 1024)) <;> rfl

namespace Room

section Guests

variable {r : Room} {id : SessionId} {g : Guest} {text : Text}

/-- What is read as a question of a guest is answered as a question that comes without a
connection. -/
theorem guestFrame_question (hkind : Kind.classify text = .usernameQuery) :
    r.guestFrame id text =
      (.goOn, ((r.roster.answer? text).map fun reply => (r.sendTo id reply).2).getD r) := by
  obtain ⟨header, asked, hheader, rfl⟩ := Kind.header_of_classify hkind nofun
  obtain rfl : Wire.Marker.query = header := Option.some.inj hheader
  by_cases hasked : asked = []
  · -- the mark alone asks about nothing, with line ends after it and without
    subst hasked
    have hmalformed : Message.parse Wire.Marker.query =
        .error (.malformed .usernameQuery .username) := by decide
    have hnobody : askedName? Wire.Marker.query = none := by decide
    simp only [List.append_nil, guestFrame, guestHandle, hmalformed, publishLeft, Roster.answer?,
      hnobody, Option.map_none, Option.getD_none]
  · have hread : Message.parse (Wire.Marker.query ++ asked) = .ok (.usernameQuery asked) :=
      Wire.parse_of_written (.usernameQuery hasked)
    simp only [guestFrame, guestHandle, hread, guestMessage]
    cases r.roster.answer? (Wire.Marker.query ++ asked) with
    | none => rfl
    | some reply => rfl

theorem guestFrame_answered (hw : r.WF) (hg : r.bridge.guest? id = some g)
    (htaken : g.receipt r.bridge.capacity = .taken)
    (hkind : Kind.classify text = .usernameQuery) {reply : Text}
    (hreply : r.roster.answer? text = some reply) :
    ∃ r', r.guestFrame id text = (.goOn, r') ∧ Queued r g reply r' := by
  obtain ⟨hmem, rfl⟩ := Bridge.guest?_some hg
  refine ⟨(r.sendTo g.id reply).2, ?_, queued_sendTo hw hmem htaken reply⟩
  rw [guestFrame_question hkind, hreply, Option.map_some, Option.getD_some]

theorem guestFrame_unanswered (hkind : Kind.classify text = .usernameQuery)
    (hnone : r.roster.answer? text = none) : r.guestFrame id text = (.goOn, r) := by
  rw [guestFrame_question hkind, hnone, Option.map_none, Option.getD_none]

end Guests

/-- The answer to a question by a name that is not empty and does not end in a line end is that it
is taken exactly if it cannot be reserved, and exactly if it cannot be registered under an absent
id; otherwise it is that the name is free. There is an answer to those requests that are, but for
the line ends after them, the question for some name, and line ends do not change it. A datagram
changes nothing but how many answers were given. And a guest with room in its mailbox whose frame is
classified as a question has the answer to the request that its frame is as the last in its mailbox,
and nothing else happens; if there is none, nothing happens at all. -/
theorem questions_agree (ops : List Roster.Op) (room : Room) (moves : List Move) :
    let r := Roster.run {} ops
    let q := room.emptied.run moves
    (∀ name, name ≠ [] → (∀ c ∈ name.getLast?, c ≠ '\r' ∧ c ≠ '\n') →
      let reply := r.answer? (Message.usernameQuery name).wire
      (reply = some Wire.Marker.duplicated ↔
        (∃ s ∈ r.sessions, s.name = name) ∨ name ∈ r.reserved) ∧
      (reply = some Wire.Marker.duplicated ↔ r.reserve? name = none) ∧
      (reply = some Wire.Marker.clear ↔ r.reserve? name ≠ none) ∧
      ∀ id link mark, r.contains id = false →
        (reply = some Wire.Marker.duplicated ↔ r.register? id name link mark = none)) ∧
    (∀ request, (r.answer? request).isSome = true ↔
      ∃ name, name ≠ [] ∧ Text.trimEndWhile isLineEnd request = Wire.Marker.query ++ name) ∧
    (∀ request ends, (∀ c ∈ ends, c = '\r' ∨ c = '\n') →
      r.answer? (request ++ ends) = r.answer? request) ∧
    (∀ (s : Server) datagram,
      let reply := if s.running then
        s.room.roster.answer? (Text.fromUtf8 (datagram.take 1024)) else none
      s.query datagram = (reply, { s with room := { s.room with tally :=
        if reply.isSome then
          { s.room.tally with queriesAnswered := s.room.tally.queriesAnswered + 1 }
        else s.room.tally } })) ∧
    ∀ g ∈ q.bridge.guests, g.reading = true → g.waiting.length < q.bridge.capacity →
      ∀ text, Kind.classify text = .usernameQuery →
      (∀ reply, q.roster.answer? text = some reply →
        ∃ q', q.guestFrame g.id text = (.goOn, q') ∧ Queued q g reply q') ∧
      (q.roster.answer? text = none → q.guestFrame g.id text = (.goOn, q)) := by
  intro r q
  have hw : r.WF := Roster.run_wf ops (Roster.empty_wf 0)
  have hq : q.WF := run_wf (emptied_wf room) moves
  refine ⟨fun name hname hend => ?_, fun request => Roster.isSome_answer?,
    fun request ends h => Roster.answer?_append h request, Server.query_eq,
    fun g hg hreading hspace text hkind => ⟨fun reply hreply => ?_, guestFrame_unanswered hkind⟩⟩
  · have hend : ∀ c ∈ name.getLast?, isLineEnd c = false := by
      intro c hc
      simpa [isLineEnd] using hend c hc
    have hiff := Roster.answer?_wire_iff (r := r) hname hend
    refine ⟨?_, hiff⟩
    rw [← Roster.active_iff hw, ← Roster.reserve?_eq_none]
    exact hiff.1
  · have htaken : g.receipt q.bridge.capacity = .taken :=
      Guest.receipt_eq_taken.2 ⟨hreading, hspace⟩
    exact guestFrame_answered hq (hq.guest?_eq_some.2 ⟨hg, rfl⟩) htaken hkind hreply

/-- A name that a session has is asked about, by a guest with a line end after it. -/
theorem questions_agree_of_ann :
    let ops : List Roster.Op := [.register "1".toList "ann".toList ⟨1⟩ 0, .reserve "bob".toList]
    let room : Room := { bridge := .new 4 }
    let moves : List Move := [.register "1".toList "ann".toList ⟨1⟩ 0, .attach "7".toList]
    let r := Roster.run {} ops
    let q := room.emptied.run moves
    let question := (Message.usernameQuery "ann".toList).wire
    r.answer? question = some Wire.Marker.duplicated ∧ r.reserve? "ann".toList = none ∧
    r.register? "2".toList "ann".toList ⟨2⟩ 0 = none ∧
    r.answer? (question ++ ['\r', '\n']) = some Wire.Marker.duplicated ∧
    ∃ q', q.guestFrame "7".toList (question ++ ['\r', '\n']) = (.goOn, q') ∧
      q'.bridge.guests = [⟨"7".toList, none,
        [Wire.greeting "7".toList, Wire.Marker.duplicated], true⟩] := by
  intro ops room moves r q question
  obtain ⟨hnames, -, hends, -, hguests⟩ := questions_agree ops room moves
  obtain ⟨hheld, hreserved, -, hregistered⟩ := hnames "ann".toList (by decide) fun c hc => by
    obtain rfl : 'n' = c := Option.some.inj hc
    decide
  have htaken : r.answer? question = some Wire.Marker.duplicated := hheld.2 (.inl (by decide))
  have hanswer : q.roster.answer? (question ++ ['\r', '\n']) = some Wire.Marker.duplicated := by
    decide
  let ann : Guest := ⟨"7".toList, none, [Wire.greeting "7".toList], true⟩
  obtain ⟨q', hanswered, hqueued⟩ := (hguests ann (by decide) rfl (by decide) _ (by decide)).1
    Wire.Marker.duplicated hanswer
  refine ⟨htaken, hreserved.1 htaken, ?_, ?_, q', hanswered, ?_⟩
  · exact (hregistered "2".toList ⟨2⟩ 0 (by decide)).1 htaken
  · rw [hends question ['\r', '\n'] (by simp)]
    exact htaken
  · obtain rfl := (Prod.mk.inj hanswered).2
    decide

end Room
end Parley
