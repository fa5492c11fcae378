/-
How long the frames are that come of what a session says. If every frame from a connection has come
out of a decoder with a limit, the names of the sessions are on one line (`run_oneLine`), and so is
all that a session says under its name; so it can be encoded with the same limit exactly if it is
within the limit itself. It need not be: the name takes the place of the id, a mark that was left
out is put in, and a notice has a wording of its own (`relayed_lengths`).
-/
import Parley.Proofs.Room.Attendance
import Parley.Proofs.Room.Causes
import Parley.Proofs.Wire.Incoming

namespace Parley.Room

open Wire (Message Chat)
open Text (utf8Length)

/-! ## Names -/

/-- Whether a move can happen where frames from connections come out of a decoder with a limit, and
sessions begin by frames only. -/
def Heard (limit : Nat) : Move → Prop
  | .frame _ _ raw _ => Wire.Decoder.Yields limit raw
  | .register .. => False
  | _ => True

/-- Whether the name of every session is on one line. -/
def OneLine (r : Room) : Prop := ∀ s ∈ r.roster.sessions, '\n' ∉ s.name

/-- The name of a session that begins is read off a frame. -/
theorem line_of_begins {limit : Nat} {m : Move} (hm : Heard limit m) {id : SessionId}
    {name : Text} {conn : ConnId} {mark : Nat} {counted : Bool}
    (h : Begins m id name conn mark counted) : '\n' ∉ name := by
  cases counted with
  | false =>
    subst h
    exact hm.elim
  | true =>
    obtain ⟨stage, raw, rfl, hraw⟩ := h
    intro hline
    exact hm.line (Wire.name_subset_of_register hraw hline)

theorem step_oneLine {r : Room} (hw : r.roster.WF) (hr : OneLine r) {limit : Nat} {m : Move}
    (hm : Heard limit m) : OneLine (r.step m) := by
  intro s hs
  have hsessions : s ∈ ((r.deeds m).foldl Attendance.after r.attendance).sessions := by
    rw [← attendance_step hw m]
    exact hs
  cases does r m with
  | begins id name conn mark counted hdeeds fresh origin =>
    rw [hdeeds] at hsessions
    rcases List.mem_append.1 hsessions with hold | hnew
    · exact hr s hold
    · obtain rfl := List.mem_singleton.1 hnew
      exact line_of_begins hm origin
  | marks id mark hdeeds =>
    rw [hdeeds] at hsessions
    obtain ⟨old, hold, rfl⟩ := List.mem_map.1 hsessions
    split
    · exact hr old hold
    · exact hr old hold
  | ends hends => exact hr s ((Attendance.foldl_ends hends r.attendance).1.subset hsessions)
  | clears hall =>
    subst hall
    cases hsessions

theorem run_oneLine {limit : Nat} {moves : List Move} (hm : ∀ m ∈ moves, Heard limit m) :
    ∀ {r : Room}, r.WF → OneLine r → OneLine (r.run moves) := by
  induction moves with
  | nil => exact fun _ hr => hr
  | cons m rest ih =>
    intro r hw hr
    have hfirst := step_oneLine hw.roster hr (hm m List.mem_cons_self)
    exact ih (fun m' hm' => hm m' (List.mem_cons_of_mem _ hm')) (run_wf hw [m]) hfirst

/-! ## What comes of what a session says -/

/-- The frames that come of what a session says, with their lengths: what it says to everybody, or
to the holder of one name, or that there is nobody of that name. -/
inductive Relayed (s : Session) (raw text frame : Text) : Prop where
  | all (all : Chat.parse text = .broadcast text)
      (is : frame = (Message.incoming s.name text).wire)
      (length : utf8Length frame + utf8Length s.id =
        utf8Length raw + Wire.omitted raw s.id text + utf8Length s.name)
  | one {target payload : Text} (one : Chat.parse text = .personal target payload)
      (is : frame = (Message.private s.name target payload).wire)
      (length : utf8Length frame + utf8Length s.id =
        utf8Length raw + Wire.omitted raw s.id text + utf8Length s.name + 2)
  | nobody {target payload : Text} (one : Chat.parse text = .personal target payload)
      (is : frame = invalidName target) (length : utf8Length frame = 62 + utf8Length target)

theorem utf8Length_invalidName (target : Text) :
    utf8Length (invalidName target) = 62 + utf8Length target := by
  have hserver : utf8Length Wire.Marker.server = 6 := by decide
  have hwording : utf8Length "Invalid username: ".toList = 18 := by decide
  rw [invalidName, Message.notice, Wire.utf8Length_incoming, Text.utf8Length_append, hserver,
    hwording]
  omega

theorem Sent.relayed {r : Room} {s : Session} (hs : r.roster.lookup? s.id = some s)
    {raw text : Text} (hraw : Message.parse raw = .ok (.incoming s.id text)) {e : Event}
    (he : Sent r (.connection s.link .active) raw e) {frame : Text} (hf : e.frame? = some frame) :
    Relayed s raw text frame := by
  have hlength := Wire.utf8Length_of_incoming hraw
  rcases he.frame hf with ⟨p, text', ⟨hp, ho, hsaid⟩, hutters⟩ | ⟨-, hreply⟩
  · -- nobody but the session itself can speak over its connection under its id
    rw [hraw] at hsaid
    obtain ⟨hid, rfl⟩ := Message.incoming.inj (Except.ok.inj hsaid)
    obtain rfl : p = .session s := by
      cases p with
      | guest id nickname => cases ho
      | session s' =>
        rw [show s.id = s'.id from hid, show r.roster.lookup? s'.id = some s' from hp] at hs
        rw [Option.some.inj hs]
    cases hutters with
    | all all =>
      refine .all all rfl ?_
      rw [Wire.utf8Length_incoming]
      show 38 + utf8Length s.name + utf8Length text + utf8Length s.id = _
      omega
    | @one target payload one =>
      obtain ⟨-, -, htext⟩ := Chat.of_parse_personal one
      have haddress := Wire.utf8Length_addressed target payload
      rw [← htext] at haddress
      refine .one one rfl ?_
      rw [Wire.utf8Length_private]
      show 42 + utf8Length s.name + utf8Length target + utf8Length payload + utf8Length s.id = _
      omega
  · cases hreply with
    | taken asks =>
      rw [hraw] at asks
      cases asks
    | answered guest asks marks => cases guest
    | nobody asks one =>
      rw [hraw] at asks
      obtain ⟨-, rfl⟩ := Message.incoming.inj (Except.ok.inj asks)
      exact .nobody one rfl (utf8Length_invalidName _)

theorem Relayed.line {s : Session} {raw text frame : Text} (h : Relayed s raw text frame)
    (hname : '\n' ∉ s.name) (htext : '\n' ∉ text) : '\n' ∉ frame := by
  have hwire : ∀ slot said : Text, '\n' ∉ slot → '\n' ∉ said →
      '\n' ∉ (Message.incoming slot said).wire := by
    intro slot said hslot hsaid
    have hmarks : '\n' ∉ Wire.Marker.messageLeft ∧ '\n' ∉ Wire.Marker.middle ∧
        '\n' ∉ Wire.Marker.messageRight := by decide
    simp only [Message.wire, List.mem_append, not_or]
    exact ⟨⟨⟨⟨hmarks.1, hslot⟩, hmarks.2.1⟩, hmarks.2.2⟩, hsaid⟩
  have haddress : ∀ target payload : Text, Chat.parse text = .personal target payload →
      '\n' ∉ target ∧ '\n' ∉ payload := by
    intro target payload one
    obtain ⟨-, -, rfl⟩ := Chat.of_parse_personal one
    simp only [Chat.addressed, List.cons_append, List.mem_cons, List.mem_append, not_or] at htext
    exact ⟨htext.2.1, htext.2.2.2⟩
  cases h with
  | all all is =>
    subst is
    exact hwire s.name text hname htext
  | @one target payload one is =>
    subst is
    obtain ⟨htarget, hpayload⟩ := haddress target payload one
    refine hwire _ payload ?_ hpayload
    simp only [List.mem_append, not_or]
    exact ⟨⟨hname, by decide⟩, htarget⟩
  | @nobody target payload one is =>
    subst is
    obtain ⟨htarget, -⟩ := haddress target payload one
    refine hwire _ _ (by decide) ?_
    rw [List.mem_append, not_or]
    exact ⟨by decide, htarget⟩

/-- Where all frames from connections come out of a decoder with a limit, every frame that comes of
what a session says is encoded with that limit exactly if it is within it. To everybody, it is as
long as what came, but for the name in place of the id and the mark that was left out; to the holder
of one name, two bytes more; and a notice takes 62 bytes and those of the target. -/
theorem relayed_lengths (limit : Nat) (room : Room) {moves : List Move}
    (hm : ∀ m ∈ moves, Heard limit m) {s : Session} {raw text : Text} (now : Nat) :
    let r := room.emptied.run moves
    r.roster.lookup? s.id = some s → Wire.Decoder.Yields limit raw →
    Message.parse raw = .ok (.incoming s.id text) →
    ∃ events, (r.dispatch s.link .active raw now).2.log = r.log ++ events ∧
      ∀ e ∈ events, ∀ frame, e.frame? = some frame →
        Relayed s raw text frame ∧
        Wire.encode limit frame =
          if utf8Length frame ≤ limit then .ok (Text.toUtf8 frame ++ [Wire.newline])
          else .error (.frameTooLong limit) := by
  intro r hs hyields hraw
  have hnames : OneLine r := run_oneLine hm (emptied_wf room) (fun s hs => absurd hs List.not_mem_nil)
  have hname : '\n' ∉ s.name := hnames s (Roster.lookup?_some hs).1
  have htext : '\n' ∉ text := fun hline =>
    hyields.line (Wire.text_subset_of_incoming hraw hline)
  obtain ⟨events, hlog, hsent⟩ := step_sent r (.connection s.link .active) raw now
  refine ⟨events, hlog, fun e he frame hf => ?_⟩
  have hrelayed : Relayed s raw text frame := (hsent e he).relayed hs hraw hf
  refine ⟨hrelayed, ?_⟩
  rw [Wire.encode, if_neg (hrelayed.line hname htext)]
  by_cases hfits : utf8Length frame ≤ limit
  · rw [if_neg (Nat.not_lt.2 hfits), if_pos hfits]
  · rw [if_pos (Nat.lt_of_not_le hfits), if_neg hfits]

/-- Two sessions that come by frames of at most fifty bytes; the name of the first is as long as
that allows. -/
def longNamed : List Move :=
  [.frame ⟨1⟩ .awaitingRegister "<< CONNECT >>1>>>>>Bartholomew-Montague-Huntington".toList 0,
    .frame ⟨2⟩ .awaitingRegister "<< CONNECT >>2>>>>>bob".toList 0]

theorem heard_longNamed : ∀ m ∈ longNamed, Heard 50 m := by
  intro m hm
  rcases List.mem_cons.1 hm with rfl | hm
  · exact Wire.Decoder.yields_of_fits (by decide) (by decide)
  · obtain rfl := List.mem_singleton.1 hm
    exact Wire.Decoder.yields_of_fits (by decide) (by decide)

/-- What the one with the short name says fits, with the mark that it left out. -/
theorem relayed_lengths_of_bob :
    let r := (emptied {}).run longNamed
    let bob : Session := ⟨"2".toList, "bob".toList, ⟨2⟩, 2, 0⟩
    let raw := "<< MESSAGE >>> <<<<2>>>>>hi".toList
    let frame := (Message.incoming bob.name "hi".toList).wire
    (∀ m ∈ longNamed, Heard 50 m) ∧ r.roster.lookup? bob.id = some bob ∧
    Wire.Decoder.Yields 50 raw ∧ Message.parse raw = .ok (.incoming bob.id "hi".toList) ∧
    Event.wrote ⟨1⟩ frame .accepted ∈ (r.dispatch bob.link .active raw 1).2.log ∧
    Wire.encode 50 frame = .ok (Text.toUtf8 frame ++ [Wire.newline]) := by
  intro r bob raw frame
  have hlookup : r.roster.lookup? bob.id = some bob := by decide
  have hyields : Wire.Decoder.Yields 50 raw :=
    Wire.Decoder.yields_of_fits (by decide) (by decide)
  have hraw : Message.parse raw = .ok (.incoming bob.id "hi".toList) := by decide
  obtain ⟨events, hlog, h⟩ := relayed_lengths 50 {} heard_longNamed 1 hlookup hyields hraw
  have hwrote : Event.wrote ⟨1⟩ frame .accepted ∈ (r.dispatch bob.link .active raw 1).2.log := by
    decide
  have hnew : Event.wrote ⟨1⟩ frame .accepted ∈ events := by
    rw [hlog] at hwrote
    exact (List.mem_append.1 hwrote).resolve_left (by decide)
  obtain ⟨-, hencode⟩ := h _ hnew frame rfl
  refine ⟨heard_longNamed, hlookup, hyields, hraw, hwrote, hencode.trans ?_⟩
  exact if_pos (by decide)

/-- What the one with the long name says comes out of the decoder too, but with the name in it no
encoder with that limit takes it. -/
theorem name_outgrows_limit :
    let r := (emptied {}).run longNamed
    let raw := "<< MESSAGE >>> <<<<1>>>>>hi".toList
    let frame := (Message.incoming "Bartholomew-Montague-Huntington".toList "hi".toList).wire
    (∀ m ∈ longNamed, Heard 50 m) ∧ Wire.Decoder.Yields 50 raw ∧
    (r.dispatch ⟨1⟩ .active raw 1).2.log.filterMap Event.frame? = [frame] ∧
    Wire.encode 50 frame = .error (.frameTooLong 50) := by
  refine ⟨heard_longNamed, Wire.Decoder.yields_of_fits (by decide) (by decide), ?_, ?_⟩
  · decide
  · decide

end Parley.Room
