/-
Who comes and who goes with the operations of a room, and what is shown of it: the lines that are
published while the feed goes on, and the links that are closed (`Shows`). A frame begins a session
and leaves the line that it has connected, ends one, closes its link and leaves the line that it has
disconnected, or does neither (`Turnover`); a sweep shows of each session that it takes out that it
was lost, and closes its link.
-/
import Parley.Proofs.Feed.Delivery
import Parley.Proofs.Room.Attendance
import Parley.Proofs.Room.Isolation
import Parley.Proofs.Room.Logs

namespace Parley

open Wire (Message Chat)

/-- The connection whose link was closed. -/
def Event.closed? : Event → Option ConnId
  | .closed conn => some conn
  | _ => none

namespace Room

/-! ## What is shown -/

/-- On the way from one room to another the feed, if it goes on, goes on further; some lines are
published and some links are closed. -/
def Tells (lines : List Text) (shut : List ConnId) (r r' : Room) : Prop :=
  r.feed.Going → r'.feed.Going ∧ ∃ events, r'.log = r.log ++ events ∧
    events.filterMap Event.published? = lines ∧ events.filterMap Event.closed? = shut

/-- Some lines are published, and no other links are closed than are told of and were before. -/
structure Shows (lines : List Text) (shut : List ConnId) (r r' : Room) : Prop where
  tells : Tells lines shut r r'
  closed : ∀ c, (r'.links c).isClosed = (decide (c ∈ shut) || (r.links c).isClosed)

section Shows

variable {a b c r r' : Room} {lines more : List Text} {shut also : List ConnId}

theorem Tells.trans (h₁ : Tells lines shut a b) (h₂ : Tells more also b c) :
    Tells (lines ++ more) (shut ++ also) a c := by
  intro hgoing
  obtain ⟨hgoing, first, hfirst, rfl, rfl⟩ := h₁ hgoing
  obtain ⟨hgoing, second, hsecond, rfl, rfl⟩ := h₂ hgoing
  refine ⟨hgoing, first ++ second, ?_, List.filterMap_append, List.filterMap_append⟩
  rw [hsecond, hfirst, List.append_assoc]

theorem Shows.trans (h₁ : Shows lines shut a b) (h₂ : Shows more also b c) :
    Shows (lines ++ more) (shut ++ also) a c := by
  refine ⟨h₁.tells.trans h₂.tells, fun conn => ?_⟩
  rw [h₂.closed, h₁.closed, ← Bool.or_assoc]
  congr 1
  simp [Bool.or_comm]

/-- Where nothing that is logged is a line or the end of a link, nothing is told. -/
theorem Tells.quiet {p : Event → Prop} (hfeed : r'.feed = r.feed) (h : Logs p r r')
    (hp : ∀ e, p e → e.published? = none ∧ e.closed? = none) : Tells [] [] r r' := by
  intro hgoing
  obtain ⟨events, hlog, hevents⟩ := h
  refine ⟨hfeed ▸ hgoing, events, hlog, List.filterMap_eq_nil_iff.2 fun e he => ?_,
    List.filterMap_eq_nil_iff.2 fun e he => ?_⟩
  · exact (hp e (hevents e he)).1
  · exact (hp e (hevents e he)).2

theorem Tells.nothing (hfeed : r'.feed = r.feed) (hlog : r'.log = r.log) : Tells [] [] r r' :=
  .quiet (p := fun _ => False) hfeed (.nothing hlog) nofun

theorem Shows.nothing (hfeed : r'.feed = r.feed) (hlog : r'.log = r.log)
    (hlinks : r'.links = r.links) : Shows [] [] r r' :=
  ⟨.nothing hfeed hlog, fun c => by rw [hlinks]; rfl⟩

theorem publish_shows (r : Room) (line : Text) : Shows [line] [] r (r.publish line) := by
  refine ⟨fun hgoing => ?_, fun c => by rw [links_publish]; rfl⟩
  rw [publish_running hgoing.running hgoing.working]
  exact ⟨⟨hgoing.running, hgoing.working⟩, [.published line], rfl, rfl, rfl⟩

theorem publishLeft_shows (r : Room) (line : Option Text) :
    Shows line.toList [] r (r.publishLeft line) := by
  cases line with
  | none => exact .nothing rfl rfl rfl
  | some line => exact publish_shows r line

theorem close_shows (r : Room) (conn : ConnId) : Shows [] [conn] r (r.close conn) := by
  refine ⟨fun hgoing => ⟨hgoing, [.closed conn], rfl, rfl, rfl⟩, fun c => ?_⟩
  rw [isClosed_close]
  congr 1
  simp

theorem write_shows (r : Room) (conn : ConnId) (frame : Text) :
    Shows [] [] r (r.write conn frame).2 := by
  refine ⟨.quiet rfl (write_logs r conn frame) ?_, (write_onlyWrites r conn frame).isClosed⟩
  rintro e ⟨outcome, rfl⟩
  exact ⟨rfl, rfl⟩

theorem broadcast_shows (r : Room) (frame : Text) (sender : Option SessionId) :
    Shows [] [] r (r.broadcast frame sender).2 := by
  have honly := broadcast_onlyWrites r frame sender
  refine ⟨.quiet honly.feed (broadcast_logs r frame sender) ?_, honly.isClosed⟩
  rintro e ⟨s, -, outcome, rfl⟩
  exact ⟨rfl, rfl⟩

theorem sendPrivate_shows (r : Room) (sender target payload : Text) :
    Shows [] [] r (r.sendPrivate sender target payload).2 := by
  have hsame : (r.sendPrivate sender target payload).2.feed = r.feed ∧
      ∀ c, ((r.sendPrivate sender target payload).2.links c).isClosed =
        (r.links c).isClosed := by
    unfold sendPrivate
    simp only
    split
    · rename_i s _
      have honly := write_onlyWrites r s.link (Message.private sender target payload).wire
      split <;> exact ⟨honly.feed, honly.isClosed⟩
    · have honly := tellDirectory_onlyEvicts r target (Message.private sender target payload).wire
      exact ⟨honly.feed, fun c => by rw [honly.links]⟩
  refine ⟨.quiet hsame.1 (sendPrivate_logs r sender target payload) fun e he => ?_, hsame.2⟩
  cases he with
  | session holds outcome => exact ⟨rfl, rfl⟩
  | guest free holds goes => rcases goes with rfl | rfl <;> exact ⟨rfl, rfl⟩
  | standIn free => exact ⟨rfl, rfl⟩

/-- What a session says shows nothing yet; its line is left for later. -/
theorem converse_shows (r : Room) (speaker : Session) (text : Text) :
    Shows [] [] r (r.converse speaker text).2 := by
  cases ht : Chat.parse text with
  | broadcast said =>
    rw [converse, ht]
    exact broadcast_shows r _ _
  | personal target payload =>
    have hsent := sendPrivate_shows r speaker.name target payload
    rw [converse_personal r speaker ht]
    simp only
    split
    · exact hsent.trans (write_shows _ speaker.link _)
    · exact hsent

end Shows

/-! ## Who comes and goes -/

/-- Those who are there afterwards and were not before, by their ids. -/
def came (r r' : Room) : List Session := r'.roster.sessions.filter (!r.roster.contains ·.id)

/-- Those who were there before and are not afterwards, by their ids. -/
def gone (r r' : Room) : List Session := r.roster.sessions.filter (!r'.roster.contains ·.id)

section Attendance

variable {r r' : Room}

theorem contains_congr (h : r'.roster.sessions.map (·.id) = r.roster.sessions.map (·.id))
    (id : SessionId) : r'.roster.contains id = r.roster.contains id := by
  have hmem : ∀ q : Room, q.roster.contains id = true ↔ id ∈ q.roster.sessions.map (·.id) :=
    fun q => Roster.contains_iff.trans List.mem_map.symm
  rw [Bool.eq_iff_iff, hmem, hmem, h]

theorem contains_of_mem {s : Session} (hs : s ∈ r.roster.sessions) :
    r.roster.contains s.id = true :=
  Roster.contains_iff.2 ⟨s, hs, rfl⟩

/-- Where the ids stay the same, nobody comes and nobody goes. -/
theorem came_gone_of_same (h : r'.roster.sessions.map (·.id) = r.roster.sessions.map (·.id)) :
    came r r' = [] ∧ gone r r' = [] := by
  constructor <;> refine List.filter_eq_nil_iff.2 fun s hs => ?_
  · rw [← contains_congr h, contains_of_mem hs]
    exact Bool.false_ne_true
  · rw [contains_congr h, contains_of_mem hs]
    exact Bool.false_ne_true

theorem came_gone_of_begins {s : Session} (fresh : r.roster.contains s.id = false)
    (h : r'.roster.sessions = r.roster.sessions ++ [s]) :
    came r r' = [s] ∧ gone r r' = [] := by
  constructor
  · have hnone : r.roster.sessions.filter (!r.roster.contains ·.id) = [] :=
      List.filter_eq_nil_iff.2 fun t ht => by
        rw [contains_of_mem ht]
        exact Bool.false_ne_true
    rw [came, h, List.filter_append, hnone, List.nil_append, List.filter_singleton, fresh]
    rfl
  · refine List.filter_eq_nil_iff.2 fun t ht => ?_
    rw [contains_of_mem (h ▸ List.mem_append_left _ ht)]
    exact Bool.false_ne_true

/-- Where those with some ids are taken out, they go and nobody comes. -/
theorem came_gone_of_filter {ids : List SessionId}
    (h : r'.roster.sessions = r.roster.sessions.filter (·.id ∉ ids)) :
    came r r' = [] ∧ gone r r' = r.roster.sessions.filter (·.id ∈ ids) := by
  constructor
  · refine List.filter_eq_nil_iff.2 fun s hs => ?_
    rw [h] at hs
    rw [contains_of_mem (List.mem_of_mem_filter hs)]
    exact Bool.false_ne_true
  · refine List.filter_congr fun s hs => ?_
    rw [Bool.eq_iff_iff, Bool.not_eq_true', ← Bool.not_eq_true, Roster.contains_iff, h,
      decide_eq_true_eq]
    constructor
    · intro hnone
      by_contra hid
      exact hnone ⟨s, List.mem_filter.2 ⟨hs, decide_eq_true hid⟩, rfl⟩
    · rintro hid ⟨t, ht, heq⟩
      have ht := of_decide_eq_true (List.mem_filter.1 ht).2
      exact ht (heq ▸ hid)

theorem filter_id_mem_of_filter {p : Session → Bool} (hw : r.roster.WF) :
    r.roster.sessions.filter (·.id ∈ (r.roster.sessions.filter p).map (·.id)) =
      r.roster.sessions.filter p := by
  refine List.filter_congr fun s hs => ?_
  rw [Bool.eq_iff_iff, decide_eq_true_eq]
  constructor
  · intro hid
    obtain ⟨t, ht, heq⟩ := List.mem_map.1 hid
    obtain ⟨hmem, ht⟩ := List.mem_filter.1 ht
    exact eq_of_key_eq hw.ids hmem hs heq ▸ ht
  · exact fun hp => List.mem_map_of_mem (List.mem_filter.2 ⟨hs, hp⟩)

theorem filter_id_eq (hw : r.roster.WF) {s : Session} (hs : s ∈ r.roster.sessions) :
    r.roster.sessions.filter (·.id ∈ [s.id]) = [s] := by
  obtain ⟨before, after, hsplit, hothers⟩ := exists_split hw.ids hs
  have hnone : ∀ part : List Session, (∀ t ∈ part, t ∈ before ++ after) →
      part.filter (·.id ∈ [s.id]) = [] := by
    refine fun part hpart => List.filter_eq_nil_iff.2 fun t ht => ?_
    simpa using hothers t (hpart t ht)
  rw [hsplit, List.filter_append, List.filter_cons_of_pos (by simp),
    hnone before fun t => List.mem_append_left _, hnone after fun t => List.mem_append_right _]
  rfl

end Attendance

/-! ## Frames -/

/-- What a frame does to the sessions, by the stages before and after it, the line that is left and
the links that are closed. -/
inductive Turnover (r : Room) (conn : ConnId) (before : Stage) (raw : Text) :
    Stage → Option Text → List ConnId → Room → Prop where
  | begins {s : Session} {r' : Room} (means : Message.parse raw = .ok (.register s.id s.name))
      (link : s.link = conn) (fresh : r.roster.contains s.id = false)
      (sessions : r'.roster.sessions = r.roster.sessions ++ [s]) :
      Turnover r conn before raw .active (some (connectedLine s.id s.name)) [] r'
  | ends {s : Session} {after : Stage} {r' : Room} (active : before = .active)
      (means : Message.parse raw = .ok (.logoff s.id)) (there : s ∈ r.roster.sessions)
      (sessions : r'.roster.sessions = r.roster.sessions.filter (·.id ∉ [s.id])) :
      Turnover r conn before raw after (some (disconnectedLine s.id)) [s.link] r'
  | stays {after : Stage} {line : Option Text} {r' : Room}
      (same : r'.roster.sessions.map (·.id) = r.roster.sessions.map (·.id))
      (kept : after = .active → before = .active) :
      Turnover r conn before raw after line [] r'

section Frames

variable {r : Room} {conn : ConnId} {raw : Text}

theorem sessions_converse (speaker : Session) (text : Text) :
    (r.converse speaker text).2.roster.sessions = r.roster.sessions :=
  congrArg Attendance.sessions (converse_talks r speaker text).attendance

theorem expel?_turnover {id : SessionId} {s : Session} {r' : Room}
    (h : r.expel? id = some (s, r')) :
    s ∈ r.roster.sessions ∧ s.id = id ∧
      r'.roster.sessions = r.roster.sessions.filter (·.id ∉ [id]) ∧ Shows [] [s.link] r r' := by
  obtain ⟨roster, hr, rfl⟩ := expel?_some h
  obtain ⟨found, hsessions, -, -⟩ := Roster.remove?_sessions hr
  obtain ⟨hs, hid⟩ := Roster.lookup?_some found
  have hgone : Shows [] [] r { r with roster, tally := r.tally.sessionClosed } :=
    .nothing rfl rfl rfl
  refine ⟨hs, hid, ?_, hgone.trans (close_shows _ s.link)⟩
  refine hsessions.trans (List.filter_congr fun t _ => ?_)
  simp

theorem handleUnregistered_turnover {message : Message} (hraw : Message.parse raw = .ok message)
    {before : Stage} (now : Nat) :
    let p := r.handleUnregistered conn now message
    ∃ shut, Turnover r conn before raw p.1.stage p.1.line shut p.2 ∧ Shows [] shut r p.2 := by
  have hstays : ∀ {line : Option Text} {r' : Room}, r'.roster = r.roster →
      Turnover r conn before raw .awaitingRegister line [] r' := fun hroster =>
    .stays (by rw [hroster]) fun h => by cases h
  cases message with
  | register id name =>
    simp only [handleUnregistered, register?]
    cases hr : r.roster.register? id name conn now with
    | none =>
      have hcounted : Shows [] [] r { r with tally := r.tally.registrationRejected } :=
        .nothing rfl rfl rfl
      exact ⟨[], hstays rfl, hcounted.trans (write_shows _ conn _)⟩
    | some roster =>
      obtain ⟨-, fresh, rfl⟩ := Roster.register?_some hr
      exact ⟨[], .begins (s := ⟨id, name, conn, _, now⟩) hraw rfl fresh rfl, .nothing rfl rfl rfl⟩
  | logoff _ | incoming _ _ | debug | usernameQuery _ | keepAlive _ | unknown _ =>
    exact ⟨[], hstays rfl, .nothing rfl rfl rfl⟩

theorem handleActive_turnover {message : Message} (hraw : Message.parse raw = .ok message)
    (now : Nat) :
    let p := r.handleActive conn now message
    ∃ shut, Turnover r conn .active raw p.1.stage p.1.line shut p.2 ∧ Shows [] shut r p.2 := by
  have hstays : ∀ {after : Stage} {line : Option Text}, Turnover r conn .active raw after line [] r :=
    .stays rfl fun _ => rfl
  cases message with
  | incoming id text =>
    simp only [handleActive]
    split
    · rename_i speaker _
      refine ⟨[], .stays ?_ fun _ => rfl, converse_shows r speaker text⟩
      rw [sessions_converse]
    · exact ⟨[], hstays, .nothing rfl rfl rfl⟩
  | logoff id =>
    simp only [handleActive]
    cases he : r.expel? id with
    | none => exact ⟨[], hstays, .nothing rfl rfl rfl⟩
    | some p =>
      obtain ⟨s, r'⟩ := p
      obtain ⟨hs, rfl, hsessions, hshows⟩ := expel?_turnover he
      exact ⟨[s.link], .ends rfl hraw hs hsessions, hshows⟩
  | keepAlive id =>
    refine ⟨[], .stays ?_ fun _ => rfl, .nothing rfl rfl rfl⟩
    show (r.touch id now).roster.sessions.map _ = _
    unfold touch
    cases ht : r.roster.touch? id now with
    | none => rfl
    | some roster =>
      obtain ⟨-, rfl⟩ := Roster.touch?_some ht
      exact Roster.map_touch _ (fun _ _ => rfl) ..
  | register _ _ | debug | usernameQuery _ | unknown _ =>
    exact ⟨[], hstays, .nothing rfl rfl rfl⟩

theorem Turnover.of_roster {before after : Stage} {line : Option Text} {shut : List ConnId}
    {q q' r' : Room} (h : Turnover q conn before raw after line shut q')
    (hq : r.roster = q.roster) (hq' : r'.roster = q'.roster) :
    Turnover r conn before raw after line shut r' := by
  cases h with
  | begins means link fresh sessions =>
    exact .begins means link (hq ▸ fresh) (by rw [hq, hq', sessions])
  | ends active means there sessions =>
    exact .ends active means (hq ▸ there) (by rw [hq, hq', sessions])
  | stays same kept => exact .stays (by rw [hq, hq', same]) kept

/-- What a frame from a connection does, and what is shown of it. -/
theorem dispatch_turnover (r : Room) (conn : ConnId) (before : Stage) (raw : Text) (now : Nat) :
    let p := r.dispatch conn before raw now
    ∃ line shut, Turnover r conn before raw p.1 line shut p.2 ∧ Shows line.toList shut r p.2 := by
  have hhandle : ∃ shut, Turnover r conn before raw (r.handle conn before raw now).1.stage
      (r.handle conn before raw now).1.line shut (r.handle conn before raw now).2 ∧
      Shows [] shut r (r.handle conn before raw now).2 := by
    have hstays : ∀ tally, ∃ shut, Turnover r conn before raw before none shut { r with tally } ∧
        Shows [] shut r { r with tally } :=
      fun tally => ⟨[], .stays rfl id, .nothing rfl rfl rfl⟩
    unfold handle
    simp only
    cases hraw : Message.parse raw with
    | error e => exact hstays _
    | ok message =>
      -- by now the frame is counted, which is nothing to the sessions
      have hcount : Shows [] [] r { r with tally := r.tally.frameReceived } := .nothing rfl rfl rfl
      have hcounted : ∀ {after : Stage} {line : Option Text} {r' : Room},
          (∃ shut, Turnover { r with tally := r.tally.frameReceived } conn before raw after line shut
            r' ∧ Shows [] shut { r with tally := r.tally.frameReceived } r') →
          ∃ shut, Turnover r conn before raw after line shut r' ∧ Shows [] shut r r' :=
        fun ⟨shut, hturn, hshows⟩ =>
          ⟨shut, hturn.of_roster rfl rfl, hcount.trans hshows⟩
      cases before with
      | accepted | awaitingRegister => exact hcounted (handleUnregistered_turnover hraw now)
      | active => exact hcounted (handleActive_turnover hraw now)
      | closed => exact hstays _
  obtain ⟨shut, hturn, hshows⟩ := hhandle
  have hleft := publishLeft_shows (r.handle conn before raw now).2
    (r.handle conn before raw now).1.line
  obtain ⟨feed, log, hlast⟩ := publishLeft_eq (r.handle conn before raw now).2
    (r.handle conn before raw now).1.line
  exact ⟨_, shut, hturn.of_roster rfl (congrArg (·.roster) hlast),
    List.append_nil shut ▸ hshows.trans hleft⟩

/-- A logoff of somebody who is not there is a frame like any other, and nothing else. -/
theorem dispatch_logoff_absent {id : SessionId} (hraw : Message.parse raw = .ok (.logoff id))
    (habsent : r.roster.contains id = false) (now : Nat) :
    r.dispatch conn .active raw now =
      (.active, { r with tally := r.tally.frameReceived }) := by
  have hexpel : ({ r with tally := r.tally.frameReceived } : Room).expel? id = none := by
    rw [expel?, Roster.remove?_eq_none.2 habsent]
    rfl
  simp only [dispatch, handle, hraw, handleActive, hexpel]
  rfl

end Frames

/-! ## Ends from outside -/

section Ends

variable {r : Room}

/-- Whoever is disconnected goes, which is shown, and has its link closed. -/
theorem disconnect?_turnover {id : SessionId} {s : Session} {r' : Room}
    (h : r.disconnect? id = some (s, r')) :
    s ∈ r.roster.sessions ∧ s.id = id ∧
      r'.roster.sessions = r.roster.sessions.filter (·.id ∉ [id]) ∧
      Shows [disconnectedLine id] [s.link] r r' := by
  obtain ⟨⟨s', r₁⟩, he, h⟩ := Option.map_eq_some_iff.1 h
  cases h
  obtain ⟨hs, hid, hsessions, hshows⟩ := expel?_turnover he
  refine ⟨hs, hid, ?_, hshows.trans (publish_shows r₁ _)⟩
  rw [roster_publish]
  exact hsessions

theorem disconnect?_absent {id : SessionId} (h : r.roster.contains id = false) :
    r.disconnect? id = none := by
  rw [disconnect?, expel?, Roster.remove?_eq_none.2 h]
  rfl

/-- The end of a worker closes its link, and takes out the session that is bound to it, if there is
one, which is shown. -/
theorem finish_turnover (hw : r.roster.WF) (w : Worker) :
    (w.conn ∉ r.boundLinks ∧ (w.finish r).1 = r.close w.conn) ∨
    ∃ s ∈ r.roster.sessions, s.link = w.conn ∧
      (w.finish r).1.roster.sessions = r.roster.sessions.filter (·.id ∉ [s.id]) ∧
      Shows [disconnectedLine s.id] [w.conn] r (w.finish r).1 := by
  rcases connectionLost?_cases hw w.conn with ⟨h, hunbound⟩ | ⟨s, roster, hlink, hr, h⟩
  · refine .inl ⟨hunbound, ?_⟩
    rw [Worker.finish, h]
    rfl
  · obtain ⟨found, hsessions, -, -⟩ := Roster.remove?_sessions hr
    obtain ⟨hs, -⟩ := Roster.lookup?_some found
    refine .inr ⟨s, hs, hlink, ?_, ?_⟩
    · rw [Worker.finish, h]
      show (publish _ _).roster.sessions = _
      rw [roster_publish]
      refine hsessions.trans (List.filter_congr fun t _ => ?_)
      simp
    · rw [Worker.finish, h]
      have hquiet : Shows [] [] r { r with roster, tally := r.tally.sessionClosed } :=
        .nothing rfl rfl rfl
      exact (hquiet.trans (publish_shows _ _)).trans (close_shows _ w.conn)

end Ends

/-! ## Sweeps -/

/-- A sweep takes out the sessions that it has found silent, shows of each that it was lost, and
closes its link. -/
theorem sweep_turnover (sessions : List Session) : ∀ {r : Room} {removed n : Nat},
    3 * sessions.length ≤ n → r.roster.WF → sessions ⊆ r.roster.sessions →
    (sessions.map (·.id)).Nodup →
    let q := (Sweep.run n r ⟨sessions, .announce, removed⟩).1
    q.roster.sessions = r.roster.sessions.filter (·.id ∉ sessions.map (·.id)) ∧
      Shows (sessions.map (Sweep.lostLine ·.name)) (sessions.map (·.link)) r q := by
  induction sessions with
  | nil =>
    intro r removed n _ _ _ _
    have hstill : (Sweep.run n r ⟨[], .announce, removed⟩).1 = r := by
      clear * -
      induction n with
      | zero => rfl
      | succ n ih => exact ih
    rw [hstill]
    exact ⟨(List.filter_eq_self.2 (by simp)).symm, .nothing rfl rfl rfl⟩
  | cons s rest ih =>
    intro r removed n hn hw hthere hids
    obtain ⟨n, rfl⟩ : ∃ m, n = m + 3 := ⟨n - 3, by simp at hn; omega⟩
    have hn : 3 * rest.length ≤ n := by simp at hn; omega
    obtain ⟨hs, hrest⟩ := List.cons_subset.1 hthere
    obtain ⟨hfirst, hids⟩ := List.nodup_cons.1 hids
    -- first everybody is told and the line goes out, which leaves the sessions as they are
    have htold : Shows [Sweep.lostLine s.name] [] r
        ((r.announce (Sweep.lostText s.name)).2.publish (Sweep.lostLine s.name)) :=
      (broadcast_shows r _ none).trans (publish_shows _ _)
    have hroster : ((r.announce (Sweep.lostText s.name)).2.publish
        (Sweep.lostLine s.name)).roster = r.roster :=
      (roster_publish ..).trans (announce_onlyWrites r _).roster
    generalize hq : (r.announce (Sweep.lostText s.name)).2.publish (Sweep.lostLine s.name) = q
      at htold hroster
    have hfound : r.roster.lookup? s.id = some s := (Roster.lookup?_eq_some hw).2 ⟨hs, rfl⟩
    obtain ⟨roster, hr⟩ : ∃ roster, r.roster.remove? s.id = some (s, roster) :=
      ⟨_, Roster.remove?_eq hw hfound⟩
    obtain ⟨-, hsessions, -, -⟩ := Roster.remove?_sessions hr
    -- then the session is taken out, its link is closed, and it is counted
    obtain ⟨taken, hrun, rfl, hclosed⟩ : ∃ taken : Room,
        Sweep.run (n + 3) r ⟨s :: rest, .announce, removed⟩ =
          Sweep.run n taken ⟨rest, .announce, removed + 1⟩ ∧
        taken.roster = roster ∧ Shows [] [s.link] q taken := by
      refine ⟨{ ({ q with roster } : Room).close s.link with tally := q.tally.sessionReaped },
        ?_, rfl, ?_⟩
      · simp only [Sweep.run, Sweep.step, hq, hroster, hr]
        rfl
      · have hgone : Shows [] [] q { q with roster } := .nothing rfl rfl rfl
        exact (hgone.trans (close_shows _ s.link)).trans (.nothing rfl rfl rfl)
    have hkept : rest ⊆ taken.roster.sessions := by
      intro t ht
      rw [hsessions]
      refine List.mem_filter.2 ⟨hrest ht, decide_eq_true fun heq => hfirst ?_⟩
      exact List.mem_map.2 ⟨t, ht, heq⟩
    obtain ⟨hleft, hshows⟩ := ih hn (Roster.remove?_wf hw hr) hkept hids
    simp only [hrun]
    refine ⟨?_, (htold.trans hclosed).trans hshows⟩
    rw [hleft, hsessions, List.filter_filter, List.map_cons]
    refine List.filter_congr fun t _ => ?_
    simp only [List.mem_cons, not_or, Bool.decide_and, Bool.and_comm]

theorem reap_turnover {r : Room} (hw : r.roster.WF) (now threshold : Nat) :
    let silent := r.roster.sessions.filter (Sweep.isSilent now threshold)
    (r.reap now threshold).2.roster.sessions =
      r.roster.sessions.filter (·.id ∉ silent.map (·.id)) ∧
    Shows (silent.map (Sweep.lostLine ·.name)) (silent.map (·.link)) r (r.reap now threshold).2 :=
  sweep_turnover _ (Nat.le_refl _) hw (List.filter_subset_self _)
    (nodup_map_filter hw.ids _)

end Room
end Parley
