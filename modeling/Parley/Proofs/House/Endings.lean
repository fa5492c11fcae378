/-
Every session begins once and ends once. Each move of a house begins a session, ends some, or
neither (`Passes`): where one begins, just the line that it has connected is published; where some
end, just one line for each, and the link of each is closed. What is asked for an id that is not
there changes nothing. So over any run those who came under an id are those who went, and the one
who is there (`sessions_end_once`).
-/
import Parley.Proofs.House.Bindings
import Parley.Proofs.Room.Turnover

namespace Parley.House

open Wire (Message)

/-! ## One move -/

/-- The line for a session that a move ends. -/
def endLine : Move → Session → Text
  | .reap _ _, s => Sweep.lostLine s.name
  | _, s => disconnectedLine s.id

/-- A move begins a session: its connection registers. -/
def Begins (m : Move) (s : Session) : Prop :=
  ∃ raw now, m = .frame s.link raw now ∧ Message.parse raw = .ok (.register s.id s.name)

/-- A move ends a session: somebody logs it off, it is disconnected, its connection is lost, or it
is found silent. -/
inductive Ends (m : Move) (s : Session) : Prop where
  | logoff (conn : ConnId) (raw : Text) (now : Nat) (move : m = .frame conn raw now)
      (means : Message.parse raw = .ok (.logoff s.id))
  | disconnected (move : m = .disconnect s.id)
  | lost (move : m = .finish s.link)
  | reaped (now threshold : Nat) (move : m = .reap now threshold)
      (silent : Sweep.isSilent now threshold s = true)

/-- What a move does to the sessions, with the lines that are published and the links that are
closed. -/
inductive Passes (h h' : House) (m : Move) (lines : List Text) (shut : List ConnId) : Prop where
  | begins (s : Session) (came : h.room.came h'.room = [s]) (gone : h.room.gone h'.room = [])
      (shown : lines = [connectedLine s.id s.name]) (by_move : Begins m s)
  | ends (came : h.room.came h'.room = [])
      (shown : lines = (h.room.gone h'.room).map (endLine m))
      (shut : ∀ s ∈ h.room.gone h'.room, s.link ∈ shut ∧ (h'.room.links s.link).isClosed = true)
      (by_move : ∀ s ∈ h.room.gone h'.room, Ends m s)
  | stays (came : h.room.came h'.room = []) (gone : h.room.gone h'.room = [])
      (speaks : lines = [] ∨ ∃ conn raw now, m = .frame conn raw now)

section Moves

variable {h : House} (hc : h.Agrees)

theorem Passes.nothing {h' : House} {m : Move} {shut : List ConnId}
    (hroster : h'.room.roster = h.room.roster) : Passes h h' m [] shut := by
  have hids : h'.room.roster.sessions.map (·.id) = h.room.roster.sessions.map (·.id) := by
    rw [hroster]
  obtain ⟨hcame, hgone⟩ := Room.came_gone_of_same hids
  exact .stays hcame hgone (.inl rfl)

include hc

/-- One session ends. -/
theorem Passes.one {h' : House} {m : Move} {s : Session} {line : Text} {conn : ConnId}
    (hs : s ∈ h.room.roster.sessions)
    (hsessions : h'.room.roster.sessions = h.room.roster.sessions.filter (·.id ∉ [s.id]))
    (hline : line = endLine m s) (hconn : s.link = conn)
    (hclosed : (h'.room.links conn).isClosed = true) (hmove : Ends m s) :
    Passes h h' m [line] [conn] := by
  obtain ⟨hcame, hgone⟩ := Room.came_gone_of_filter hsessions
  rw [Room.filter_id_eq hc.wf hs] at hgone
  refine .ends hcame (by rw [hgone, hline]; rfl) (fun t ht => ?_) fun t ht => ?_
  · rw [hgone, List.mem_singleton] at ht
    subst ht
    exact ⟨hconn ▸ List.mem_singleton_self _, hconn ▸ hclosed⟩
  · rw [hgone, List.mem_singleton] at ht
    subst ht
    exact hmove

theorem frame_passes (conn : ConnId) (raw : Text) (now : Nat) :
    ∃ lines shut, Room.Tells lines shut h.room (h.step (.frame conn raw now)).room ∧
      Passes h (h.step (.frame conn raw now)) (.frame conn raw now) lines shut := by
  cases hw : h.workers conn with
  | none =>
    simp only [step, hw]
    exact ⟨[], [], .nothing rfl rfl, .nothing rfl⟩
  | some w =>
    obtain rfl := hc.own conn w hw
    rw [step_frame hw]
    obtain ⟨line, shut, hturn, hshows⟩ := Room.dispatch_turnover h.room w.conn w.stage raw now
    refine ⟨line.toList, shut, hshows.tells, ?_⟩
    generalize h.room.dispatch w.conn w.stage raw now = p at hturn hshows
    obtain ⟨after, room⟩ := p
    simp only at hturn hshows
    cases hturn with
    | @begins s _ means link fresh sessions =>
      obtain ⟨hcame, hgone⟩ := Room.came_gone_of_begins fresh sessions
      exact .begins s hcame hgone rfl ⟨raw, now, by rw [link], means⟩
    | @ends s _ _ active means there sessions =>
      refine Passes.one hc there sessions rfl rfl ?_ (.logoff w.conn raw now rfl means)
      rw [room_put, hshows.closed, decide_eq_true (List.mem_singleton_self _), Bool.true_or]
    | stays same kept =>
      obtain ⟨hcame, hgone⟩ := Room.came_gone_of_same same
      exact .stays hcame hgone (.inr ⟨w.conn, raw, now, rfl⟩)

theorem reap_passes (now threshold : Nat) :
    ∃ lines shut, Room.Tells lines shut h.room (h.step (.reap now threshold)).room ∧
      Passes h (h.step (.reap now threshold)) (.reap now threshold) lines shut := by
  obtain ⟨hsessions, hshows⟩ := Room.reap_turnover hc.wf now threshold
  refine ⟨_, _, hshows.tells, ?_⟩
  obtain ⟨hcame, hgone⟩ := Room.came_gone_of_filter hsessions
  rw [Room.filter_id_mem_of_filter hc.wf] at hgone
  have hgone : h.room.gone (h.step (.reap now threshold)).room = _ := hgone
  refine .ends hcame (by rw [hgone]; rfl) (fun s hs => ?_) fun s hs => ?_
  · rw [hgone] at hs
    have hlink := List.mem_map_of_mem (f := fun s : Session => s.link) hs
    refine ⟨hlink, ?_⟩
    show ((h.room.reap now threshold).2.links s.link).isClosed = true
    rw [hshows.closed, decide_eq_true hlink, Bool.true_or]
  · rw [hgone] at hs
    exact .reaped now threshold rfl (List.mem_filter.1 hs).2

theorem disconnect_passes (id : SessionId) :
    ∃ lines shut, Room.Tells lines shut h.room (h.step (.disconnect id)).room ∧
      Passes h (h.step (.disconnect id)) (.disconnect id) lines shut := by
  cases hd : h.room.disconnect? id with
  | none =>
    simp only [step, hd]
    exact ⟨[], [], .nothing rfl rfl, .nothing rfl⟩
  | some p =>
    obtain ⟨s, room⟩ := p
    obtain ⟨hs, rfl, hsessions, hshows⟩ := Room.disconnect?_turnover hd
    simp only [step, hd]
    refine ⟨_, _, hshows.tells, Passes.one hc hs hsessions rfl rfl ?_ (.disconnected rfl)⟩
    rw [hshows.closed, decide_eq_true (List.mem_singleton_self _), Bool.true_or]

theorem finish_passes (conn : ConnId) :
    ∃ lines shut, Room.Tells lines shut h.room (h.step (.finish conn)).room ∧
      Passes h (h.step (.finish conn)) (.finish conn) lines shut := by
  cases hw : h.workers conn with
  | none =>
    simp only [step, hw]
    exact ⟨[], [], .nothing rfl rfl, .nothing rfl⟩
  | some w =>
    obtain rfl := hc.own conn w hw
    cases hn : w.ended with
    | true =>
      simp only [step, hw, hn, if_true]
      exact ⟨[], [], .nothing rfl rfl, .nothing rfl⟩
    | false =>
      rw [step_finish hw hn]
      rcases Room.finish_turnover hc.wf w with ⟨-, hclose⟩ | ⟨s, hs, hlink, hsessions, hshows⟩
      · refine ⟨[], [w.conn], ?_, .nothing ?_⟩
        · rw [room_put, hclose]
          exact (Room.close_shows h.room w.conn).tells
        · rw [room_put, hclose]
          rfl
      · refine ⟨_, _, hshows.tells, Passes.one hc hs hsessions rfl hlink ?_ (.lost (by rw [hlink]))⟩
        rw [room_put, hshows.closed, decide_eq_true (List.mem_singleton_self _), Bool.true_or]

/-- What any move but the disconnection of everybody does to the sessions, and what is told of
it. -/
theorem step_passes {m : Move} (hm : m ≠ .disconnectAll) :
    ∃ lines shut, Room.Tells lines shut h.room (h.step m).room ∧
      Passes h (h.step m) m lines shut := by
  cases m with
  | connect conn react =>
    simp only [step]
    cases h.workers conn with
    | some w => exact ⟨[], [], .nothing rfl rfl, .nothing rfl⟩
    | none => exact ⟨[], [], .nothing rfl rfl, .nothing rfl⟩
  | frame conn raw now => exact frame_passes hc conn raw now
  | reap now threshold => exact reap_passes hc now threshold
  | disconnect id => exact disconnect_passes hc id
  | disconnectAll => exact absurd rfl hm
  | order conn frame =>
    refine ⟨[], [], ?_, .nothing rfl⟩
    refine .quiet (p := fun e => ∃ outcome, e = .wrote conn frame outcome) rfl
      (.single rfl ⟨_, rfl⟩) ?_
    rintro e ⟨outcome, rfl⟩
    exact ⟨rfl, rfl⟩
  | finish conn => exact finish_passes hc conn

end Moves

/-! ## Lines -/

theorem lostLine_injective {name name' : Text} (h : Sweep.lostLine name = Sweep.lostLine name') :
    name = name' :=
  List.append_cancel_left (List.append_cancel_left h)

theorem disconnectedLine_injective {id id' : SessionId}
    (h : disconnectedLine id = disconnectedLine id') : id = id' :=
  List.append_cancel_left (List.append_cancel_right h)

theorem disconnectedLine_ne_lostLine (id : SessionId) (name : Text) :
    disconnectedLine id ≠ Sweep.lostLine name := by
  intro h
  have hfirst : some 'C' = some 'S' := congrArg List.head? h
  exact absurd hfirst (by decide)

/-- Of those who go with a move, each has one line for its end among theirs. -/
theorem count_endLine {sessions : List Session} (hids : (sessions.map (·.id)).Nodup)
    (hnames : (sessions.map (·.name)).Nodup) (m : Move) {s : Session} (hs : s ∈ sessions) :
    (sessions.map (endLine m)).count (disconnectedLine s.id) +
      (sessions.map (endLine m)).count (Sweep.lostLine s.name) = 1 := by
  have hlost : (sessions.map fun s => Sweep.lostLine s.name).Nodup := by
    have h := hnames.map (f := Sweep.lostLine) fun _ _ => lostLine_injective
    rwa [List.map_map] at h
  have hdisconnected : (sessions.map fun s => disconnectedLine s.id).Nodup := by
    have h := hids.map (f := disconnectedLine) fun _ _ => disconnectedLine_injective
    rwa [List.map_map] at h
  have hnoneLost : (sessions.map fun s => disconnectedLine s.id).count (Sweep.lostLine s.name) =
      0 := by
    refine List.count_eq_zero.2 fun hmem => ?_
    obtain ⟨t, -, heq⟩ := List.mem_map.1 hmem
    exact disconnectedLine_ne_lostLine _ _ heq
  have hnoneDisconnected : (sessions.map fun s => Sweep.lostLine s.name).count
      (disconnectedLine s.id) = 0 := by
    refine List.count_eq_zero.2 fun hmem => ?_
    obtain ⟨t, -, heq⟩ := List.mem_map.1 hmem
    exact disconnectedLine_ne_lostLine _ _ heq.symm
  cases m with
  | reap now threshold =>
    show (sessions.map fun s => Sweep.lostLine s.name).count _ +
      (sessions.map fun s => Sweep.lostLine s.name).count _ = 1
    rw [hnoneDisconnected, List.count_eq_one_of_mem hlost (List.mem_map_of_mem hs)]
  | _ =>
    show (sessions.map fun s => disconnectedLine s.id).count _ +
      (sessions.map fun s => disconnectedLine s.id).count _ = 1
    rw [hnoneLost, List.count_eq_one_of_mem hdisconnected (List.mem_map_of_mem hs)]

/-! ## Runs -/

/-- How often somebody comes under an id. -/
def comings (h : House) (id : SessionId) : List Move → Nat
  | [] => 0
  | m :: rest => (h.room.came (h.step m).room).countP (·.id = id) + (h.step m).comings id rest

/-- How often somebody goes who has come under an id. -/
def goings (h : House) (id : SessionId) : List Move → Nat
  | [] => 0
  | m :: rest => (h.room.gone (h.step m).room).countP (·.id = id) + (h.step m).goings id rest

theorem countP_id {r : Roster} (hw : r.WF) (id : SessionId) :
    r.sessions.countP (·.id = id) = (r.contains id).toNat := by
  have hcount : r.sessions.countP (·.id = id) = (r.sessions.map (·.id)).count id := by
    rw [List.count, List.countP_map]
    exact List.countP_congr fun s _ => by simp
  rw [hcount, hw.ids.count]
  have hmem : id ∈ r.sessions.map (·.id) ↔ r.contains id = true :=
    List.mem_map.trans Roster.contains_iff.symm
  cases hid : r.contains id with
  | true => rw [if_pos (hmem.2 hid)]; rfl
  | false => rw [if_neg (by rw [hmem, hid]; exact Bool.false_ne_true)]; rfl

/-- Who was not there and is has come, and who was and is not has gone. -/
theorem countP_absent {r r' : Roster} (hw' : r'.WF) (id : SessionId) :
    (r'.sessions.filter (!r.contains ·.id)).countP (·.id = id) =
      (!r.contains id && r'.contains id).toNat := by
  rw [List.countP_filter]
  cases hid : r.contains id with
  | true =>
    refine List.countP_eq_zero.2 fun s _ => ?_
    rw [Bool.and_eq_true, decide_eq_true_eq, Bool.not_eq_true']
    rintro ⟨rfl, habsent⟩
    rw [hid] at habsent
    cases habsent
  | false =>
    rw [Bool.not_false, Bool.true_and, ← countP_id hw']
    refine List.countP_congr fun s _ => ?_
    rw [Bool.and_eq_true, decide_eq_true_eq]
    refine and_iff_left_of_imp ?_
    rintro rfl
    rw [hid]
    rfl

theorem comings_eq {h : House} (hc : h.Agrees) (id : SessionId) (moves : List Move) :
    (h.room.roster.contains id).toNat + h.comings id moves =
      h.goings id moves + ((h.run moves).room.roster.contains id).toNat := by
  induction moves generalizing h with
  | nil => simp [comings, goings, run]
  | cons m rest ih =>
    have hc' := step_agrees hc m
    have hrest := ih hc'
    have hcame := countP_absent (r := h.room.roster) hc'.wf id
    have hgone := countP_absent (r := (h.step m).room.roster) hc.wf id
    simp only [comings, goings, run, Room.came, Room.gone]
    rw [hcame, hgone]
    revert hrest
    cases h.room.roster.contains id <;> cases (h.step m).room.roster.contains id <;>
      simp only [Bool.not_true, Bool.not_false, Bool.and_true, Bool.and_false,
        Bool.toNat_true, Bool.toNat_false] <;> omega

theorem step_going {h : House} (hc : h.Agrees) (hgoing : h.room.feed.Going) (m : Move) :
    (h.step m).room.feed.Going := by
  by_cases hm : m = .disconnectAll
  · subst hm
    have hfeed : h.room.disconnectAll.2.feed = h.room.feed :=
      Room.partFrom_same (·.feed) (fun _ _ _ => rfl) (fun _ _ => rfl) _ _
    show h.room.disconnectAll.2.feed.Going
    rw [hfeed]
    exact hgoing
  · obtain ⟨lines, shut, htells, -⟩ := step_passes hc hm
    exact (htells hgoing).1

theorem run_going {h : House} (hc : h.Agrees) (hgoing : h.room.feed.Going) (moves : List Move) :
    (h.run moves).room.feed.Going := by
  induction moves generalizing h with
  | nil => exact hgoing
  | cons m rest ih => exact ih (step_agrees hc m) (step_going hc hgoing m)

/-! ## Requests for those who are not there -/

section Requests

variable {h : House}

theorem step_disconnect_absent {id : SessionId} (habsent : h.room.roster.contains id = false) :
    h.step (.disconnect id) = h := by
  simp only [step, Room.disconnect?_absent habsent]

theorem step_logoff_absent (hc : h.Agrees) {id : SessionId}
    (habsent : h.room.roster.contains id = false) {conn : ConnId} {w : Worker}
    (hw : h.workers conn = some w) (hactive : w.stage = .active) {raw : Text}
    (hraw : Message.parse raw = .ok (.logoff id)) (now : Nat) :
    h.step (.frame conn raw now) =
      h.put { h.room with tally := h.room.tally.frameReceived }
        { w with received := w.received + 1 } := by
  obtain rfl := hc.own conn w hw
  rw [step_frame hw, hactive, Room.dispatch_logoff_absent hraw habsent, ← hactive]

theorem step_finish_unbound (hc : h.Agrees) {conn : ConnId} (hnone : h.sessionsOn conn = []) :
    (h.step (.finish conn)).room = h.room ∨ (h.step (.finish conn)).room = h.room.close conn := by
  cases hw : h.workers conn with
  | none => exact .inl (by simp only [step, hw])
  | some w =>
    obtain rfl := hc.own conn w hw
    cases hn : w.ended with
    | true => exact .inl (by simp only [step, hw, hn, if_true])
    | false =>
      rw [step_finish hw hn]
      rcases Room.finish_turnover hc.wf w with ⟨-, hclose⟩ | ⟨s, hs, hlink, -⟩
      · exact .inr hclose
      · exact absurd (Room.mem_boundLinks.2 ⟨s, hs, hlink⟩) (sessionsOn_eq_nil.1 hnone)

theorem step_reap_of_none_gone (hc : h.Agrees) {now threshold : Nat}
    (hnone : h.room.gone (h.step (.reap now threshold)).room = []) :
    h.step (.reap now threshold) = h := by
  obtain ⟨hsessions, -⟩ := Room.reap_turnover hc.wf now threshold
  have hgone := (Room.came_gone_of_filter hsessions).2
  rw [Room.filter_id_mem_of_filter hc.wf] at hgone
  have hsilent : h.room.roster.sessions.filter (Sweep.isSilent now threshold) = [] :=
    hgone.symm.trans hnone
  have hreap : h.room.reap now threshold = (0, h.room) := by
    simp only [Room.reap, Sweep.start, hsilent, Sweep.steps, List.length_nil, Nat.mul_zero,
      Sweep.run]
  simp only [step, hreap]

/-- A connection that comes to be active has a session that has just begun. -/
theorem came_of_active (hc : h.Agrees) {conn : ConnId} {raw : Text} {now : Nat}
    (hbefore : h.stage? conn ≠ some .active)
    (hafter : (h.step (.frame conn raw now)).stage? conn = some .active) :
    ∃ s, h.room.came (h.step (.frame conn raw now)).room = [s] ∧ s.link = conn := by
  cases hw : h.workers conn with
  | none =>
    simp only [step, hw] at hafter
    exact absurd hafter hbefore
  | some w =>
    obtain rfl := hc.own conn w hw
    rw [step_frame hw] at hafter ⊢
    rw [stage?_put, if_pos rfl] at hafter
    rw [stage?_of_workers hw] at hbefore
    obtain ⟨line, shut, hturn, -⟩ := Room.dispatch_turnover h.room w.conn w.stage raw now
    generalize h.room.dispatch w.conn w.stage raw now = p at hturn hafter
    obtain ⟨after, room⟩ := p
    simp only at hturn hafter
    cases hturn with
    | @begins s _ means link fresh sessions =>
      exact ⟨s, (Room.came_gone_of_begins fresh sessions).1, link⟩
    | ends active means there sessions => exact absurd (congrArg some active) hbefore
    | stays same kept => exact absurd (congrArg some (kept (Option.some.inj hafter))) hbefore

end Requests

/-! ## Every session -/

/-- In a house whose feed goes on, and whatever has happened in it, a move but the disconnection of
everybody that begins a session begins just this one, and publishes just the line that it has
connected; one that ends sessions publishes just one line for each, which is the one that it is lost
if it was found silent and else the one that it has disconnected, and closes its link. A connection
that comes to be active has just begun a session. Who is not there cannot be ended: being
disconnected changes nothing, being logged off is only counted as a frame, the end of a connection
without a session only closes its link, and a sweep that takes nobody out does nothing. So those who
have come under an id are those who have gone, and the one who is there. -/
theorem sessions_end_once {room : Room} (hgoing : room.feed.Going) (moves : List Move) :
    let h := (opened room).run moves
    (∀ m, m ≠ .disconnectAll →
      let h' := h.step m
      let came := h.room.came h'.room
      let gone := h.room.gone h'.room
      ∃ events, h'.room.log = h.room.log ++ events ∧
        let lines := events.filterMap Event.published?
        (∀ s ∈ came, came = [s] ∧ gone = [] ∧ lines = [connectedLine s.id s.name] ∧ Begins m s) ∧
        (∀ s ∈ gone, came = [] ∧ lines = gone.map (endLine m) ∧
          lines.count (disconnectedLine s.id) + lines.count (Sweep.lostLine s.name) = 1 ∧
          .closed s.link ∈ events ∧ (h'.room.links s.link).isClosed = true ∧ Ends m s) ∧
        (came = [] → gone = [] → lines = [] ∨ ∃ conn raw now, m = .frame conn raw now)) ∧
    (∀ conn raw now, h.stage? conn ≠ some .active →
      (h.step (.frame conn raw now)).stage? conn = some .active →
      ∃ s, h.room.came (h.step (.frame conn raw now)).room = [s] ∧ s.link = conn) ∧
    (∀ id, h.room.roster.contains id = false →
      h.step (.disconnect id) = h ∧
      ∀ conn w raw now, h.workers conn = some w → w.stage = .active →
        Message.parse raw = .ok (.logoff id) →
        h.step (.frame conn raw now) =
          h.put { h.room with tally := h.room.tally.frameReceived }
            { w with received := w.received + 1 }) ∧
    (∀ conn, h.sessionsOn conn = [] →
      (h.step (.finish conn)).room = h.room ∨
        (h.step (.finish conn)).room = h.room.close conn) ∧
    (∀ now threshold, h.room.gone (h.step (.reap now threshold)).room = [] →
      h.step (.reap now threshold) = h) ∧
    (∀ id, (opened room).comings id moves =
      (opened room).goings id moves + (h.room.roster.contains id).toNat) := by
  intro h
  have hopened : (opened room).Agrees := opened_agrees room
  have hc : h.Agrees := run_agrees hopened moves
  have hfeed : h.room.feed.Going := run_going hopened hgoing moves
  refine ⟨fun m hm => ?_, fun conn raw now => came_of_active hc, fun id habsent =>
    ⟨step_disconnect_absent habsent, fun conn w raw now hw hactive hraw =>
      step_logoff_absent hc habsent hw hactive hraw now⟩, fun conn => step_finish_unbound hc,
    fun now threshold => step_reap_of_none_gone hc, fun id => ?_⟩
  · intro h' came gone
    obtain ⟨lines, shut, htells, hpasses⟩ := step_passes hc hm
    obtain ⟨-, events, hlog, rfl, rfl⟩ := htells hfeed
    refine ⟨events, hlog, fun s hs => ?_, fun s hs => ?_, fun hcame hgone => ?_⟩
    · cases hpasses with
      | begins t hcame hgone hshown hby =>
        have hcame : came = [t] := hcame
        rw [hcame, List.mem_singleton] at hs
        subst hs
        exact ⟨hcame, hgone, hshown, hby⟩
      | ends hcame => exact absurd (hcame ▸ hs : s ∈ []) List.not_mem_nil
      | stays hcame => exact absurd (hcame ▸ hs : s ∈ []) List.not_mem_nil
    · cases hpasses with
      | begins t hcame hgone => exact absurd (hgone ▸ hs : s ∈ []) List.not_mem_nil
      | stays hcame hgone => exact absurd (hgone ▸ hs : s ∈ []) List.not_mem_nil
      | ends hcame hshown hshut hby =>
        obtain ⟨hclosed, hlink⟩ := hshut s hs
        obtain ⟨e, he, hconn⟩ := List.mem_filterMap.1 hclosed
        have heq : e = .closed s.link := by
          cases e <;> cases hconn
          rfl
        refine ⟨hcame, hshown, ?_, heq ▸ he, hlink, hby s hs⟩
        show (events.filterMap Event.published?).count _ + _ = 1
        rw [hshown]
        exact count_endLine (nodup_map_filter hc.wf.ids _) (nodup_map_filter hc.wf.names _) m hs
    · cases hpasses with
      | begins t hcame' => exact absurd (hcame'.symm.trans hcame) (List.cons_ne_nil t [])
      | ends _ hshown =>
        refine .inl (hshown.trans ?_)
        have hgone : h.room.gone h'.room = [] := hgone
        rw [hgone]
        rfl
      | stays _ _ hspeaks => exact hspeaks
  · have hcount := comings_eq hopened id moves
    have hnone : (opened room).room.roster.contains id = false := rfl
    rw [hnone, Bool.toNat_false, Nat.zero_add] at hcount
    exact hcount

/-- Ann is logged off by Bob, and her worker ends; then she comes back on another connection. -/
def annReturns : List Move := [.connect ⟨1⟩ fun _ _ => .accepted, .connect ⟨2⟩ fun _ _ => .accepted,
  .connect ⟨3⟩ fun _ _ => .accepted,
  .frame ⟨1⟩ (Message.register "a".toList "ann".toList).wire 0,
  .frame ⟨2⟩ (Message.register "b".toList "bob".toList).wire 0,
  .frame ⟨2⟩ (Message.logoff "a".toList).wire 1, .finish ⟨1⟩,
  .frame ⟨3⟩ (Message.register "a".toList "ann".toList).wire 2]

/-- After Ann's return she and Bob are lost in one sweep; she has come twice and gone once
before. -/
theorem sessions_end_once_of_return :
    ((opened {}).run annReturns).room.roster.contains "a".toList = true ∧
    (opened {}).comings "a".toList annReturns = (opened {}).goings "a".toList annReturns + 1 ∧
    ∃ events, (((opened {}).run annReturns).step (.reap 9 5)).room.log =
        ((opened {}).run annReturns).room.log ++ events ∧
      events.filterMap Event.published? =
        [Sweep.lostLine "bob".toList, Sweep.lostLine "ann".toList] ∧
      .closed ⟨3⟩ ∈ events := by
  have hthere : ((opened {}).run annReturns).room.roster.contains "a".toList = true := by
    decide +kernel
  have hgone : ((opened {}).run annReturns).room.gone
      (((opened {}).run annReturns).step (.reap 9 5)).room =
        [⟨"b".toList, "bob".toList, ⟨2⟩, 2, 0⟩, ⟨"a".toList, "ann".toList, ⟨3⟩, 3, 2⟩] := by
    decide +kernel
  have hgoing : ({} : Room).feed.Going := ⟨rfl, rfl⟩
  obtain ⟨hstep, -, -, -, -, hcount⟩ := sessions_end_once hgoing annReturns
  obtain ⟨events, hlog, -, hends, -⟩ := hstep (.reap 9 5) nofun
  rw [hgone] at hends
  obtain ⟨-, hlines, -, hclosed, -⟩ := hends _ (List.mem_cons_of_mem _ List.mem_cons_self)
  refine ⟨hthere, ?_, events, hlog, hlines, hclosed⟩
  rw [hcount, hthere, Bool.toNat_true]

end Parley.House
