/-
The order of a worker's life, whatever comes for it, in whichever order it takes what has come, and
whatever happens elsewhere between two of its steps. What is told of it is a script that it never
leaves: that it is connected, that a session has begun if one has, that it has failed if it has, and
that it is over once it is. Its stage only goes forward; frames are handled as they come; and when
it is over, its link is closed and nothing is bound to its connection. But a session that is ended
between two steps of the worker may be told of without its name, and a worker that waits for a
closing without end is never over (`told_without_name_or_end`). The invariant is `Sound`: it ties
what has been told and what is bound to what the worker is about.
-/
import Parley.Proofs.Room.Frames
import Parley.Proofs.Room.Visitors
import Parley.Proofs.Worker.Life

namespace Parley

open Wire (Message)

/-- Whether a connection has begun and is not over. -/
def Stage.IsOpen (s : Stage) : Prop := s = .awaitingRegister ∨ s = .active

theorem Stage.isVisitor_iff {s : Stage} : s.IsVisitor ↔ s.number ≤ 1 := by
  cases s <;> simp [Stage.IsVisitor, Stage.number]

/-! ## Frames of the connection itself -/

namespace Room

variable {r r' : Room} {conn : ConnId} {before after : Stage} {raw : Text}

theorem Rebinds.forward (h : Rebinds r conn before after r') : before.number ≤ after.number := by
  cases h with
  | begins unregistered wf bound same => rcases unregistered with rfl | rfl <;> decide
  | asked unregistered only => rcases unregistered with rfl | rfl <;> decide
  | stays only => exact Nat.le_refl _
  | ends only unbound => decide

/-- A connection that is bound once at most, and not at all before it is active, stays so. -/
theorem Rebinds.bearers (h : Rebinds r conn before after r') (once : (r.bearers conn).length ≤ 1)
    (visitor : before.IsVisitor → r.bearers conn = []) :
    (r'.bearers conn).length ≤ 1 ∧ (after.IsVisitor → r'.bearers conn = []) := by
  have hfewer : OnlyUnbinds r r' → (r'.bearers conn).length ≤ (r.bearers conn).length := by
    intro only
    rw [length_bearers, length_bearers]
    exact only.fewer.count_le conn
  have hnone : OnlyUnbinds r r' → r.bearers conn = [] → r'.bearers conn = [] := fun only h =>
    List.length_eq_zero_iff.1 (Nat.le_zero.1 (by rw [← List.length_nil, ← h]; exact hfewer only))
  cases h with
  | begins unregistered wf bound same =>
    have hbefore := visitor unregistered
    rw [bearers_eq_nil, ← List.count_eq_zero] at hbefore
    rw [length_bearers, bound, List.count_append, hbefore, List.count_singleton_self]
    exact ⟨Nat.le_refl _, fun h => by rcases h with h | h <;> cases h⟩
  | asked unregistered only =>
    exact ⟨Nat.le_trans (hfewer only) once, fun _ => hnone only (visitor unregistered)⟩
  | stays only => exact ⟨Nat.le_trans (hfewer only) once, fun h => hnone only (visitor h)⟩
  | ends only unbound =>
    exact ⟨Nat.le_trans (hfewer only) once, fun h => by rcases h with h | h <;> cases h⟩

/-- A visitor becomes active by a registration, and is bound under its id and name from then on. -/
theorem Turnover.joins {line : Option Text} {shut : List ConnId}
    (h : Turnover r conn before raw after line shut r') (visitor : before.IsVisitor)
    (unbound : r.bearers conn = []) (active : after = .active) :
    ∃ id name, Message.parse raw = .ok (.register id name) ∧ r'.bearers conn = [(id, name)] := by
  have hnot : before ≠ .active := by rintro rfl; rcases visitor with h | h <;> cases h
  cases h with
  | @begins s r' means link fresh sessions =>
    refine ⟨s.id, s.name, means, ?_⟩
    have hmine : [s].filter (·.link = conn) = [s] := by simp [link]
    rw [bearers, sessions, bearersOf, List.filter_append, List.map_append, hmine,
      show (r.roster.sessions.filter _).map _ = [] from unbound]
    rfl
  | ends active' means there sessions => exact absurd active' hnot
  | stays same kept => exact absurd (kept active) hnot

/-- Whoever is found bound to a connection is all that is, and if nobody is found nothing is. -/
theorem bearers_of_bound? (once : (r.bearers conn).length ≤ 1) :
    r.bearers conn = (r.roster.bound? conn).toList.map fun s => (s.id, s.name) := by
  cases hb : r.roster.bound? conn with
  | none =>
    refine List.eq_nil_iff_forall_not_mem.2 fun p hp => ?_
    obtain ⟨s, hs, hlink, -⟩ := mem_bearers.1 hp
    exact absurd hlink (by simpa using List.find?_eq_none.1 hb s hs)
  | some s =>
    obtain ⟨hs, hlink⟩ := Roster.bound?_some hb
    have hmine : (s.id, s.name) ∈ r.bearers conn := mem_bearers.2 ⟨s, hs, hlink, rfl⟩
    obtain ⟨p, hp⟩ := List.length_eq_one_iff.1
      (Nat.le_antisymm once (List.length_pos_of_mem hmine))
    rw [hp, List.mem_singleton] at hmine
    rw [hp, ← hmine]
    rfl

/-- Once whoever has the id of the session of a connection was taken out, nothing is bound to it. -/
theorem strike?_bearers {id : SessionId} (hall : ∀ p ∈ r.bearers conn, p.1 = id) :
    (((r.strike? id).map (·.2)).getD r).bearers conn = [] := by
  refine List.eq_nil_iff_forall_not_mem.2 fun p hp => ?_
  cases hr : r.roster.remove? id with
  | none =>
    simp only [strike?, hr] at hp
    obtain ⟨s, hs, -, rfl⟩ := mem_bearers.1 hp
    have hid : s.id = id := hall _ hp
    have habsent := Roster.remove?_eq_none.1 hr
    rw [← Bool.not_eq_true, Roster.contains_iff] at habsent
    exact habsent ⟨s, hs, hid⟩
  | some q =>
    obtain ⟨gone, roster⟩ := q
    simp only [strike?, hr, Option.map_some, Option.getD_some, seeOff, bearers, roster_publish,
      (Roster.remove?_sessions hr).2.1] at hp
    obtain ⟨s, hs, hlink, hother, rfl⟩ : ∃ s ∈ r.roster.sessions, s.link = conn ∧ s.id ≠ id ∧
        (s.id, s.name) = p := by simpa [bearersOf, and_assoc] using hp
    exact hother (hall (s.id, s.name) (mem_bearers.2 ⟨s, hs, hlink, rfl⟩))

end Room

namespace Worker

/-! ## What is told -/

/-- What is told of a worker until it is over: that it is connected, the session that has begun if
one has, and the failure if it has failed. -/
def script (name : Option (SessionId × Text)) (error : Option ServerError) : List Notice :=
  .connected :: ((name.map fun p => Notice.registered p.1 p.2).toList ++
    (error.map Notice.failed).toList)

/-- At a stage, the script has been told; a session only if the connection was to become active. -/
def Told (stage : Stage) (error : Option ServerError) (told : List Notice) : Prop :=
  ∃ name, told = script name error ∧ (name ≠ none → ¬ stage.IsVisitor)

theorem Told.forward {before after : Stage} {error : Option ServerError} {told : List Notice}
    (h : Told before error told) (hle : before.number ≤ after.number) : Told after error told := by
  obtain ⟨name, htold, hname⟩ := h
  refine ⟨name, htold, fun hn hv => hname hn ?_⟩
  rw [Stage.isVisitor_iff] at hv ⊢
  exact Nat.le_trans hle hv

theorem newcomer?_some {r : Room} {conn : ConnId} {before after : Stage} {id : SessionId}
    (h : newcomer? r conn before after = some id) :
    (before ≠ .active ∧ after = .active) ∧ ∃ s, r.roster.bound? conn = some s ∧ s.id = id := by
  unfold newcomer? at h
  split at h
  · rename_i hturn
    exact ⟨hturn, Option.map_eq_some_iff.1 h⟩
  · cases h

/-- The session that has begun is told of only if none had been told of before. -/
theorem Told.introduced {told : List Notice} (h : Told .awaitingRegister none told) (id : SessionId)
    (name : Text) : Told .active none (told ++ [.registered id name]) := by
  obtain ⟨known, rfl, hknown⟩ := h
  cases known with
  | some p => exact absurd (.inr rfl) (hknown nofun)
  | none => exact ⟨some (id, name), rfl, fun _ => by decide⟩

/-- What has been told, and which stage is shown, by what the worker is about. -/
def Phase.Fits (stage : Stage) (told : List Notice) : Phase → Prop
  | .new => stage = .accepted ∧ told = []
  | .waiting => stage.IsOpen ∧ Told stage none told
  | .loggingOff _ => stage = .active ∧ Told .active none told
  | .handled before => before.IsOpen ∧ before.number ≤ stage.number ∧ Told before none told
  | .introducing _ => stage = .active ∧ Told .awaitingRegister none told
  | .failing _ => Told stage none told
  | .losing | .striking _ | .closing | .shutting | .parting => ∃ error, Told stage error told
  | .finished => stage = .closed ∧ ∃ name error, told = script name error ++ [.disconnected true]

/-- The last frame asked for a session with an id and a name, and nothing else is bound. -/
def Asked (last : Option Text) (bound : List (SessionId × Text)) (id : SessionId) (name : Text) :
    Prop :=
  (∃ raw, last = some raw ∧ Message.parse raw = .ok (.register id name)) ∧
    ∀ p ∈ bound, p = (id, name)

/-- What may be bound to the connection, by what the worker is about: what the last frame asked for
once that has made it active, the session that it has found to end, and nothing after that. -/
def Phase.Binds (stage : Stage) (last : Option Text) (bound : List (SessionId × Text)) :
    Phase → Prop
  | .handled before => before ≠ .active → stage = .active → ∃ id name, Asked last bound id name
  | .introducing id => ∃ name, Asked last bound id name
  | .striking id => ∀ p ∈ bound, p.1 = id
  | .closing | .shutting | .parting | .finished => bound = []
  | .new | .waiting | .loggingOff _ | .failing _ | .losing => True

/-- What is bound may always become less. -/
theorem Phase.Binds.fewer {stage : Stage} {last : Option Text} {phase : Phase}
    {bound fewer : List (SessionId × Text)} (h : phase.Binds stage last bound)
    (hfewer : fewer.Sublist bound) : phase.Binds stage last fewer := by
  cases phase with
  | handled before =>
    intro hb ha
    obtain ⟨id, name, hlast, hall⟩ := h hb ha
    exact ⟨id, name, hlast, fun p hp => hall p (hfewer.subset hp)⟩
  | introducing id =>
    obtain ⟨name, hlast, hall⟩ := h
    exact ⟨name, hlast, fun p hp => hall p (hfewer.subset hp)⟩
  | striking id => exact fun p hp => h p (hfewer.subset hp)
  | closing | shutting | parting | finished => exact List.sublist_nil.1 (h ▸ hfewer)
  | new | waiting | loggingOff s | failing e | losing => trivial

/-- Whether the worker has closed its link. -/
def Phase.HasClosed : Phase → Prop
  | .shutting | .parting | .finished => True
  | _ => False

/-- Whether a worker has neither found a session that has begun nor waits for a closing. -/
def Phase.IsPlain : Phase → Prop
  | .introducing _ | .loggingOff _ | .shutting => False
  | _ => True

theorem Phase.IsPlain.idle {phase : Phase} (h : phase.IsPlain) : ¬ phase.AwaitsClosing := by
  cases phase with
  | loggingOff s | shutting => exact h.elim
  | _ => exact id

/-- Whether the worker waits, or has begun to leave and not looked for its session yet. -/
inductive Phase.IsOnTheWay : Phase → Prop where
  | waiting : IsOnTheWay .waiting
  | failing (e : ServerError) : IsOnTheWay (.failing e)
  | losing : IsOnTheWay .losing

theorem Phase.IsOnTheWay.plain {phase : Phase} (h : phase.IsOnTheWay) :
    (∀ stage last bound, phase.Binds stage last bound) ∧ ¬ phase.HasClosed ∧
      phase ≠ .finished := by
  cases h <;> simp [Binds, HasClosed]

namespace Life

/-- The invariant of a worker's life. -/
structure Sound (l : Life) : Prop where
  wf : l.room.WF
  once : (l.room.bearers l.worker.conn).length ≤ 1
  visitor : l.worker.stage.IsVisitor → l.room.bearers l.worker.conn = []
  binds : l.phase.Binds l.worker.stage l.frames.getLast? (l.room.bearers l.worker.conn)
  closed : l.phase.HasClosed → (l.room.links l.worker.conn).isClosed = true
  fits : l.phase.Fits l.worker.stage l.told
  ended : l.worker.ended = true ↔ l.phase = .finished
  received : l.worker.received = l.frames.length

theorem Sound.fitsTo {l : Life} (h : l.Sound) {phase : Phase} (hp : l.phase = phase) :
    phase.Fits l.worker.stage l.told :=
  hp ▸ h.fits

theorem Sound.bindsTo {l : Life} (h : l.Sound) {phase : Phase} (hp : l.phase = phase) :
    phase.Binds l.worker.stage l.frames.getLast? (l.room.bearers l.worker.conn) :=
  hp ▸ h.binds

theorem Sound.notEnded {l : Life} (h : l.Sound) {phase : Phase} (hp : l.phase = phase)
    (hgoing : phase ≠ .finished) : ¬ l.worker.ended = true :=
  fun he => hgoing (hp.symm.trans (h.ended.1 he))

section Step

variable {l : Life} (h : l.Sound)
include h

/-- What happens to the room elsewhere. -/
theorem withRoom_sound {room : Room} (hw : room.WF)
    (hfewer : (room.bearers l.worker.conn).Sublist (l.room.bearers l.worker.conn))
    (hclosed : (l.room.links l.worker.conn).isClosed = true →
      (room.links l.worker.conn).isClosed = true) : ({ l with room } : Life).Sound :=
  ⟨hw, Nat.le_trans hfewer.length_le h.once,
    fun hv => List.sublist_nil.1 (h.visitor hv ▸ hfewer), h.binds.fewer hfewer,
    fun hp => hclosed (h.closed hp), h.fits, h.ended, h.received⟩

theorem elsewhere_sound {a : Room.Act} (ha : a.isOf l.worker.conn = false) :
    ({ l with room := l.room.act a } : Life).Sound :=
  withRoom_sound h (Room.act_wf h.wf a) (Room.act_bearers h.wf.roster ha) (Room.isClosed_act a)

/-- The worker goes on: what it is about changes, what waits for it and what has been told, and all
that is known of the connection goes with it. -/
theorem turns_sound {before phase : Phase} (hp : l.phase = before) (hgoing : before ≠ .finished)
    (hlasts : phase ≠ .finished) (stream : List Arrival) (orders : List Control)
    {told : List Notice} (hfits : phase.Fits l.worker.stage told)
    (hbinds : phase.Binds l.worker.stage l.frames.getLast? (l.room.bearers l.worker.conn))
    (hclosed : phase.HasClosed → (l.room.links l.worker.conn).isClosed = true) :
    ({ l with phase, stream, orders, told } : Life).Sound :=
  ⟨h.wf, h.once, h.visitor, hbinds, hclosed, hfits,
    iff_of_false (h.notEnded hp hgoing) hlasts, h.received⟩

/-- The worker goes on its way. -/
theorem goes_sound {before phase : Phase} (hp : l.phase = before) (hgoing : before ≠ .finished)
    (hphase : phase.IsOnTheWay) (stream : List Arrival) (orders : List Control)
    {told : List Notice} (hfits : phase.Fits l.worker.stage told) :
    ({ l with phase, stream, orders, told } : Life).Sound :=
  let ⟨hbinds, hclosed, hlasts⟩ := hphase.plain
  turns_sound h hp hgoing hlasts stream orders hfits (hbinds ..) fun hh => absurd hh hclosed

theorem begin_sound (hp : l.phase = .new) : l.begin.Sound := by
  obtain ⟨hstage, htold⟩ := h.fitsTo hp
  refine ⟨h.wf, h.once, fun _ => h.visitor (.inl hstage), trivial, nofun,
    ⟨.inl rfl, none, ?_, absurd rfl⟩, iff_of_false (h.notEnded hp (by simp)) nofun, h.received⟩
  show l.told ++ [.connected] = _
  rw [htold]
  rfl

theorem read_sound (hp : l.phase = .waiting) (now : Nat) : (l.read now).Sound := by
  obtain ⟨hopen, htold⟩ := h.fitsTo hp
  have hreceived (raw : Text) : l.worker.received + 1 = (l.frames ++ [raw]).length := by
    rw [List.length_append, ← h.received]
    rfl
  unfold read
  split
  · exact h
  · rename_i raw rest hnext
    simp only
    split
    · rename_i s room hlogoff
      obtain ⟨roster, hactive, -, hr, -, rfl⟩ := Room.beginsLogoff?_some hlogoff
      have hout : Room.Changes l.room { l.room with roster, tally := l.room.tally.frameReceived } :=
        Room.remove?_changes hr rfl rfl
      obtain ⟨hroster, hguests⟩ := hout.wf h.wf
      refine ⟨⟨hroster, hguests⟩, Nat.le_trans (List.Sublist.length_le ?_) h.once, fun hv => ?_,
        trivial, False.elim, ⟨hactive, hactive ▸ htold⟩,
        iff_of_false (h.notEnded hp (by simp)) (by simp), hreceived raw⟩
      · show (Room.bearersOf _ roster.sessions).Sublist _
        rw [(Roster.remove?_sessions hr).2.1]
        exact Room.bearersOf_sublist List.filter_sublist
      · have hv : l.worker.stage.IsVisitor := hv
        rw [hactive] at hv
        exact absurd hv (by decide)
    · have hrebinds := Room.dispatch_rebinds h.wf.roster l.worker.conn l.worker.stage raw now
      obtain ⟨line, shut, hturn, -⟩ :=
        Room.dispatch_turnover l.room l.worker.conn l.worker.stage raw now
      have hwf : (l.room.dispatch l.worker.conn l.worker.stage raw now).2.WF :=
        Room.run_wf h.wf [.frame l.worker.conn l.worker.stage raw now]
      obtain ⟨honce, hvisitor⟩ := hrebinds.bearers h.once h.visitor
      refine ⟨hwf, honce, hvisitor, fun hne ha => ?_, False.elim,
        ⟨hopen, hrebinds.forward, htold⟩, iff_of_false (h.notEnded hp (by simp)) (by simp),
        hreceived raw⟩
      -- the frame has made a visitor active
      have hv : l.worker.stage.IsVisitor := .inr (hopen.resolve_right hne)
      obtain ⟨id, name, hraw, hbound⟩ := hturn.joins hv (h.visitor hv) ha
      refine ⟨id, name, ⟨raw, List.getLast?_concat .., hraw⟩, fun p hp => ?_⟩
      rw [hbound] at hp
      exact List.mem_singleton.1 hp
  · exact goes_sound h hp (by simp) .losing _ l.orders ⟨none, htold⟩
  · exact goes_sound h hp (by simp) (.failing _) _ l.orders htold

theorem heed_sound (hp : l.phase = .waiting) : l.heed.Sound := by
  obtain ⟨hopen, htold⟩ := h.fitsTo hp
  unfold heed
  split
  · exact h
  · rename_i frame rest _
    -- what is written changes neither who takes part nor which links are closed
    have hwrote : ({ l with room := House.ordered l.room l.worker.conn frame } : Life).Sound :=
      withRoom_sound h ⟨h.wf.roster, h.wf.guests⟩ (List.Sublist.refl _) fun hc =>
        (Room.isClosed_write l.room l.worker.conn l.worker.conn frame).trans hc
    cases ((l.room.links l.worker.conn).outcome frame).failure? with
    | none => exact goes_sound hwrote hp (by simp) .waiting l.stream rest ⟨hopen, htold⟩
    | some e => exact goes_sound hwrote hp (by simp) (.failing e) l.stream rest htold
  · exact goes_sound h hp (by simp) .losing l.stream _ ⟨none, htold⟩

/-! ## Going on -/

theorem look_sound {before : Stage} (hp : l.phase = .handled before) : l.goOn.Sound := by
  obtain ⟨hopen, hle, htold⟩ := h.fitsTo hp
  simp only [goOn, hp]
  cases hnew : newcomer? l.room l.worker.conn before l.worker.stage with
  | none =>
    by_cases hclosed : l.worker.stage = .closed
    · simp only [hclosed, if_true]
      exact goes_sound h hp (by simp) .losing l.stream l.orders ⟨none, htold.forward hle⟩
    · simp only [hclosed, if_false]
      have hstays : l.worker.stage.IsOpen := by
        rcases hopen with rfl | rfl <;> cases hs : l.worker.stage <;>
          simp_all [Stage.IsOpen, Stage.number]
      exact goes_sound h hp (by simp) .waiting l.stream l.orders ⟨hstays, htold.forward hle⟩
  | some id =>
    obtain ⟨⟨hb, ha⟩, s, hbound, rfl⟩ := newcomer?_some hnew
    obtain ⟨id, name, hlast, hall⟩ := h.bindsTo hp hb ha
    have hmine : (s.id, s.name) ∈ l.room.bearers l.worker.conn := by
      rw [Room.bearers_of_bound? h.once, hbound]
      exact List.mem_singleton_self _
    obtain ⟨rfl, rfl⟩ := Prod.mk.inj (hall _ hmine)
    refine turns_sound h hp (by simp) (by simp) l.stream l.orders ⟨ha, ?_⟩ ⟨_, hlast, hall⟩
      False.elim
    rwa [← hopen.resolve_right hb]

theorem introduce_sound {id : SessionId} (hp : l.phase = .introducing id) : l.goOn.Sound := by
  obtain ⟨hactive, htold⟩ := h.fitsTo hp
  simp only [goOn, hp]
  refine goes_sound h hp (by simp) .waiting l.stream l.orders ⟨.inr hactive, ?_⟩
  rw [hactive]
  exact htold.introduced id _

theorem excuse_sound {e : ServerError} (hp : l.phase = .failing e) : l.goOn.Sound := by
  obtain ⟨name, htold, hname⟩ := h.fitsTo hp
  have hexcused : Told l.worker.stage (some e) (l.told ++ [.failed e]) :=
    ⟨name, by simp [htold, script], hname⟩
  simp only [goOn, hp]
  exact goes_sound h hp (by simp) .losing l.stream l.orders ⟨some e, hexcused⟩

theorem lose_sound (hp : l.phase = .losing) : l.goOn.Sound := by
  have htold := h.fitsTo hp
  have hbound := Room.bearers_of_bound? h.once
  simp only [goOn, hp]
  cases hb : l.room.roster.bound? l.worker.conn with
  | none =>
    rw [hb] at hbound
    exact turns_sound h hp (by simp) (by simp) l.stream l.orders htold hbound False.elim
  | some s =>
    rw [hb] at hbound
    refine turns_sound h hp (by simp) (by simp) l.stream l.orders htold (fun p hmem => ?_)
      False.elim
    rw [hbound] at hmem
    rw [List.mem_singleton.1 hmem]

theorem strike_sound {id : SessionId} (hp : l.phase = .striking id) : l.goOn.Sound := by
  have hnone := Room.strike?_bearers (h.bindsTo hp)
  have htold := h.fitsTo hp
  have hwf : (((l.room.strike? id).map (·.2)).getD l.room).WF := by
    cases hs : l.room.strike? id with
    | none => exact h.wf
    | some q => exact (Room.strike?_changes hs).wf h.wf
  simp only [goOn, hp]
  refine ⟨hwf, ?_, fun _ => hnone, hnone, False.elim, htold,
    iff_of_false (h.notEnded hp (by simp)) (by simp), h.received⟩
  rw [hnone]
  exact Nat.zero_le 1

theorem close_sound (hp : l.phase = .closing) : l.goOn.Sound := by
  have hnone : l.room.bearers l.worker.conn = [] := h.bindsTo hp
  have htold := h.fitsTo hp
  have hclosed : ((l.room.close l.worker.conn).links l.worker.conn).isClosed = true := by
    rw [Room.isClosed_close, decide_eq_true rfl, Bool.true_or]
  have hroom : ({ l with room := l.room.close l.worker.conn } : Life).Sound :=
    withRoom_sound h ⟨h.wf.roster, h.wf.guests⟩ (.refl _) fun _ => hclosed
  simp only [goOn, hp]
  split
  · exact turns_sound hroom hp (by simp) (by simp) l.stream l.orders htold hnone fun _ => hclosed
  · exact turns_sound hroom hp (by simp) (by simp) l.stream l.orders htold hnone fun _ => hclosed

theorem part_sound (hp : l.phase = .parting) : l.goOn.Sound := by
  have hclosed : (l.room.links l.worker.conn).isClosed = true := h.closed (hp ▸ trivial)
  obtain ⟨error, name, htold, -⟩ := h.fitsTo hp
  simp only [goOn, hp]
  refine ⟨h.wf, h.once, fun _ => h.bindsTo hp, h.bindsTo hp, fun _ => hclosed,
    ⟨rfl, name, error, ?_⟩, iff_of_true rfl rfl, h.received⟩
  rw [htold, hclosed]

/-- The closing ends that the worker waits for. -/
theorem shut_sound : l.shut.Sound := by
  unfold shut
  split
  · rename_i s hp
    obtain ⟨hactive, htold⟩ := h.fitsTo hp
    have hsame : (l.room.seeOff s.id).bearers l.worker.conn = l.room.bearers l.worker.conn := by
      rw [Room.bearers, Room.seeOff, Room.roster_publish]
      rfl
    have hwf : (l.room.seeOff s.id).WF :=
      (Room.publish_changes _ _).wf ⟨h.wf.roster, h.wf.guests⟩
    refine ⟨hwf, hsame ▸ h.once, fun hv => ?_, absurd rfl, False.elim, ⟨.inr rfl, ?_, htold⟩,
      iff_of_false (h.notEnded hp (by simp)) (by simp), h.received⟩
    · revert hv
      show Stage.IsVisitor (if _ then _ else _) → _
      split <;> exact fun hv => absurd hv (by decide)
    · show _ ≤ Stage.number (if _ then _ else _)
      split <;> decide
  · rename_i hp
    have htold := h.fitsTo hp
    have hnone := h.bindsTo hp
    exact turns_sound h hp (by simp) (by simp) l.stream l.orders htold hnone
      fun _ => h.closed (hp ▸ trivial)
  · exact h

theorem step_sound (m : Move) : (l.step m).Sound := by
  have hsame : ∀ stream orders, ({ l with stream, orders } : Life).Sound := fun _ _ =>
    ⟨h.wf, h.once, h.visitor, h.binds, h.closed, h.fits, h.ended, h.received⟩
  cases m with
  | arrives a => exact hsame _ l.orders
  | order c => exact hsame l.stream _
  | elsewhere a =>
    simp only [step]
    split
    · exact h
    · rename_i ha
      exact elsewhere_sound h (by simpa using ha)
  | begins =>
    simp only [step]
    split
    · rename_i hp
      exact begin_sound h hp
    · exact h
  | reads now =>
    simp only [step]
    split
    · rename_i hp
      exact read_sound h hp now
    · exact h
  | obeys =>
    simp only [step]
    split
    · rename_i hp
      exact heed_sound h hp
    · exact h
  | notes =>
    simp only [step]
    split
    · rename_i hp
      exact goes_sound h hp.1 (by simp) .losing l.stream l.orders ⟨none, (h.fitsTo hp.1).2⟩
    · exact h
  | goesOn =>
    show l.goOn.Sound
    cases hp : l.phase with
    | handled before => exact look_sound h hp
    | introducing id => exact introduce_sound h hp
    | failing e => exact excuse_sound h hp
    | losing => exact lose_sound h hp
    | striking id => exact strike_sound h hp
    | closing => exact close_sound h hp
    | parting => exact part_sound h hp
    | new | waiting | loggingOff s | shutting | finished => simpa only [goOn, hp] using h
  | shuts => exact shut_sound h

end Step

theorem run_sound (moves : List Move) : ∀ {l : Life}, l.Sound → (l.run moves).Sound := by
  induction moves with
  | nil => exact fun h => h
  | cons m rest ih => exact fun h => ih (step_sound h m)

/-! ## What shows of a move -/

end Life
end Worker
end Parley
