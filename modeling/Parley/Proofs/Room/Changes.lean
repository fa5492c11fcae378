/-
Who takes part in a room, and how that can change. Whatever is said, written or read, sessions,
reservations and seats change only in the few ways that `Change` lists: each move but the one that
disconnects everybody is a sequence of them (`step_changes`). What every such change keeps, every
run keeps; above all that rosters agree with themselves and no guest is there twice (`run_wf`).
-/
import Mathlib.Logic.Relation
import Parley.Proofs.Roster.Run
import Parley.Proofs.Room.Bindings
import Parley.Proofs.Room.Moves

namespace Parley.Room

/-- One change of who takes part, or none: a session begins, ends or gives a sign of life; a guest
comes; one goes and takes its reservation with it; or one who has no nickname gets a reserved
one. -/
inductive Change (r r' : Room) : Prop where
  | none (roster : r'.roster = r.roster) (seats : r'.bridge.seats = r.bridge.seats)
  | session (op : Roster.Op) (done : r.roster.perform? op = some r'.roster)
      (reserved : r'.roster.reserved = r.roster.reserved) (seats : r'.bridge.seats = r.bridge.seats)
  | comes (id : SessionId) (fresh : r.bridge.guest? id = .none) (roster : r'.roster = r.roster)
      (seats : r'.bridge.seats = r.bridge.seats ++ [(id, .none)])
  | goes {id : SessionId} {g : Guest} {bridge : Bridge}
      (found : r.bridge.detach? id = some (g, bridge))
      (roster : r'.roster = { r.roster with
        reserved := g.nickname.elim r.roster.reserved fun name =>
          r.roster.reserved.filter (· ≠ name) })
      (seats : r'.bridge.seats = bridge.seats)
  | named {id : SessionId} {g : Guest} {name : Text} (found : r.bridge.guest? id = some g)
      (unnamed : g.nickname = .none) (reserved : r.roster.reserve? name = some r'.roster)
      (seats : r'.bridge.seats = (r.bridge.nickname id name).seats)

/-- Any number of changes, one after the other. -/
abbrev Changes : Room → Room → Prop := Relation.ReflTransGen Change

theorem Change.changes {r r' : Room} (h : Change r r') : Changes r r' := .single h

theorem Changes.same {r r' : Room} (roster : r'.roster = r.roster)
    (seats : r'.bridge.seats = r.bridge.seats) : Changes r r' :=
  .single (.none roster seats)

/-- What every change keeps, any number of them keeps. -/
theorem Changes.keeps {P : Room → Prop} (hP : ∀ r r', Change r r' → P r → P r') {r r' : Room}
    (h : Changes r r') (hr : P r) : P r' := by
  induction h with
  | refl => exact hr
  | tail _ hc ih => exact hP _ _ hc ih

theorem OnlyWrites.changes {r r' : Room} (h : OnlyWrites r r') : Changes r r' :=
  Changes.same h.roster (by rw [h.bridge])

theorem publish_changes (r : Room) (line : Text) : Changes r (r.publish line) :=
  Changes.same (roster_publish r line) (by rw [bridge_publish])

theorem publishLeft_changes (r : Room) (line : Option Text) : Changes r (r.publishLeft line) := by
  obtain ⟨feed, log, hp⟩ := publishLeft_eq r line
  rw [hp]
  exact Changes.same rfl rfl

/-! ## Guests -/

theorem attach_changes {r : Room} {id : SessionId} (hn : r.bridge.guest? id = none) :
    Changes r (r.attach id) :=
  .single (.comes id hn rfl (Bridge.seats_attach hn))

theorem detach_none {r : Room} {id : SessionId} (h : r.bridge.detach? id = none) :
    r.detach id = r := by
  rw [detach, h]

/-- A guest who goes takes its reservation with it. -/
theorem detach_some {r : Room} {id : SessionId} {g : Guest} {bridge : Bridge}
    (h : r.bridge.detach? id = some (g, bridge)) :
    (r.detach id).bridge = bridge ∧
      (r.detach id).roster = { r.roster with
        reserved := g.nickname.elim r.roster.reserved fun name =>
          r.roster.reserved.filter (· ≠ name) } := by
  unfold detach
  rw [h]
  obtain ⟨id, nickname, waiting, reading⟩ := g
  cases nickname with
  | none => exact ⟨rfl, rfl⟩
  | some name =>
    simp only [release_eq]
    exact ⟨rfl, rfl⟩

theorem detach_changes (r : Room) (id : SessionId) : Changes r (r.detach id) := by
  cases hd : r.bridge.detach? id with
  | none => rw [detach_none hd]
  | some p =>
    obtain ⟨g, bridge⟩ := p
    obtain ⟨hb, hr⟩ := detach_some hd
    exact .single (.goes hd hr (by rw [hb]))

theorem sendTo_changes (r : Room) (id : SessionId) (frame : Text) :
    Changes r (r.sendTo id frame).2 := by
  unfold sendTo
  split
  · exact .refl
  · split
    · refine Changes.same rfl (Bridge.seats_update _ _ _ (fun g => ?_) fun g => ?_)
      · exact Guest.id_take ..
      · exact Guest.nickname_take ..
    · exact detach_changes r id
    · exact .refl

theorem deliver_changes (r : Room) (name frame : Text) : Changes r (r.deliver name frame).2 := by
  unfold deliver
  split
  · exact sendTo_changes r _ frame
  · exact .refl

theorem tellDirectory_changes (r : Room) (name frame : Text) :
    Changes r (r.tellDirectory name frame).2 := by
  unfold tellDirectory
  split
  · exact deliver_changes r name frame
  · split
    · exact Changes.same rfl rfl
    · exact .refl
  · exact .refl
  · exact .refl

/-- A reservation made for a guest who has gone is taken back, and nothing has changed. -/
theorem release_reserve {r : Room} {name : Text} {roster : Roster}
    (hr : r.roster.reserve? name = some roster) : ({ r with roster } : Room).release name = r := by
  obtain ⟨hfree, rfl⟩ := Roster.reserve?_some hr
  have hn : name ∉ r.roster.reserved := by
    rw [← Bool.not_eq_true, Roster.isActive_iff] at hfree
    exact fun hm => hfree (.inr hm)
  rw [release_eq]
  simp only
  rw [List.filter_cons_of_neg (by simp), filter_ne_of_not_mem hn]

theorem nameGuest_changes (r : Room) (id : SessionId) (name : Text) :
    Changes r (r.nameGuest id name) := by
  unfold nameGuest
  split
  · exact .refl
  · rename_i hfirst
    split
    · exact sendTo_changes r id _
    · rename_i roster hr
      cases hg : r.bridge.guest? id with
      | none =>
        simp only [hg]
        rw [release_reserve hr]
      | some g =>
        simp only [hg]
        -- only a guest without a nickname comes this far, so no reservation is left behind
        have hnone : g.nickname = none := by
          rw [Bridge.nicknameOf?, hg] at hfirst
          simpa using hfirst
        exact .single (.named hg hnone hr rfl)

/-! ## Lines and messages -/

theorem foldl_changes {f : Room → Guest → Room} (hf : ∀ r g, Changes r (f r g))
    (guests : List Guest) : ∀ r : Room, Changes r (guests.foldl f r) := by
  induction guests with
  | nil => exact fun r => .refl
  | cons g rest ih => exact fun r => (hf r g).trans (ih _)

theorem forward_changes (r : Room) (line : Text) : Changes r (r.forward line).2 := by
  unfold forward
  -- taking the line moves no seat; then those whose mailbox is full are put out one by one
  refine Relation.ReflTransGen.trans ?_ (foldl_changes (fun r g => detach_changes r g.id) _ _)
  refine Relation.ReflTransGen.trans ?_
    (foldl_changes (f := fun r g => r.record (.queued g.id line))
      (fun r g => Changes.same rfl rfl) _ _)
  refine Changes.same rfl (Bridge.seats_map _ (fun g => ?_) (fun g => ?_) _)
  · split
    · rfl
    · exact Guest.id_take ..
  · split
    · rfl
    · exact Guest.nickname_take ..

theorem sendPrivate_changes (r : Room) (sender target payload : Text) :
    Changes r (r.sendPrivate sender target payload).2 := by
  unfold sendPrivate
  simp only
  split
  · rename_i s _
    have hs := (write_onlyWrites r s.link
      (Wire.Message.private sender target payload).wire).changes
    split <;> exact hs
  · exact tellDirectory_changes r target _

theorem converse_changes (r : Room) (speaker : Session) (text : Text) :
    Changes r (r.converse speaker text).2 := by
  cases ht : Wire.Chat.parse text with
  | broadcast said =>
    rw [converse, ht]
    exact (broadcast_onlyWrites r _ _).changes
  | personal target payload =>
    have hs := sendPrivate_changes r speaker.name target payload
    rw [converse_personal r speaker ht]
    simp only
    split
    · exact hs.trans (notifyInvalid_onlyWrites _ _ _).changes
    · exact hs

theorem guestConverse_changes (r : Room) (id : SessionId) (nickname text : Text) :
    Changes r (r.guestConverse id nickname text).2 := by
  cases ht : Wire.Chat.parse text with
  | broadcast said =>
    rw [guestConverse, ht]
    exact (broadcast_onlyWrites r _ _).changes
  | personal target payload =>
    have hs := sendPrivate_changes r nickname target payload
    rw [guestConverse_personal r id nickname ht]
    simp only
    split
    · exact hs.trans (sendTo_changes _ id _)
    · exact hs

theorem guestMessage_changes (r : Room) (id : SessionId) (raw : Text) (message : Wire.Message) :
    Changes r (r.guestMessage id raw message).2.2 := by
  cases message with
  | register _ name => exact nameGuest_changes r id name
  | incoming sender text =>
    simp only [guestMessage]
    split
    · split
      · exact guestConverse_changes r id _ text
      · exact .refl
    · exact .refl
  | usernameQuery _ =>
    simp only [guestMessage]
    split
    · exact sendTo_changes r id _
    · exact .refl
  | logoff _ => exact .refl
  | debug => exact .refl
  | keepAlive _ => exact .refl
  | unknown _ => exact .refl

theorem guestFrame_changes (r : Room) (id : SessionId) (raw : Text) :
    Changes r (r.guestFrame id raw).2 := by
  have hh : Changes r (r.guestHandle id raw).2.2 := by
    unfold guestHandle
    split
    · exact .refl
    · exact guestMessage_changes r id raw _
  exact hh.trans (publishLeft_changes _ _)

/-! ## Sessions -/

theorem register?_changes {r r' : Room} {id : SessionId} {name : Text} {conn : ConnId} {mark : Nat}
    (hr : r.register? id name conn mark = some r') : Changes r r' := by
  obtain ⟨roster, hroster, rfl⟩ := Option.map_eq_some_iff.1 hr
  refine .single (.session (.register id name conn mark) hroster ?_ rfl)
  obtain ⟨-, -, rfl⟩ := Roster.register?_some hroster
  rfl

theorem remove?_changes {r r' : Room} {id : SessionId} {s : Session} {roster : Roster}
    (hr : r.roster.remove? id = some (s, roster)) (hroster : r'.roster = roster)
    (hb : r'.bridge = r.bridge) : Changes r r' := by
  subst hroster
  refine .single (.session (.remove id) ?_ (Roster.remove?_sessions hr).2.2.1 (by rw [hb]))
  show (r.roster.remove? id).map (·.2) = some r'.roster
  rw [hr, Option.map_some]

theorem touch_changes (r : Room) (id : SessionId) (mark : Nat) : Changes r (r.touch id mark) := by
  unfold touch
  cases ht : r.roster.touch? id mark with
  | none => exact Changes.same rfl rfl
  | some roster =>
    refine .single (.session (.touch id mark) ht ?_ rfl)
    obtain ⟨-, rfl⟩ := Roster.touch?_some ht
    rfl

theorem expel?_changes {r r' : Room} {id : SessionId} {s : Session}
    (he : r.expel? id = some (s, r')) : Changes r r' := by
  obtain ⟨roster, hr, rfl⟩ := expel?_some he
  exact remove?_changes hr rfl rfl

theorem disconnect?_changes {r r' : Room} {id : SessionId} {s : Session}
    (hd : r.disconnect? id = some (s, r')) : Changes r r' := by
  obtain ⟨⟨s', r1⟩, he, hd⟩ := Option.map_eq_some_iff.1 hd
  cases hd
  exact (expel?_changes he).trans (publish_changes _ _)

theorem strike?_changes {r r' : Room} {id : SessionId} {s : Session}
    (h : r.strike? id = some (s, r')) : Changes r r' := by
  obtain ⟨⟨s', roster⟩, hr, hl⟩ := Option.map_eq_some_iff.1 h
  cases hl
  have hout : Changes r { r with roster, tally := r.tally.sessionClosed } :=
    remove?_changes hr rfl rfl
  exact hout.trans (publish_changes _ _)

theorem connectionLost?_changes {r r' : Room} {conn : ConnId} {s : Session}
    (hl : r.connectionLost? conn = some (s, r')) : Changes r r' := by
  obtain ⟨bound, -, hl⟩ := Option.bind_eq_some_iff.1 hl
  exact strike?_changes hl

theorem sweepStep_changes (r : Room) (w : Sweep) : Changes r (Sweep.step r w).1 := by
  unfold Sweep.step
  split
  · exact .refl
  · exact (announce_onlyWrites r _).changes
  · rename_i s rest _ _
    have hp := publish_changes r (Sweep.lostLine s.name)
    simp only
    split
    · exact hp
    · rename_i gone roster hr
      exact hp.trans (remove?_changes hr rfl rfl)
  · exact Changes.same rfl rfl

theorem sweepRun_changes (n : Nat) : ∀ (r : Room) (w : Sweep),
    Changes r (Sweep.run n r w).1 := by
  induction n with
  | zero => exact fun r _ => .refl
  | succ n ih => exact fun r w => (sweepStep_changes r w).trans (ih _ _)

theorem handleUnregistered_changes (r : Room) (conn : ConnId) (now : Nat)
    (message : Wire.Message) : Changes r (r.handleUnregistered conn now message).2 := by
  unfold handleUnregistered
  split
  · split
    · rename_i r1 hr
      exact (register?_changes hr).trans (Changes.same rfl rfl)
    · exact Changes.same rfl rfl
  · exact .refl

theorem handleActive_changes (r : Room) (conn : ConnId) (now : Nat) (message : Wire.Message) :
    Changes r (r.handleActive conn now message).2 := by
  unfold handleActive
  split
  · split
    · exact converse_changes r _ _
    · exact .refl
  · split
    · rename_i s r1 he
      exact expel?_changes he
    · exact .refl
  · exact touch_changes r _ now
  · exact .refl

theorem dispatch_changes (r : Room) (conn : ConnId) (stage : Stage) (raw : Text) (now : Nat) :
    Changes r (r.dispatch conn stage raw now).2 := by
  have hcounted : Changes r { r with tally := r.tally.frameReceived } := Changes.same rfl rfl
  have hh : Changes r (r.handle conn stage raw now).2 := by
    unfold handle
    simp only
    split
    · exact Changes.same rfl rfl
    · rename_i message _
      refine hcounted.trans ?_
      cases stage with
      | accepted => exact handleUnregistered_changes _ conn now message
      | awaitingRegister => exact handleUnregistered_changes _ conn now message
      | active => exact handleActive_changes _ conn now message
      | closed => exact .refl
  exact hh.trans (publishLeft_changes _ _)

/-! ## The feed -/

theorem serve?_changes {r r' : Room} (hs : r.serve? = some r') : Changes r r' := by
  cases serve?_serves hs with
  | feed feed => exact Changes.same rfl rfl
  | handed delivering subscriber feed => exact Changes.same rfl rfl
  | @forwarded d delivering subscriber feed =>
    -- a line that goes on to the guests may put some of them out
    have hhanded : Changes r ({ r with feed }.record (.handed subscriber d.line)) :=
      Changes.same rfl rfl
    exact hhanded.trans (forward_changes _ _)

/-! ## Every move -/

theorem getD_changes {r : Room} {o : Option Room} (ho : ∀ r', o = some r' → Changes r r') :
    Changes r (o.getD r) := by
  cases o with
  | none => exact .refl
  | some r' => exact ho r' rfl

/-- Every move but the one that disconnects everybody at once is a sequence of changes. -/
theorem step_changes (r : Room) {m : Move} (hm : m ≠ .disconnectAll) : Changes r (r.step m) := by
  cases m with
  | register id name conn mark => exact getD_changes fun r' hr => register?_changes hr
  | frame conn stage raw now => exact dispatch_changes r conn stage raw now
  | announce text => exact (announce_onlyWrites r text).changes
  | tell id text =>
    show Changes r (r.tell id text).2
    unfold tell
    split
    · exact .refl
    · rename_i s _
      have hs := (write_onlyWrites r s.link (Wire.Message.notice text).wire).changes
      simp only
      split <;> exact hs
  | disconnect id =>
    refine getD_changes fun r' hr => ?_
    obtain ⟨⟨s, r1⟩, hd, rfl⟩ := Option.map_eq_some_iff.1 hr
    exact disconnect?_changes hd
  | connectionLost conn =>
    refine getD_changes fun r' hr => ?_
    obtain ⟨⟨s, r1⟩, hl, rfl⟩ := Option.map_eq_some_iff.1 hr
    exact connectionLost?_changes hl
  | reap now threshold => exact sweepRun_changes _ r _
  | disconnectAll => exact absurd rfl hm
  | attach id =>
    simp only [step]
    split
    · exact .refl
    · rename_i hn
      exact attach_changes (by simpa using hn)
  | guestFrame id raw => exact guestFrame_changes r id raw
  | detach id => exact detach_changes r id
  | deliver name frame => exact deliver_changes r name frame
  | forward line => exact forward_changes r line
  | readNext id => exact Changes.same rfl (Bridge.seats_readNext ..)
  | read id =>
    refine Changes.same rfl ?_
    show (((r.bridge.read? id).map (·.2.2)).getD r.bridge).seats = r.bridge.seats
    cases hr : r.bridge.read? id with
    | none => rfl
    | some p => exact Bridge.seats_read hr
  | stopReading id =>
    refine Changes.same rfl ?_
    show ((r.bridge.stopReading? id).getD r.bridge).seats = r.bridge.seats
    cases hr : r.bridge.stopReading? id with
    | none => rfl
    | some b => exact Bridge.seats_stopReading hr
  | publish line => exact publish_changes r line
  | serve => exact getD_changes fun r' hr => serve?_changes hr

/-- To disconnect everybody clears the roster, and leaves every guest in its seat. -/
theorem disconnectAll_eq (r : Room) :
    r.disconnectAll.2.roster = r.roster.clear.2 ∧ r.disconnectAll.2.bridge = r.bridge :=
  ⟨roster_partFrom _ _, bridge_partFrom _ _⟩

/-! ## Every run -/

/-- The invariant of rooms: the roster keeps its own, and no two guests have the same id. -/
structure WF (r : Room) : Prop where
  roster : r.roster.WF
  guests : (r.bridge.seats.map (·.1)).Nodup

theorem WF.ids {r : Room} (hw : r.WF) : (r.bridge.guests.map (·.id)).Nodup := by
  have h := hw.guests
  rw [Bridge.seats, List.map_map] at h
  exact h

/-- The guest with an id is the only one who has it. -/
theorem WF.guest?_eq_some {r : Room} (hw : r.WF) {id : SessionId} {g : Guest} :
    r.bridge.guest? id = some g ↔ g ∈ r.bridge.guests ∧ g.id = id :=
  find?_key_eq_some hw.ids

theorem emptied_wf (r : Room) : r.emptied.WF := ⟨Roster.empty_wf 0, List.nodup_nil⟩

theorem Change.wf {r r' : Room} (h : Change r r') (hw : r.WF) : r'.WF := by
  cases h with
  | none roster seats => exact ⟨roster ▸ hw.roster, seats ▸ hw.guests⟩
  | session op done reserved seats =>
    exact ⟨Roster.perform?_wf hw.roster done, seats ▸ hw.guests⟩
  | comes id fresh roster seats =>
    refine ⟨roster ▸ hw.roster, ?_⟩
    rw [seats]
    refine nodup_map_concat hw.guests fun s hm e => ?_
    obtain ⟨g, hg, rfl⟩ := List.mem_map.1 hm
    have := List.find?_eq_none.1 fresh g hg
    simp_all
  | @goes id g bridge found roster seats =>
    constructor
    · rw [roster]
      cases g.nickname with
      | none => exact hw.roster
      | some name =>
        exact ⟨hw.roster.ids, hw.roster.names, hw.roster.index,
          fun n hn => hw.roster.apart n (List.mem_filter.1 hn).1, hw.roster.reservedOnce.filter _⟩
    · rw [seats, (Bridge.seats_detach found).2]
      exact nodup_map_filter hw.guests _
  | @named id g name found unnamed reserved seats =>
    refine ⟨Roster.reserve?_wf hw.roster reserved, ?_⟩
    obtain ⟨rest, hbefore, hafter⟩ := Bridge.seats_nickname_perm name hw.guests found
    rw [seats, (hafter.map _).nodup_iff]
    exact (hbefore.map _).nodup_iff.1 hw.guests

theorem Changes.wf {r r' : Room} (h : Changes r r') (hw : r.WF) : r'.WF :=
  h.keeps (fun _ _ hc hw => hc.wf hw) hw

/-- What every change keeps, and the disconnection of everybody at once too, every run keeps. -/
theorem run_keeps {P : Room → Prop} (hchange : ∀ r r', Change r r' → P r → P r')
    (hall : ∀ r, P r → P (r.step .disconnectAll)) (moves : List Move) :
    ∀ {r : Room}, P r → P (r.run moves) := by
  induction moves with
  | nil => exact id
  | cons m rest ih =>
    intro r hr
    refine ih ?_
    by_cases hm : m = .disconnectAll
    · subst hm
      exact hall r hr
    · exact (step_changes r hm).keeps hchange hr

theorem disconnectAll_wf (r : Room) (hw : r.WF) : (r.step .disconnectAll).WF := by
  obtain ⟨hroster, hbridge⟩ := disconnectAll_eq r
  refine ⟨?_, ?_⟩
  · show r.disconnectAll.2.roster.WF
    rw [hroster]
    exact Roster.clear_wf _
  · show (r.disconnectAll.2.bridge.seats.map (·.1)).Nodup
    rw [hbridge]
    exact hw.guests

theorem run_wf {r : Room} (hw : r.WF) (moves : List Move) : (r.run moves).WF :=
  run_keeps (fun _ _ hc hw => hc.wf hw) disconnectAll_wf moves hw

/-! ## The order of the sessions -/

theorem Change.inOrder {r r' : Room} (h : Change r r') (ho : r.roster.InOrder) :
    r'.roster.InOrder := by
  cases h with
  | none roster seats => exact roster ▸ ho
  | session op done reserved seats => exact Roster.perform?_inOrder ho done
  | comes id fresh roster seats => exact roster ▸ ho
  | goes found roster seats => rw [roster]; exact ⟨ho.ascending, ho.given⟩
  | named found unnamed reserved seats =>
    exact Roster.perform?_inOrder ho (show r.roster.perform? (.reserve _) = _ from reserved)

/-- In every room that can come about, the sessions stand in the order of registration. -/
theorem run_inOrder (room : Room) (moves : List Move) :
    (room.emptied.run moves).roster.InOrder := by
  refine run_keeps (P := fun r => r.roster.InOrder) (fun _ _ hc ho => hc.inOrder ho)
    (fun r ho => ?_) moves (Roster.empty_inOrder 0)
  show r.disconnectAll.2.roster.InOrder
  rw [(disconnectAll_eq r).1]
  exact Roster.empty_inOrder _

end Parley.Room
