/-
What the operations of a room do to the connections that sessions are bound to. But for
registrations, they bind nothing; whatever ends a session closes the link that it was bound to, and
a link that is closed stays closed (`OnlyUnbinds`).
-/
import Parley.Proofs.Room.Unchanged
import Parley.Worker

namespace Parley.Room

/-- The connections that sessions are bound to, in the order of registration. -/
def boundLinks (r : Room) : List ConnId := r.roster.sessions.map (·.link)

theorem mem_boundLinks {r : Room} {c : ConnId} :
    c ∈ r.boundLinks ↔ ∃ s ∈ r.roster.sessions, s.link = c := List.mem_map

/-! ## Bindings that end -/

/-- Nothing is bound that was not, each link whose binding has ended is closed, and no closed link
is open again. -/
structure OnlyUnbinds (r r' : Room) : Prop where
  wf : r'.roster.WF
  fewer : r'.boundLinks.Sublist r.boundLinks
  shut : ∀ c ∈ r.boundLinks, c ∉ r'.boundLinks → (r'.links c).isClosed = true
  stays : ∀ c, (r.links c).isClosed = true → (r'.links c).isClosed = true

namespace OnlyUnbinds

theorem trans {a b c : Room} (h1 : OnlyUnbinds a b) (h2 : OnlyUnbinds b c) : OnlyUnbinds a c := by
  refine ⟨h2.wf, h2.fewer.trans h1.fewer, fun conn hb hc => ?_,
    fun conn h => h2.stays conn (h1.stays conn h)⟩
  by_cases hm : conn ∈ b.boundLinks
  · exact h2.shut conn hm hc
  · exact h2.stays conn (h1.shut conn hb hm)

theorem of_same {r r' : Room} (hw : r'.roster.WF) (hb : r'.boundLinks = r.boundLinks)
    (hc : ∀ c, (r'.links c).isClosed = (r.links c).isClosed) : OnlyUnbinds r r' :=
  ⟨hw, hb ▸ List.Sublist.refl _, fun _ h h' => absurd (hb ▸ h) h', fun c h => (hc c).trans h⟩

theorem refl {r : Room} (hw : r.roster.WF) : OnlyUnbinds r r := of_same hw rfl fun _ => rfl

end OnlyUnbinds

theorem OnlyWrites.onlyUnbinds {r r' : Room} (h : OnlyWrites r r') (hw : r.roster.WF) :
    OnlyUnbinds r r' :=
  .of_same (h.roster ▸ hw) (congrArg (·.sessions.map (·.link)) h.roster) h.isClosed

theorem OnlyEvicts.onlyUnbinds {r r' : Room} (h : OnlyEvicts r r') (hw : r.roster.WF) :
    OnlyUnbinds r r' :=
  .of_same (h.wf hw) (congrArg (·.map (·.link)) h.sessions) fun c => by rw [h.links]

theorem publish_onlyUnbinds {r : Room} (hw : r.roster.WF) (line : Text) :
    OnlyUnbinds r (r.publish line) := by
  obtain ⟨feed, log, h⟩ := publish_eq r line
  rw [h]
  exact .of_same hw rfl fun _ => rfl

theorem tally_onlyUnbinds {r : Room} (hw : r.roster.WF) (tally : Tally) :
    OnlyUnbinds r { r with tally } :=
  .of_same hw rfl fun _ => rfl

theorem touch_onlyUnbinds {r : Room} (hw : r.roster.WF) (id : SessionId) (mark : Nat) :
    OnlyUnbinds r (r.touch id mark) := by
  unfold touch
  cases h : r.roster.touch? id mark with
  | none => exact .refl hw
  | some roster =>
    refine .of_same (Roster.touch?_wf hw h) ?_ fun _ => rfl
    obtain ⟨-, rfl⟩ := Roster.touch?_some h
    exact Roster.map_touch _ (fun _ _ => rfl) ..

/-! ## Closing a link -/

theorem close_onlyUnbinds {r : Room} (hw : r.roster.WF) (conn : ConnId) :
    OnlyUnbinds r (r.close conn) := by
  refine ⟨hw, List.Sublist.refl _, fun c h h' => absurd h h', fun c h => ?_⟩
  rw [isClosed_close, h, Bool.or_true]

theorem isClosed_closeAll (conns : List ConnId) (c : ConnId) :
    ∀ r : Room, ((conns.foldl close r).links c).isClosed =
      (decide (c ∈ conns) || (r.links c).isClosed) := by
  induction conns with
  | nil => intro r; simp
  | cons conn rest ih =>
    intro r
    rw [List.foldl_cons, ih, isClosed_close]
    by_cases h : c = conn <;> by_cases hr : c ∈ rest <;> simp [h, hr]

/-- Whoever is taken out has its link closed. -/
theorem remove_close_onlyUnbinds {r : Room} (hw : r.roster.WF) {id : SessionId} {s : Session}
    {roster : Roster} (h : r.roster.remove? id = some (s, roster)) (tally : Tally) :
    OnlyUnbinds r ({ r with roster, tally }.close s.link) := by
  obtain ⟨found, hs, -, -⟩ := Roster.remove?_sessions h
  refine ⟨Roster.remove?_wf hw h, ?_, fun c hb hc => ?_, fun c hc => ?_⟩
  · show (roster.sessions.map (·.link)).Sublist _
    rw [hs]; exact List.filter_sublist.map _
  · obtain ⟨t, ht, rfl⟩ := mem_boundLinks.1 hb
    -- a session on this link that is gone can only be the one taken out
    have hid : t.id = id := by
      by_contra hne
      refine hc (mem_boundLinks.2 ⟨t, ?_, rfl⟩)
      show t ∈ roster.sessions
      rw [hs, List.mem_filter]; exact ⟨ht, by simpa using hne⟩
    obtain rfl : t = s :=
      Option.some.inj (((Roster.lookup?_eq_some hw).2 ⟨ht, hid⟩).symm.trans found)
    rw [isClosed_close, decide_eq_true rfl, Bool.true_or]
  · rw [isClosed_close]
    show (_ || (r.links c).isClosed) = true
    rw [hc, Bool.or_true]

/-! ## Ending sessions -/

theorem expel?_some {r r' : Room} {id : SessionId} {s : Session} (h : r.expel? id = some (s, r')) :
    ∃ roster, r.roster.remove? id = some (s, roster) ∧
      r' = { r with roster, tally := r.tally.sessionClosed }.close s.link := by
  obtain ⟨⟨s', roster⟩, hr, h⟩ := Option.map_eq_some_iff.1 h
  cases h
  exact ⟨roster, hr, rfl⟩

theorem expel?_onlyUnbinds {r r' : Room} (hw : r.roster.WF) {id : SessionId} {s : Session}
    (h : r.expel? id = some (s, r')) : OnlyUnbinds r r' := by
  obtain ⟨roster, hr, rfl⟩ := expel?_some h
  exact remove_close_onlyUnbinds hw hr _

theorem disconnect?_onlyUnbinds {r r' : Room} (hw : r.roster.WF) {id : SessionId} {s : Session}
    (h : r.disconnect? id = some (s, r')) : OnlyUnbinds r r' := by
  obtain ⟨⟨s', r1⟩, he, h⟩ := Option.map_eq_some_iff.1 h
  cases h
  have h1 := expel?_onlyUnbinds hw he
  exact h1.trans (publish_onlyUnbinds h1.wf _)

/-- A session that has gone is no longer bound to its connection, if it was the only one there. -/
theorem remove?_unbinds {r roster : Roster} {id : SessionId} {s : Session}
    (h : r.remove? id = some (s, roster)) (once : (r.sessions.map (·.link)).Nodup) :
    s.link ∉ roster.sessions.map (·.link) := by
  obtain ⟨found, hs, -, -⟩ := Roster.remove?_sessions h
  obtain ⟨hm, rfl⟩ := Roster.lookup?_some found
  intro hb
  obtain ⟨t, ht, hl⟩ := List.mem_map.1 hb
  rw [hs, List.mem_filter] at ht
  rw [eq_of_key_eq once ht.1 hm hl] at ht
  simp at ht

theorem expel?_unbinds {r r' : Room} {id : SessionId} {s : Session}
    (h : r.expel? id = some (s, r')) (once : r.boundLinks.Nodup) : s.link ∉ r'.boundLinks := by
  obtain ⟨roster, hr, rfl⟩ := expel?_some h
  exact remove?_unbinds hr once

/-! ## The end of a worker -/

theorem connectionLost?_cases {r : Room} (hw : r.roster.WF) (conn : ConnId) :
    (r.connectionLost? conn = none ∧ conn ∉ r.boundLinks) ∨
    ∃ s roster, s.link = conn ∧ r.roster.remove? s.id = some (s, roster) ∧
      r.connectionLost? conn = some (s, ({ r with
        roster, tally := r.tally.sessionClosed } : Room).publish (disconnectedLine s.id)) := by
  unfold connectionLost?
  cases hb : r.roster.bound? conn with
  | none =>
    refine .inl ⟨rfl, fun hm => ?_⟩
    obtain ⟨s, hs, hl⟩ := mem_boundLinks.1 hm
    exact absurd hl (by simpa using List.find?_eq_none.1 hb s hs)
  | some s =>
    obtain ⟨hs, hl⟩ := Roster.bound?_some hb
    have hr := Roster.remove?_eq hw ((Roster.lookup?_eq_some hw).2 ⟨hs, rfl⟩)
    refine .inr ⟨s, _, hl, hr, ?_⟩
    simp only [Option.bind_some, strike?, hr, Option.map_some, seeOff]

/-- The end of a worker closes its connection and ends what is bound to it. -/
theorem finish_onlyUnbinds {r : Room} (hw : r.roster.WF) (w : Worker) :
    OnlyUnbinds r (w.finish r).1 := by
  unfold Worker.finish
  rcases connectionLost?_cases hw w.conn with ⟨h, -⟩ | ⟨s, roster, hl, hr, h⟩
  · rw [h]; exact close_onlyUnbinds hw w.conn
  · rw [h, ← hl]
    have h1 := remove_close_onlyUnbinds hw hr r.tally.sessionClosed
    -- the line goes out before the link is closed here; to the bindings the order is the same
    refine h1.trans (.of_same ?_ ?_ fun c => ?_)
    · show (publish _ _).roster.WF
      rw [roster_publish]; exact h1.wf
    · show (publish _ _).roster.sessions.map _ = _
      rw [roster_publish]; rfl
    · rw [isClosed_close]
      show (_ || ((publish _ _).links c).isClosed) = _
      rw [links_publish, isClosed_close]

theorem finish_unbinds {r : Room} (hw : r.roster.WF) (w : Worker) (once : r.boundLinks.Nodup) :
    w.conn ∉ (w.finish r).1.boundLinks := by
  unfold Worker.finish
  rcases connectionLost?_cases hw w.conn with ⟨h, hn⟩ | ⟨s, roster, hl, hr, h⟩
  · rw [h]; exact hn
  · rw [h, ← hl]
    show s.link ∉ (publish _ _).roster.sessions.map _
    rw [roster_publish]
    exact remove?_unbinds hr once

/-! ## Sweeps -/

theorem step_onlyUnbinds {r : Room} (hw : r.roster.WF) (w : Sweep) :
    OnlyUnbinds r (Sweep.step r w).1 := by
  unfold Sweep.step
  split
  · exact .refl hw
  · exact (announce_onlyWrites r _).onlyUnbinds hw
  · rename_i s rest _ _
    have h1 := publish_onlyUnbinds hw (Sweep.lostLine s.name)
    cases h : (r.publish (Sweep.lostLine s.name)).roster.remove? s.id with
    | none => simpa only [h] using h1
    | some p =>
      obtain ⟨gone, roster⟩ := p
      simp only [h]
      exact h1.trans (remove_close_onlyUnbinds h1.wf h _)
  · exact .of_same hw rfl fun _ => rfl

theorem run_onlyUnbinds (n : Nat) : ∀ {r : Room} (_ : r.roster.WF) (w : Sweep),
    OnlyUnbinds r (Sweep.run n r w).1 := by
  induction n with
  | zero => exact fun hw _ => .refl hw
  | succ n ih =>
    intro r hw w
    have h1 := step_onlyUnbinds hw w
    exact h1.trans (ih h1.wf _)

theorem reap_onlyUnbinds {r : Room} (hw : r.roster.WF) (now threshold : Nat) :
    OnlyUnbinds r (r.reap now threshold).2 :=
  run_onlyUnbinds _ hw _

/-! ## Taking leave of everybody -/

/-- Takes leave of one session; `p` has the links that stall and the room. -/
def leave (p : List ConnId × Room) (s : Session) : List ConnId × Room :=
  let (outcome, r) := p.2.write s.link farewell
  if outcome.isStalled then (p.1 ++ [s.link], r) else (p.1, r.close s.link)

theorem partFrom_eq (r : Room) (sessions : List Session) :
    r.partFrom sessions =
      (sessions.foldl leave ([], r)).1.foldl close (sessions.foldl leave ([], r)).2 := rfl

section Same

variable {α : Type} (f : Room → α) (hw : ∀ r c t, f (write r c t).2 = f r)
  (hc : ∀ r c, f (close r c) = f r)
include hc

theorem closeAll_same (conns : List ConnId) : ∀ r : Room, f (conns.foldl close r) = f r := by
  induction conns with
  | nil => exact fun _ => rfl
  | cons conn rest ih => exact fun r => (ih _).trans (hc r conn)

include hw

theorem leave_same (p : List ConnId × Room) (s : Session) : f (leave p s).2 = f p.2 := by
  unfold leave
  simp only
  split
  · exact hw ..
  · exact (hc ..).trans (hw ..)

theorem leaveAll_same (sessions : List Session) :
    ∀ p : List ConnId × Room, f (sessions.foldl leave p).2 = f p.2 := by
  induction sessions with
  | nil => exact fun _ => rfl
  | cons s rest ih => exact fun p => (ih _).trans (leave_same f hw hc p s)

/-- Whatever neither a write nor the closing of a link changes, taking leave does not. -/
theorem partFrom_same (r : Room) (sessions : List Session) : f (r.partFrom sessions) = f r := by
  rw [partFrom_eq, closeAll_same f hc, leaveAll_same f hw hc]

end Same

theorem roster_partFrom (r : Room) (sessions : List Session) :
    (r.partFrom sessions).roster = r.roster :=
  partFrom_same (·.roster) (fun _ _ _ => rfl) (fun _ _ => rfl) r sessions

theorem bridge_partFrom (r : Room) (sessions : List Session) :
    (r.partFrom sessions).bridge = r.bridge :=
  partFrom_same (·.bridge) (fun _ _ _ => rfl) (fun _ _ => rfl) r sessions

/-- Whether a link will be closed when leave has been taken: those that stall are closed last. -/
def parts (p : List ConnId × Room) (c : ConnId) : Bool :=
  decide (c ∈ p.1) || (p.2.links c).isClosed

theorem parts_leave (p : List ConnId × Room) (s : Session) (c : ConnId) :
    parts (leave p s) c = (decide (c = s.link) || parts p c) := by
  unfold leave parts
  simp only
  split
  · rw [isClosed_write]
    by_cases h : c = s.link <;> simp [h]
  · rw [isClosed_close, isClosed_write]
    by_cases h : c = s.link <;> simp [h]

theorem parts_leaveAll (sessions : List Session) (c : ConnId) :
    ∀ p : List ConnId × Room, parts (sessions.foldl leave p) c =
      (decide (c ∈ sessions.map (·.link)) || parts p c) := by
  induction sessions with
  | nil => intro p; simp
  | cons s rest ih =>
    intro p
    rw [List.foldl_cons, ih, parts_leave]
    by_cases h : c = s.link <;> by_cases hr : c ∈ rest.map (·.link) <;> simp_all

/-- Whatever becomes of the farewells, the links of those taken leave of are closed, and no
others. -/
theorem isClosed_partFrom (r : Room) (sessions : List Session) (c : ConnId) :
    ((r.partFrom sessions).links c).isClosed =
      (decide (c ∈ sessions.map (·.link)) || (r.links c).isClosed) := by
  rw [partFrom_eq, isClosed_closeAll]
  exact (parts_leaveAll sessions c ([], r)).trans (by simp [parts])

theorem disconnectAll_onlyUnbinds (r : Room) : OnlyUnbinds r r.disconnectAll.2 := by
  have hr : r.disconnectAll.2.roster = r.roster.clear.2 := roster_partFrom _ _
  have hb : r.disconnectAll.2.boundLinks = [] := by rw [boundLinks, hr]; rfl
  have hc : ∀ c, (r.disconnectAll.2.links c).isClosed =
      (decide (c ∈ r.boundLinks) || (r.links c).isClosed) :=
    fun c => isClosed_partFrom { r with roster := r.roster.clear.2 } r.roster.sessions c
  refine ⟨hr ▸ Roster.clear_wf _, hb ▸ List.nil_sublist _, fun c h _ => ?_, fun c h => ?_⟩
  · rw [hc, decide_eq_true h, Bool.true_or]
  · rw [hc, h, Bool.or_true]

/-! ## Speaking -/

theorem sendPrivate_onlyUnbinds {r : Room} (hw : r.roster.WF) (sender target payload : Text) :
    OnlyUnbinds r (r.sendPrivate sender target payload).2 := by
  unfold sendPrivate
  simp only
  split
  · rename_i s _
    have h := (write_onlyWrites r s.link
      (Wire.Message.private sender target payload).wire).onlyUnbinds hw
    split <;> exact h
  · exact (tellDirectory_onlyEvicts r target _).onlyUnbinds hw

theorem converse_onlyUnbinds {r : Room} (hw : r.roster.WF) (speaker : Session) (text : Text) :
    OnlyUnbinds r (r.converse speaker text).2 := by
  cases ht : Wire.Chat.parse text with
  | broadcast said =>
    rw [converse, ht]
    exact (broadcast_onlyWrites r _ _).onlyUnbinds hw
  | personal target payload =>
    have h := sendPrivate_onlyUnbinds hw speaker.name target payload
    rw [converse_personal r speaker ht]
    simp only
    split
    · exact h.trans ((notifyInvalid_onlyWrites _ _ _).onlyUnbinds h.wf)
    · exact h

end Parley.Room
