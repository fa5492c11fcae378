/-
The agreement of sessions and connections in a house, whatever happens in it and in which order: a
connection has at most one session, and only while it is active; an active connection without a
session has a closed link; and one whose worker has ended never has a session again. The invariant
is `Agrees`; each move keeps it, since a move either only unbinds, or it is a connection that comes,
or a frame that does what `Rebinds` says.
-/
import Parley.Proofs.House.Moves
import Parley.Proofs.Room.Frames

namespace Parley.House

/-- The invariant of sessions and connections. -/
structure Agrees (h : House) : Prop where
  wf : h.room.roster.WF
  once : h.room.boundLinks.Nodup
  active : ∀ c ∈ h.room.boundLinks, h.stage? c = some .active
  shut : ∀ c, h.stage? c = some .active → c ∉ h.room.boundLinks →
    (h.room.links c).isClosed = true
  own : ∀ c w, h.workers c = some w → w.conn = c
  ended : ∀ c w, h.workers c = some w → w.ended = true → w.stage = .closed

theorem opened_agrees (room : Room) : (opened room).Agrees where
  wf := Roster.empty_wf 0
  once := List.nodup_nil
  active := nofun
  shut := nofun
  own := nofun
  ended := nofun

/-! ## One step -/

section Step

variable {h : House} (hc : h.Agrees)
include hc

theorem room_agrees {room : Room} (ho : Room.OnlyUnbinds h.room room) :
    ({ h with room } : House).Agrees := by
  refine ⟨ho.wf, ho.fewer.nodup hc.once, fun c hb => hc.active c (ho.fewer.subset hb),
    fun c hs hb => ?_, hc.own, hc.ended⟩
  by_cases hm : c ∈ h.room.boundLinks
  · exact ho.shut c hm hb
  · exact ho.stays c (hc.shut c hs hm)

theorem workers_put_agrees {w : Worker} (he : w.ended = true → w.stage = .closed) (room : Room) :
    (∀ c w', (h.put room w).workers c = some w' → w'.conn = c) ∧
    (∀ c w', (h.put room w).workers c = some w' → w'.ended = true → w'.stage = .closed) := by
  constructor
  · intro c w' hw
    rw [workers_put] at hw
    split at hw
    · rename_i e; cases hw; exact e.symm
    · exact hc.own c w' hw
  · intro c w' hw
    rw [workers_put] at hw
    split at hw
    · cases hw; exact he
    · exact hc.ended c w' hw

/-- A worker changes its stage while sessions end: it may leave the active stage only if nothing
stays bound to it, and it does not come to it. -/
theorem put_agrees {room : Room} {w : Worker} (ho : Room.OnlyUnbinds h.room room)
    (hkeep : w.stage = .active → h.stage? w.conn = some .active)
    (hleave : w.stage ≠ .active → w.conn ∉ room.boundLinks)
    (he : w.ended = true → w.stage = .closed) : (h.put room w).Agrees := by
  have hr := room_agrees hc ho
  obtain ⟨hown, hended⟩ := workers_put_agrees hc he room
  refine ⟨hr.wf, hr.once, fun c hb => ?_, fun c hs hb => ?_, hown, hended⟩
  · rw [stage?_put]
    split
    · rename_i e
      by_contra hne
      exact hleave (fun ha => hne (congrArg some ha)) (e ▸ hb)
    · exact hr.active c hb
  · rw [stage?_put] at hs
    split at hs
    · rename_i e
      exact hr.shut c (e ▸ hkeep (Option.some.inj hs)) hb
    · exact hr.shut c hs hb

/-- A connection that comes to be active is bound, and was not before. -/
theorem put_active_agrees {room : Room} {w : Worker} (hwf : room.roster.WF)
    (hb : room.boundLinks = h.room.boundLinks ++ [w.conn])
    (hl : ∀ c, (room.links c).isClosed = (h.room.links c).isClosed)
    (hn : h.stage? w.conn ≠ some .active) (ha : w.stage = .active) (he : w.ended = false) :
    (h.put room w).Agrees := by
  obtain ⟨hown, hended⟩ := workers_put_agrees hc (w := w) (by simp [he]) room
  have hfresh : w.conn ∉ h.room.boundLinks := fun hm => hn (hc.active _ hm)
  refine ⟨hwf, ?_, fun c hm => ?_, fun c hs hm => ?_, hown, hended⟩
  · show room.boundLinks.Nodup
    rw [hb, List.nodup_append]
    refine ⟨hc.once, List.nodup_singleton _, fun a ha b hb' e => ?_⟩
    rw [List.mem_singleton.1 hb'] at e
    exact hfresh (e ▸ ha)
  · rw [stage?_put]
    split
    · rw [ha]
    · rename_i hne
      rw [room_put, hb, List.mem_append, List.mem_singleton] at hm
      rcases hm with hm | e
      · exact hc.active c hm
      · exact absurd e hne
  · rw [room_put, hb, List.mem_append, List.mem_singleton, not_or] at hm
    rw [stage?_put, if_neg hm.2] at hs
    exact (hl c).trans (hc.shut c hs hm.1)

theorem connect_agrees (conn : ConnId) (react : Nat → Text → Outcome) :
    (h.step (.connect conn react)).Agrees := by
  simp only [step]
  cases hw : h.workers conn with
  | some w => exact hc
  | none =>
    have hn : h.stage? conn = none := by rw [stage?, hw]; rfl
    have hfresh : conn ∉ h.room.boundLinks := fun hm => by
      have := hc.active conn hm
      rw [hn] at this
      cases this
    obtain ⟨hown, hended⟩ :=
      workers_put_agrees hc (w := (Worker.start { conn }).1) (by simp [Worker.start]) _
    -- the fresh link takes the place of one that nothing is bound to
    refine ⟨hc.wf, hc.once, fun c hb => ?_, fun c hs hb => ?_, hown, hended⟩
    · rw [stage?_put, if_neg]
      · exact hc.active c hb
      · rintro rfl; exact hfresh hb
    · rw [stage?_put] at hs
      split at hs
      · cases hs
      · rename_i hne
        have hl : h.room.links.set conn { react } c = h.room.links c := Links.set_of_ne _ _ hne
        show ((h.room.links.set conn { react }) c).isClosed = true
        rw [hl]
        exact hc.shut c hs hb

theorem frame_agrees (conn : ConnId) (raw : Text) (now : Nat) :
    (h.step (.frame conn raw now)).Agrees := by
  cases hw : h.workers conn with
  | none => simp only [step, hw]; exact hc
  | some w =>
    obtain rfl := hc.own conn w hw
    rw [step_frame hw]
    have hstage := stage?_of_workers hw
    -- whoever is not active is not bound, and ending bindings does not change that
    have hbound : ∀ room, Room.OnlyUnbinds h.room room → w.stage ≠ .active →
        w.conn ∉ room.boundLinks := by
      intro room ho hne hm
      have := hc.active _ (ho.fewer.subset hm)
      rw [hstage] at this
      exact hne (Option.some.inj this)
    have hended : w.ended = true → w.stage = .closed := hc.ended _ w hw
    have hd := Room.dispatch_rebinds hc.wf w.conn w.stage raw now
    generalize h.room.dispatch w.conn w.stage raw now = p at hd ⊢
    obtain ⟨after, room⟩ := p
    generalize hst : w.stage = before at hd hbound hstage hended
    simp only at hd
    cases hd with
    | begins unregistered wf bound same =>
      -- a worker that has ended shows the closed stage, at which nothing registers
      have hopen : w.ended = false := by
        rw [← Bool.not_eq_true]
        intro he
        rcases unregistered with rfl | rfl <;> cases hended he
      refine put_active_agrees hc wf bound same (fun ha => ?_) rfl hopen
      rcases unregistered with rfl | rfl <;> cases hstage.symm.trans ha
    | asked unregistered only =>
      refine put_agrees hc only (fun ha => by cases ha) (fun _ => hbound room only ?_) fun he => ?_
      · rcases unregistered with rfl | rfl <;> simp
      · rcases unregistered with rfl | rfl <;> cases hended he
    | stays only =>
      exact put_agrees hc only (fun ha => ha ▸ hstage) (hbound room only) hended
    | ends only unbound =>
      exact put_agrees hc only (fun ha => by cases ha) (fun _ => unbound hc.once) fun _ => rfl

theorem finish_agrees (conn : ConnId) : (h.step (.finish conn)).Agrees := by
  cases hw : h.workers conn with
  | none => simp only [step, hw]; exact hc
  | some w =>
    obtain rfl := hc.own conn w hw
    cases hn : w.ended with
    | true => simp only [step, hw, hn, if_true]; exact hc
    | false =>
      rw [step_finish hw hn]
      exact put_agrees hc (Room.finish_onlyUnbinds hc.wf w) (fun ha => by cases ha)
        (fun _ => Room.finish_unbinds hc.wf w hc.once) fun _ => rfl

theorem order_agrees (conn : ConnId) (frame : Text) : (h.step (.order conn frame)).Agrees := by
  refine room_agrees hc (.of_same hc.wf rfl fun c => ?_)
  exact Room.isClosed_write h.room conn c frame

theorem step_agrees (m : Move) : (h.step m).Agrees := by
  cases m with
  | connect conn react => exact connect_agrees hc conn react
  | frame conn raw now => exact frame_agrees hc conn raw now
  | reap now threshold => exact room_agrees hc (Room.reap_onlyUnbinds hc.wf now threshold)
  | disconnect id =>
    simp only [step]
    cases hd : h.room.disconnect? id with
    | none => exact hc
    | some p => exact room_agrees hc (Room.disconnect?_onlyUnbinds hc.wf hd)
  | disconnectAll => exact room_agrees hc (Room.disconnectAll_onlyUnbinds h.room)
  | order conn frame => exact order_agrees hc conn frame
  | finish conn => exact finish_agrees hc conn

end Step

/-! ## Every run -/

theorem run_agrees {h : House} (hc : h.Agrees) (moves : List Move) : (h.run moves).Agrees := by
  induction moves generalizing h with
  | nil => exact hc
  | cons m rest ih => exact ih (step_agrees hc m)

/-! ## Workers that have ended -/

theorem put_hasEnded {h : House} {c : ConnId} (he : h.HasEnded c) (room : Room) {w : Worker}
    (hw : c = w.conn → w.ended = true) : (h.put room w).HasEnded c := by
  obtain ⟨w', hw', he⟩ := he
  by_cases hc : c = w.conn
  · exact ⟨w, (workers_put ..).trans (if_pos hc), hw hc⟩
  · exact ⟨w', ((workers_put ..).trans (if_neg hc)).trans hw', he⟩

theorem step_hasEnded {h : House} (hc : h.Agrees) (m : Move) {c : ConnId} (he : h.HasEnded c) :
    (h.step m).HasEnded c := by
  have hsame : ∀ w, h.workers c = some w → w.ended = true := by
    obtain ⟨w', hw', he'⟩ := he
    rintro w hw
    cases hw.symm.trans hw'
    exact he'
  cases m with
  | connect conn react =>
    simp only [step]
    cases hn : h.workers conn with
    | some _ => exact he
    | none =>
      -- whose worker has ended has come before, so it does not come again
      refine put_hasEnded he _ fun e => ?_
      obtain ⟨w', hw', -⟩ := he
      cases (e ▸ hw').symm.trans hn
  | frame conn raw now =>
    cases hw : h.workers conn with
    | none => simp only [step, hw]; exact he
    | some w =>
      obtain rfl := hc.own conn w hw
      rw [step_frame hw]
      exact put_hasEnded he _ fun e => hsame w (e ▸ hw)
  | reap now threshold => exact he
  | disconnect id =>
    simp only [step]
    cases h.room.disconnect? id <;> exact he
  | disconnectAll => exact he
  | order conn frame => exact he
  | finish conn =>
    cases hw : h.workers conn with
    | none => simp only [step, hw]; exact he
    | some w =>
      obtain rfl := hc.own conn w hw
      cases hn : w.ended with
      | true => simp only [step, hw, hn, if_true]; exact he
      | false =>
        rw [step_finish hw hn]
        exact put_hasEnded he _ fun _ => rfl

theorem run_hasEnded {h : House} (hc : h.Agrees) (moves : List Move) {c : ConnId}
    (he : h.HasEnded c) : (h.run moves).HasEnded c := by
  induction moves generalizing h with
  | nil => exact he
  | cons m rest ih => exact ih (step_agrees hc m) (step_hasEnded hc m he)

/-! ## Sessions and connections -/

theorem length_sessionsOn {h : House} (hc : h.Agrees) (c : ConnId) :
    (h.sessionsOn c).length ≤ 1 := by
  have hl : (h.sessionsOn c).length = h.room.boundLinks.count c := by
    rw [List.count_eq_length_filter, Room.boundLinks, List.filter_map, List.length_map]
    rfl
  rw [hl]
  exact List.nodup_iff_count_le_one.1 hc.once c

theorem sessionsOn_eq_nil {h : House} {c : ConnId} :
    h.sessionsOn c = [] ↔ c ∉ h.room.boundLinks := by
  rw [sessionsOn, List.filter_eq_nil_iff, Room.mem_boundLinks, not_exists]
  constructor
  · rintro hn s ⟨hs, hl⟩; exact hn s hs (by simpa using hl)
  · intro hn s hs hl; exact hn s ⟨hs, by simpa using hl⟩

theorem sessionsOn_of_ended {h : House} (hc : h.Agrees) {c : ConnId} (he : h.HasEnded c) :
    h.sessionsOn c = [] := by
  rw [sessionsOn_eq_nil]
  intro hb
  obtain ⟨w, hw, he⟩ := he
  have ha := hc.active c hb
  rw [stage?_of_workers hw, hc.ended c w hw he] at ha
  cases ha

/-- Whatever has happened, in whichever order: a connection has at most one session; it has one
only while it is active; if it is active and has none, its link is closed; and once its worker has
ended it has none, whatever happens then. -/
theorem sessions_follow_connections (room : Room) (moves : List Move) (c : ConnId) :
    let h := (opened room).run moves
    (h.sessionsOn c).length ≤ 1 ∧
    (h.sessionsOn c ≠ [] → h.stage? c = some .active) ∧
    (h.stage? c = some .active → h.sessionsOn c = [] → (h.room.links c).isClosed = true) ∧
    (h.HasEnded c → ∀ more, (h.run more).sessionsOn c = []) := by
  intro h
  have hc : h.Agrees := run_agrees (opened_agrees room) moves
  refine ⟨length_sessionsOn hc c, fun hn => ?_, fun ha hn => ?_, fun he more => ?_⟩
  · refine hc.active c ?_
    by_contra hb
    exact hn (sessionsOn_eq_nil.2 hb)
  · exact hc.shut c ha (sessionsOn_eq_nil.1 hn)
  · exact sessionsOn_of_ended (run_agrees hc more) (run_hasEnded hc more he)

example :
    let h := (opened {}).run [.connect ⟨1⟩ fun _ _ => .stalled,
      .frame ⟨1⟩ (Wire.Message.register "a".toList "ann".toList).wire 0,
      .disconnect "a".toList]
    h.stage? ⟨1⟩ = some .active ∧ h.sessionsOn ⟨1⟩ = [] ∧
      (h.room.links ⟨1⟩).isClosed = true := by decide

end Parley.House
