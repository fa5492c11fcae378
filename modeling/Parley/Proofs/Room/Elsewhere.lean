/-
What happens elsewhere than on one connection, as that connection sees it. Nobody else begins a
session on it, and those that are bound to it keep their ids and names for as long as they last
(`act_bearers`); its link, once closed, stays closed (`isClosed_act`), since links count each
closing that is logged, and nothing that was logged is taken back.
-/
import Parley.Proofs.Room.Accounts
import Parley.Proofs.Room.Causes
import Parley.Proofs.Room.Changes

namespace Parley.Room

/-- Whether an act is a connection's own: a frame from it, or a registration on it. -/
def Act.isOf (conn : ConnId) : Act → Bool
  | .move (.frame c _ _ _) => c = conn
  | .move (.register _ _ c _) => c = conn
  | _ => false

/-! ## The sessions of a connection -/

/-- The sessions among some that are bound to a connection, by their ids and names. -/
def bearersOf (conn : ConnId) (sessions : List Session) : List (SessionId × Text) :=
  (sessions.filter (·.link = conn)).map fun s => (s.id, s.name)

/-- The sessions that are bound to a connection, by their ids and names. -/
def bearers (r : Room) (conn : ConnId) : List (SessionId × Text) :=
  bearersOf conn r.roster.sessions

variable {r : Room} {conn : ConnId}

theorem mem_bearers {p : SessionId × Text} :
    p ∈ r.bearers conn ↔ ∃ s ∈ r.roster.sessions, s.link = conn ∧ (s.id, s.name) = p := by
  simp [bearers, bearersOf, and_assoc]

theorem length_bearers (r : Room) (conn : ConnId) :
    (r.bearers conn).length = r.boundLinks.count conn := by
  rw [List.count_eq_length_filter, boundLinks, List.filter_map, List.length_map, bearers, bearersOf,
    List.length_map]
  rfl

theorem bearers_eq_nil : r.bearers conn = [] ↔ conn ∉ r.boundLinks := by
  rw [← List.length_eq_zero_iff, length_bearers, List.count_eq_zero]

theorem bearersOf_sublist {sessions fewer : List Session} (h : fewer.Sublist sessions) :
    (bearersOf conn fewer).Sublist (bearersOf conn sessions) :=
  (h.filter _).map _

/-- A sign of life changes neither ids nor names nor links. -/
theorem bearersOf_mark (sessions : List Session) (id : SessionId) (mark : Nat) :
    bearersOf conn (sessions.map fun s => if s.id = id then { s with mark := max s.mark mark }
      else s) = bearersOf conn sessions := by
  have hlink : ∀ s : Session,
      (if s.id = id then { s with mark := max s.mark mark } else s).link = s.link := by
    intro s
    split <;> rfl
  have hname : ∀ s : Session, ((if s.id = id then { s with mark := max s.mark mark } else s).id,
      (if s.id = id then { s with mark := max s.mark mark } else s).name) = (s.id, s.name) := by
    intro s
    split <;> rfl
  rw [bearersOf, List.filter_map, List.map_map, bearersOf]
  simp only [Function.comp_def, hlink, hname]

/-! ## Acts elsewhere -/

theorem step_bearers (hw : r.roster.WF) {m : Move} (hm : (Act.move m).isOf conn = false) :
    ((r.step m).bearers conn).Sublist (r.bearers conn) := by
  have hsessions : (r.step m).roster.sessions =
      ((r.deeds m).foldl Attendance.after r.attendance).sessions :=
    congrArg Attendance.sessions (attendance_step hw m)
  unfold bearers
  rw [hsessions]
  cases does r m with
  | begins id name c mark counted hdeeds fresh origin =>
    have hother : c ≠ conn := by
      rintro rfl
      cases counted with
      | true =>
        obtain ⟨stage, raw, rfl, -⟩ := origin
        simp [Act.isOf] at hm
      | false =>
        rw [show m = .register id name c mark from origin] at hm
        simp [Act.isOf] at hm
    rw [hdeeds]
    show (bearersOf conn (r.roster.sessions ++ [_])).Sublist _
    rw [bearersOf, List.filter_append, List.filter_cons_of_neg (by simpa using hother),
      List.filter_nil, List.append_nil]
    exact List.Sublist.refl _
  | marks id mark hdeeds =>
    rw [hdeeds]
    show (bearersOf conn (r.roster.sessions.map _)).Sublist _
    rw [bearersOf_mark]
  | ends hends => exact bearersOf_sublist (Attendance.foldl_ends hends r.attendance).1
  | clears hall =>
    subst hall
    exact List.nil_sublist _

theorem bearers_congr {r' : Room} (h : r'.attendance = r.attendance) :
    (r'.bearers conn).Sublist (r.bearers conn) := by
  rw [bearers, bearers, show r'.roster.sessions = _ from congrArg Attendance.sessions h]
  exact List.Sublist.refl _

theorem sweepStep_bearers (r : Room) (w : Sweep) :
    ((Sweep.step r w).1.bearers conn).Sublist (r.bearers conn) := by
  unfold Sweep.step
  split
  · exact .refl _
  · exact bearers_congr (announce_talks r _).attendance
  · rename_i s rest _ _
    have hline : ((r.publish (Sweep.lostLine s.name)).bearers conn).Sublist (r.bearers conn) :=
      bearers_congr (publish_quiet r _).talks.attendance
    simp only
    split
    · exact hline
    · rename_i gone roster hr
      refine List.Sublist.trans ?_ hline
      show (bearersOf conn roster.sessions).Sublist _
      rw [(Roster.remove?_sessions hr).2.1]
      exact bearersOf_sublist List.filter_sublist
  · exact .refl _

/-- The sessions of a connection at most end by what happens elsewhere. -/
theorem act_bearers (hw : r.roster.WF) {a : Act} (ha : a.isOf conn = false) :
    ((r.act a).bearers conn).Sublist (r.bearers conn) := by
  cases a with
  | move m => exact step_bearers hw ha
  | broadcast frame sender => exact bearers_congr (broadcast_talks r frame sender).attendance
  | sendPrivate sender target payload => exact bearers_congr (sendPrivate_talks r ..).attendance
  | write c frame => exact bearers_congr (write_talks r c frame).attendance
  | close c => exact .refl _
  | sweepStep w => exact sweepStep_bearers r w

theorem act_wf (hw : r.WF) (a : Act) : (r.act a).WF := by
  cases a with
  | move m => exact run_wf hw [m]
  | broadcast frame sender => exact (broadcast_onlyWrites r frame sender).changes.wf hw
  | sendPrivate sender target payload => exact (sendPrivate_changes r ..).wf hw
  | write c frame => exact (write_onlyWrites r c frame).changes.wf hw
  | close c => exact ⟨hw.roster, hw.guests⟩
  | sweepStep w => exact (sweepStep_changes r w).wf hw

/-! ## Links -/

theorem act_logs (r : Room) (a : Act) : ∃ events, (r.act a).log = r.log ++ events := by
  have hlogs {p : Event → Prop} {r' : Room} (h : Logs p r r') :
      ∃ events, r'.log = r.log ++ events :=
    let ⟨events, hlog, _⟩ := h
    ⟨events, hlog⟩
  cases a with
  | move m => exact hlogs (step_causes r m)
  | broadcast frame sender => exact hlogs (broadcast_logs r frame sender)
  | sendPrivate sender target payload => exact hlogs (sendPrivate_logs r ..)
  | write c frame => exact hlogs (write_logs r c frame)
  | close c => exact hlogs (close_logs r c)
  | sweepStep w => exact hlogs (Sweep.step_logs r w).1

/-- Whatever happens, a link that has been closed stays closed. -/
theorem isClosed_act (a : Act) (h : (r.links conn).isClosed = true) :
    ((r.act a).links conn).isClosed = true := by
  obtain ⟨events, hlog⟩ := act_logs r a
  have hshut : (r.act a).shut = r.shut ++ events.filterMap Event.closed? := by
    rw [shut, hlog, List.filterMap_append]
    rfl
  have hcloses : (((r.act a).links conn).closes : Int) - (r.act a).shut.count conn =
      (r.links conn).closes - r.shut.count conn :=
    congrFun (congrArg Books.closes (books_act r a)) conn
  rw [hshut, List.count_append] at hcloses
  have hbefore : (r.links conn).closes ≠ 0 := by simpa [Link.isClosed] using h
  have hafter : ((r.act a).links conn).closes ≠ 0 := by omega
  simpa [Link.isClosed] using hafter

end Parley.Room
