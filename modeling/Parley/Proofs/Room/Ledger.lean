/-
The count of those who are there. Whoever registers by a frame is counted, and so is whoever is
closed or reaped; only those who go when everybody is disconnected at once are counted nowhere. So
the sessions that have begun are those that are there, those that were closed or reaped, and those
that went uncounted (`Balanced`): the number of live sessions is too high by the latter for ever
after (`live_sessions_iff`).
-/
import Parley.Proofs.Room.Attendance
import Parley.Proofs.Room.Changes

namespace Parley

/-! ## One deed -/

/-- The books of an attendance, with some who have gone uncounted. -/
structure Attendance.Balanced (a : Attendance) (closed reaped uncounted : Nat) : Prop where
  ids : (a.sessions.map (·.id)).Nodup
  countsBegun : a.begun = .ofNat a.registered
  countsClosed : a.closed = .ofNat closed
  countsReaped : a.reaped = .ofNat reaped
  sum : a.registered = a.sessions.length + closed + reaped + uncounted

theorem succ_eq_ofNat {count : UInt64} {n : Nat} (h : count = .ofNat n) :
    count + 1 = .ofNat (n + 1) := by
  rw [h, UInt64.ofNat_add]
  rfl

namespace Attendance

theorem length_without {a : Attendance} (h : (a.sessions.map (·.id)).Nodup) {id : SessionId}
    (hid : a.has id = true) :
    (a.sessions.filter (·.id ≠ id)).length + 1 = a.sessions.length := by
  obtain ⟨s, hs, rfl⟩ := has_iff.1 hid
  exact length_filter_key h hs

namespace Balanced

variable {a : Attendance} {closed reaped uncounted : Nat} (h : a.Balanced closed reaped uncounted)
include h

theorem begins {id : SessionId} (fresh : a.has id = false) (name : Text) (conn : ConnId)
    (mark : Nat) :
    (a.after (.begins id name conn mark true)).Balanced closed reaped uncounted := by
  refine ⟨nodup_map_concat h.ids ?_, succ_eq_ofNat h.countsBegun, h.countsClosed,
    h.countsReaped, ?_⟩
  · simpa [has] using fresh
  · show a.registered + 1 = (a.sessions ++ [_]).length + closed + reaped + uncounted
    have hsum := h.sum
    simp only [List.length_append, List.length_singleton]
    omega

theorem marks (id : SessionId) (mark : Nat) :
    (a.after (.marks id mark)).Balanced closed reaped uncounted := by
  refine ⟨?_, h.countsBegun, h.countsClosed, h.countsReaped, ?_⟩
  · exact (Roster.map_touch (·.id) (fun _ _ => rfl) a.sessions id mark).symm ▸ h.ids
  · show a.registered = (a.sessions.map _).length + closed + reaped + uncounted
    rw [List.length_map]
    exact h.sum

/-- Without somebody who was there, there is one to be counted elsewhere. -/
theorem sum_without {id : SessionId} (hid : a.has id = true) :
    a.registered =
      (a.sessions.filter (·.id ≠ id)).length + 1 + closed + reaped + uncounted := by
  rw [length_without h.ids hid]
  exact h.sum

theorem closes (id : SessionId) :
    ∃ closed, (a.after (.closes id)).Balanced closed reaped uncounted := by
  by_cases hid : a.has id = true
  · rw [after, if_pos hid]
    have hsum := h.sum_without hid
    refine ⟨closed + 1, nodup_map_filter h.ids _, h.countsBegun, succ_eq_ofNat h.countsClosed,
      h.countsReaped, ?_⟩
    simp only
    omega
  · rw [after, if_neg hid]
    exact ⟨closed, h⟩

theorem reaps (id : SessionId) :
    ∃ reaped, (a.after (.reaps id)).Balanced closed reaped uncounted := by
  by_cases hid : a.has id = true
  · rw [after, if_pos hid]
    have hsum := h.sum_without hid
    refine ⟨reaped + 1, nodup_map_filter h.ids _, h.countsBegun, h.countsClosed,
      succ_eq_ofNat h.countsReaped, ?_⟩
    simp only
    omega
  · rw [after, if_neg hid]
    exact ⟨reaped, h⟩

theorem clears : (a.after .clears).Balanced closed reaped (uncounted + a.sessions.length) := by
  refine ⟨List.nodup_nil, h.countsBegun, h.countsClosed, h.countsReaped, ?_⟩
  have hsum := h.sum
  simp only [after, List.length_nil]
  omega

omit h in
/-- Whoever is closed or reaped is counted. -/
theorem ends {deeds : List Deed} (hd : ∀ d ∈ deeds, ∃ id, d = .closes id ∨ d = .reaps id) :
    ∀ {a : Attendance} {closed reaped : Nat}, a.Balanced closed reaped uncounted →
      ∃ closed reaped, (deeds.foldl after a).Balanced closed reaped uncounted := by
  induction deeds with
  | nil => exact fun h => ⟨_, _, h⟩
  | cons d rest ih =>
    intro a closed reaped h
    have hrest : ∀ d ∈ rest, ∃ id, d = .closes id ∨ d = .reaps id :=
      fun d hd' => hd d (List.mem_cons_of_mem _ hd')
    obtain ⟨id, rfl | rfl⟩ := hd d List.mem_cons_self
    · obtain ⟨closed, hclosed⟩ := h.closes id
      exact ih hrest hclosed
    · obtain ⟨reaped, hreaped⟩ := h.reaps id
      exact ih hrest hreaped

/-- As long as the registrations fit into 64 bits, the counters have not wrapped. -/
theorem toNat_counts (hfew : a.registered < UInt64.size) :
    a.begun.toNat = a.registered ∧ a.closed.toNat = closed ∧ a.reaped.toNat = reaped := by
  -- no more can have been closed or reaped than have begun
  have hsum := h.sum
  rw [h.countsBegun, h.countsClosed, h.countsReaped]
  exact ⟨UInt64.toNat_ofNat_of_lt' hfew,
    UInt64.toNat_ofNat_of_lt' (show closed < UInt64.size by omega),
    UInt64.toNat_ofNat_of_lt' (show reaped < UInt64.size by omega)⟩

end Balanced
end Attendance

namespace Room

/-! ## Every move and every run -/

/-- Each registration comes of a move of its own. -/
theorem registered_step {r : Room} (hw : r.WF) (m : Move) :
    (r.step m).roster.registered ≤ r.roster.registered + 1 := by
  show (r.step m).attendance.registered ≤ r.attendance.registered + 1
  rw [attendance_step hw.roster m]
  cases does r m with
  | begins id name conn mark counted hdeeds => rw [hdeeds]; exact Nat.le_refl _
  | marks id mark hdeeds => rw [hdeeds]; exact Nat.le_succ _
  | ends hends => rw [(Attendance.foldl_ends hends r.attendance).2]; exact Nat.le_succ _
  | clears hall => rw [hall]; exact Nat.le_succ _

theorem registered_run {r : Room} (hw : r.WF) (moves : List Move) :
    (r.run moves).roster.registered ≤ r.roster.registered + moves.length := by
  induction moves generalizing r with
  | nil => exact Nat.le_refl _
  | cons m rest ih =>
    have hfirst := registered_step hw m
    have hrest := ih (r := r.step m) (run_wf hw [m])
    show ((r.step m).run rest).roster.registered ≤ _
    simp only [List.length_cons]
    omega

/-- How many sessions are there whenever everybody is disconnected at once, over a whole run. -/
def dismissed (r : Room) : List Move → Nat
  | [] => 0
  | m :: rest => (if m = .disconnectAll then r.roster.size else 0) + dismissed (r.step m) rest

theorem step_balanced {r : Room} (hw : r.WF) {m : Move}
    (hm : ∀ id name conn mark, m ≠ .register id name conn mark) {closed reaped uncounted : Nat}
    (h : r.attendance.Balanced closed reaped uncounted) :
    ∃ closed reaped, (r.step m).attendance.Balanced closed reaped
      (uncounted + if m = .disconnectAll then r.roster.size else 0) := by
  by_cases hall : m = .disconnectAll
  · subst hall
    rw [attendance_step hw.roster, if_pos rfl]
    exact ⟨closed, reaped, h.clears⟩
  · rw [attendance_step hw.roster, if_neg hall]
    cases does r m with
    | begins id name conn mark counted hdeeds fresh origin =>
      cases counted with
      | false => exact absurd origin (hm id name conn mark)
      | true =>
        rw [hdeeds]
        exact ⟨closed, reaped, h.begins fresh name conn mark⟩
    | marks id mark hdeeds =>
      rw [hdeeds]
      exact ⟨closed, reaped, h.marks id mark⟩
    | ends hends => exact Attendance.Balanced.ends hends h
    | clears h => exact absurd h hall

theorem run_balanced {moves : List Move}
    (hm : ∀ id name conn mark, Move.register id name conn mark ∉ moves) :
    ∀ {r : Room} {closed reaped uncounted : Nat}, r.WF →
      r.attendance.Balanced closed reaped uncounted →
      ∃ closed reaped, (r.run moves).attendance.Balanced closed reaped
        (uncounted + dismissed r moves) := by
  induction moves with
  | nil => exact fun _ h => ⟨_, _, h⟩
  | cons m rest ih =>
    intro r closed reaped uncounted hw h
    obtain ⟨closed, reaped, hfirst⟩ := step_balanced hw
      (fun id name conn mark e => hm id name conn mark (e ▸ List.mem_cons_self)) h
    rw [dismissed, ← Nat.add_assoc]
    exact ih (fun id name conn mark hr => hm id name conn mark (List.mem_cons_of_mem _ hr))
      (run_wf hw [m]) hfirst

/-- A room in which nothing has happened and nothing been counted. -/
def fresh (r : Room) : Room := { r.emptied with tally := {} }

/-- The number of live sessions, where the counters have not wrapped. -/
theorem liveSessions_of_balanced {r : Room} {closed reaped uncounted : Nat}
    (h : r.attendance.Balanced closed reaped uncounted) (hfew : r.roster.registered < UInt64.size) :
    r.tally.liveSessions.toNat = r.roster.size + uncounted := by
  obtain ⟨hbegun, hclosed, hreaped⟩ := h.toNat_counts hfew
  have hsum : r.roster.registered = r.roster.size + closed + reaped + uncounted := h.sum
  have hended : (r.tally.sessionsClosed + r.tally.sessionsReaped).toNat = closed + reaped := by
    rw [UInt64.toNat_add]
    show (r.attendance.closed.toNat + r.attendance.reaped.toNat) % UInt64.size = _
    rw [hclosed, hreaped, Nat.mod_eq_of_lt (by omega)]
  have htotal : r.tally.sessionsRegistered.toNat = r.roster.registered := hbegun
  have hle : r.tally.sessionsClosed + r.tally.sessionsReaped ≤ r.tally.sessionsRegistered := by
    rw [UInt64.le_iff_toNat_le, hended, htotal]
    omega
  rw [Tally.liveSessions, if_pos hle, UInt64.toNat_sub_of_le _ _ hle, hended, htotal]
  omega

/-- In a room that begins empty and with fresh counters, and where sessions begin by frames only, as
many sessions have begun as are there, have been closed, have been reaped, or were there when
everybody was disconnected at once. The last are counted nowhere: the number of live sessions is
too high by them, and is that of the sessions who are there exactly if there were none of them. -/
theorem live_sessions_iff (room : Room) {moves : List Move}
    (hm : ∀ id name conn mark, Move.register id name conn mark ∉ moves)
    (hfew : moves.length < UInt64.size) :
    let r := room.fresh.run moves
    let uncounted := dismissed room.fresh moves
    r.tally.sessionsRegistered.toNat =
      r.roster.size + r.tally.sessionsClosed.toNat + r.tally.sessionsReaped.toNat + uncounted ∧
    r.tally.liveSessions.toNat = r.roster.size + uncounted ∧
    (r.tally.liveSessions.toNat = r.roster.size ↔ uncounted = 0) := by
  intro r uncounted
  have hw : room.fresh.WF := ⟨Roster.empty_wf 0, List.nodup_nil⟩
  have hempty : room.fresh.attendance.Balanced 0 0 0 := ⟨List.nodup_nil, rfl, rfl, rfl, rfl⟩
  obtain ⟨closed, reaped, h⟩ := run_balanced hm hw hempty
  rw [Nat.zero_add] at h
  have hregistered : r.roster.registered < UInt64.size := by
    have hle : r.roster.registered ≤ 0 + moves.length := registered_run hw moves
    omega
  have hlive : r.tally.liveSessions.toNat = r.roster.size + uncounted :=
    liveSessions_of_balanced h hregistered
  obtain ⟨hbegun, hclosed, hreaped⟩ := h.toNat_counts hregistered
  refine ⟨?_, hlive, by omega⟩
  show r.attendance.begun.toNat =
    r.roster.size + r.attendance.closed.toNat + r.attendance.reaped.toNat + uncounted
  rw [hbegun, hclosed, hreaped]
  exact h.sum

/-- One of two sessions logs off, then everybody is disconnected at once, and somebody else comes:
two of the three who came are gone, but only one of them is counted. -/
def comeAndGo : List Move :=
  [.frame ⟨1⟩ .awaitingRegister (Wire.Message.register "1".toList "ann".toList).wire 0,
    .frame ⟨2⟩ .awaitingRegister (Wire.Message.register "2".toList "bob".toList).wire 0,
    .frame ⟨1⟩ .active (Wire.Message.logoff "1".toList).wire 1,
    .disconnectAll,
    .frame ⟨3⟩ .awaitingRegister (Wire.Message.register "3".toList "cat".toList).wire 2]

theorem live_sessions_of_three :
    let r := (fresh {}).run comeAndGo
    (∀ id name conn mark, Move.register id name conn mark ∉ comeAndGo) ∧
    comeAndGo.length < UInt64.size ∧
    r.roster.size = 1 ∧ dismissed (fresh {}) comeAndGo = 1 ∧
    r.tally.liveSessions.toNat = 2 := by
  intro r
  have hm : ∀ id name conn mark, Move.register id name conn mark ∉ comeAndGo := by
    simp [comeAndGo]
  have hsize : r.roster.size = 1 := by decide
  have huncounted : dismissed (fresh {}) comeAndGo = 1 := by decide
  obtain ⟨-, hlive, -⟩ := live_sessions_iff {} hm (by decide)
  refine ⟨hm, by decide, hsize, huncounted, ?_⟩
  rw [hlive, huncounted]
  show r.roster.size + 1 = 2
  rw [hsize]

/-- When everybody has been disconnected at once nobody is there, but whoever was there still counts
as live. -/
theorem live_after_disconnectAll :
    let r := (fresh {}).run
      [.frame ⟨1⟩ .awaitingRegister (Wire.Message.register "1".toList "ann".toList).wire 0,
        .disconnectAll]
    r.roster.size = 0 ∧ r.tally.liveSessions = 1 := by
  decide

end Room
end Parley
