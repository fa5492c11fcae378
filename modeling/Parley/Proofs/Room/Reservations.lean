/-
Reservations and nicknames. The nickname of a guest is kept by the bridge and its reservation by the
roster; whatever happens, short of everybody being disconnected at once, the reserved names are the
nicknames of the attached guests, each once (`Housed`). Frames for guests change neither, unless a
mailbox is full: then its guest is put out, which ends both.
-/
import Parley.Proofs.Room.Changes

namespace Parley.Room

/-- The invariant of guests and reservations. -/
structure Housed (r : Room) : Prop where
  wf : r.roster.WF
  ids : (r.bridge.seats.map (·.1)).Nodup
  reserved : r.roster.reserved.Perm (r.bridge.seats.filterMap (·.2))

theorem emptied_housed (r : Room) : Housed r.emptied :=
  ⟨Roster.empty_wf 0, List.nodup_nil, .nil⟩

/-! ## Every change and every run -/

/-- Filtering out a name that was reserved once takes one entry off the list. -/
theorem filter_ne_eq_erase {names : List Text} (h : names.Nodup) (name : Text) :
    names.filter (· ≠ name) = names.erase name := by
  rw [h.erase_eq_filter]
  refine List.filter_congr fun n _ => ?_
  by_cases hne : n = name <;> simp [hne]

theorem Change.housed {r r' : Room} (hc : Change r r') (h : Housed r) : Housed r' := by
  obtain ⟨hwf, hids⟩ := hc.wf ⟨h.wf, h.ids⟩
  refine ⟨hwf, hids, ?_⟩
  cases hc with
  | none roster seats =>
    rw [roster, seats]
    exact h.reserved
  | session op done reserved seats =>
    rw [reserved, seats]
    exact h.reserved
  | comes id fresh roster seats =>
    rw [roster, seats, List.filterMap_append]
    simpa using h.reserved
  | @goes id g bridge found roster seats =>
    have hperm := h.reserved.trans ((Bridge.seats_detach_perm h.ids found).filterMap (·.2))
    rw [roster, seats]
    cases hn : g.nickname with
    | none =>
      rw [hn] at hperm
      exact hperm
    | some name =>
      rw [hn] at hperm
      show (r.roster.reserved.filter (· ≠ name)).Perm _
      rw [filter_ne_eq_erase h.wf.reservedOnce]
      exact (hperm.erase name).trans (by simp)
  | @named id g name found unnamed reserved seats =>
    obtain ⟨rest, hbefore, hafter⟩ := Bridge.seats_nickname_perm name h.ids found
    rw [unnamed] at hbefore
    have hold := h.reserved.trans (hbefore.filterMap (·.2))
    have hnew := hafter.filterMap (·.2)
    rw [seats, (Roster.reserve?_some reserved).2]
    exact (hold.cons name).trans hnew.symm

theorem step_housed {r : Room} (h : Housed r) {m : Move} (hm : m ≠ .disconnectAll) :
    Housed (r.step m) :=
  (step_changes r hm).keeps (fun _ _ hc h => hc.housed h) h

theorem run_housed {r : Room} (h : Housed r) {moves : List Move}
    (hm : Move.disconnectAll ∉ moves) : Housed (r.run moves) := by
  induction moves generalizing r with
  | nil => exact h
  | cons m rest ih =>
    rw [List.mem_cons, not_or] at hm
    exact ih (step_housed h (Ne.symm hm.1)) hm.2

/-! ## Reservations and nicknames -/

theorem Housed.mem_reserved {r : Room} (h : Housed r) {name : Text} :
    name ∈ r.roster.reserved ↔ ∃ g ∈ r.bridge.guests, g.nickname = some name := by
  rw [h.reserved.mem_iff, Bridge.seats, List.filterMap_map, List.mem_filterMap]
  rfl

theorem Housed.distinct {r : Room} (h : Housed r) :
    r.bridge.guests.Pairwise fun g g' => ∀ name, g.nickname = some name →
      g'.nickname ≠ some name := by
  have hn : (r.bridge.guests.filterMap (·.nickname)).Nodup := by
    have hn := h.reserved.nodup_iff.1 h.wf.reservedOnce
    rw [Bridge.seats, List.filterMap_map] at hn
    exact hn
  refine (List.pairwise_filterMap.1 hn).imp fun hne name hg hg' => ?_
  exact hne name hg name hg' rfl

/-- Whatever has happened, short of everybody being disconnected at once: the reserved names are the
nicknames of the attached guests, no two guests share a nickname, and no session has the nickname of
a guest for its name. -/
theorem reservations_are_nicknames (room : Room) {moves : List Move}
    (hm : Move.disconnectAll ∉ moves) :
    let r := room.emptied.run moves
    (∀ name, name ∈ r.roster.reserved ↔ ∃ g ∈ r.bridge.guests, g.nickname = some name) ∧
    (r.bridge.guests.Pairwise fun g g' => ∀ name, g.nickname = some name →
      g'.nickname ≠ some name) ∧
    (∀ g ∈ r.bridge.guests, ∀ s ∈ r.roster.sessions, g.nickname ≠ some s.name) := by
  intro r
  have h : Housed r := run_housed (emptied_housed room) hm
  refine ⟨fun name => h.mem_reserved, h.distinct, fun g hg s hs hn => ?_⟩
  exact h.wf.apart s.name (h.mem_reserved.2 ⟨g, hg, hn⟩) s hs rfl

/-- A guest comes and is named, and a session begins under another name. -/
def oneOfEach : List Move :=
  [.attach "7".toList,
    .guestFrame "7".toList (Wire.Message.register "7".toList "ann".toList).wire,
    .frame ⟨1⟩ .awaitingRegister (Wire.Message.register "1".toList "bob".toList).wire 0]

theorem reservation_of_one_guest :
    let r := (emptied {}).run oneOfEach
    r.roster.reserved = ["ann".toList] ∧ r.roster.sessions.map (·.name) = ["bob".toList] ∧
    ∃ g ∈ r.bridge.guests, g.nickname = some "ann".toList := by
  refine ⟨by decide, by decide, ?_⟩
  obtain ⟨hreserved, -, -⟩ := @reservations_are_nicknames {} oneOfEach (by decide)
  exact (hreserved _).1 (by decide)

end Parley.Room
