/-
The names of those who take part. Sessions and guests share one space of names, and no two of them
have the same one, as long as everybody is disconnected at once only while no guest has a nickname.
Otherwise a guest who is still there goes on under a name that is reserved no more, so that anybody
may take it (`names_register_after_disconnectAll`).
-/
import Parley.Proofs.Room.Reservations

namespace Parley

/-- The nicknames of the attached guests. -/
def Bridge.nicknames (b : Bridge) : List Text := b.guests.filterMap (·.nickname)

namespace Room

/-- The names of all who take part: those of the sessions, and the nicknames of the guests. -/
def names (r : Room) : List Text := r.roster.sessions.map (·.name) ++ r.bridge.nicknames

/-- Whether moves disconnect everybody at once only while no guest has a nickname. -/
def Spares (r : Room) : List Move → Prop
  | [] => True
  | m :: rest => (m = .disconnectAll → r.bridge.nicknames = []) ∧ Spares (r.step m) rest

/-! ## Names that are unique -/

theorem Housed.reserved_perm {r : Room} (h : Housed r) :
    r.roster.reserved.Perm r.bridge.nicknames := by
  have hp := h.reserved
  rw [Bridge.seats, List.filterMap_map] at hp
  exact hp

theorem Housed.names_nodup {r : Room} (h : Housed r) : r.names.Nodup := by
  refine List.nodup_append.2 ⟨h.wf.names, h.reserved_perm.nodup_iff.1 h.wf.reservedOnce, ?_⟩
  rintro n hn m hm rfl
  obtain ⟨s, hs, rfl⟩ := List.mem_map.1 hn
  exact h.wf.apart _ (h.reserved_perm.mem_iff.2 hm) s hs rfl

/-- Where no guest has a nickname, no reservation is lost when everybody is disconnected. -/
theorem disconnectAll_housed {r : Room} (h : Housed r) (hn : r.bridge.nicknames = []) :
    Housed (r.step .disconnectAll) := by
  obtain ⟨hroster, hbridge⟩ := disconnectAll_eq r
  obtain ⟨hwf, hids⟩ := disconnectAll_wf r ⟨h.wf, h.ids⟩
  refine ⟨hwf, hids, ?_⟩
  show r.disconnectAll.2.roster.reserved.Perm (r.disconnectAll.2.bridge.seats.filterMap (·.2))
  rw [hroster, hbridge, Bridge.seats, List.filterMap_map]
  show [].Perm r.bridge.nicknames
  rw [hn]

theorem spares_housed {r : Room} (h : Housed r) {moves : List Move} (hm : Spares r moves) :
    Housed (r.run moves) := by
  induction moves generalizing r with
  | nil => exact h
  | cons m rest ih =>
    obtain ⟨hfirst, hrest⟩ := hm
    refine ih ?_ hrest
    by_cases hd : m = .disconnectAll
    · subst hd
      exact disconnectAll_housed h (hfirst rfl)
    · exact step_housed h hd

/-! ## Names that are lost -/

/-- After everybody has been disconnected at once, whoever registers gets any name, be it the
nickname of a guest who is still there. -/
theorem names_register_after_disconnectAll (r : Room) (id : SessionId) (name : Text)
    (conn : ConnId) (mark : Nat) :
    ((r.step .disconnectAll).step (.register id name conn mark)).names =
      name :: r.bridge.nicknames := by
  obtain ⟨hroster, hbridge⟩ := disconnectAll_eq r
  have hr : (r.step .disconnectAll).register? id name conn mark = some { r.disconnectAll.2 with
      roster := {
        sessions := [⟨id, name, conn, r.roster.registered + 1, mark⟩]
        holders := [(name, id)]
        registered := r.roster.registered + 1 } } := by
    show Option.map _ (r.disconnectAll.2.roster.register? id name conn mark) = _
    rw [hroster]
    rfl
  show (((r.step .disconnectAll).register? id name conn mark).getD _).names = _
  rw [hr, Option.getD_some, names]
  show [name] ++ r.disconnectAll.2.bridge.nicknames = name :: r.bridge.nicknames
  rw [hbridge]
  rfl

/-- While everybody is disconnected at once only where no guest has a nickname, no two of those who
take part have the same name. From there on, disconnecting everybody at once keeps it so, whatever
happens then, exactly if no guest has a nickname. -/
theorem names_unique_iff (room : Room) {moves : List Move} (hm : Spares room.emptied moves) :
    let r := room.emptied.run moves
    r.names.Nodup ∧
    ((∀ more, Spares (r.step .disconnectAll) more →
        ((r.step .disconnectAll).run more).names.Nodup) ↔ r.bridge.nicknames = []) := by
  intro r
  have h : Housed r := spares_housed (emptied_housed room) hm
  refine ⟨h.names_nodup, fun hall => ?_, fun hn more hmore => ?_⟩
  · cases hn : r.bridge.nicknames with
    | nil => rfl
    | cons name others =>
      -- somebody else registers under the first guest's nickname
      have htwice := hall [.register [] name ⟨0⟩ 0] ⟨nofun, trivial⟩
      rw [run, run, names_register_after_disconnectAll, hn] at htwice
      exact absurd List.mem_cons_self (List.nodup_cons.1 htwice).1
  · exact (spares_housed (disconnectAll_housed h hn) hmore).names_nodup

/-- A guest who came before everybody was disconnected, and a session that began after it. -/
theorem names_unique_of_session_and_guest :
    let moves := [.register "1".toList "bob".toList ⟨1⟩ 0, .disconnectAll,
      .attach "7".toList,
      .guestFrame "7".toList (Wire.Message.register "7".toList "ann".toList).wire,
      .register "2".toList "bob".toList ⟨2⟩ 0]
    let r := (emptied {}).run moves
    Spares (emptied {}) moves ∧ r.names = ["bob".toList, "ann".toList] ∧ r.names.Nodup := by
  intro moves r
  have hm : Spares (emptied {}) moves := by
    simp only [Spares, moves]
    decide
  exact ⟨hm, by decide, (names_unique_iff {} hm).1⟩

/-- A guest keeps its nickname when everybody is disconnected at once, and the next to register
takes it as well. -/
theorem name_shared_after_disconnectAll :
    let r := (emptied {}).run [.attach "7".toList,
      .guestFrame "7".toList (Wire.Message.register "7".toList "ann".toList).wire,
      .disconnectAll,
      .frame ⟨1⟩ .awaitingRegister (Wire.Message.register "1".toList "ann".toList).wire 0]
    ¬ r.names.Nodup := by
  decide

end Room
end Parley
