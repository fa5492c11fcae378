/-
Who is attached to a bridge under which nickname. Frames that are put into mailboxes or taken out of
them leave the seats as they are; only a guest who comes, goes or is named changes them.
-/
import Parley.Bridge
import Parley.Proofs.Keyed

namespace Parley.Bridge

/-- The ids of the attached guests, each with its nickname. -/
def seats (b : Bridge) : List (SessionId × Option Text) := b.guests.map fun g => (g.id, g.nickname)

/-- Takes only the next frame out of a mailbox, if there is one. -/
def readNext (b : Bridge) (id : SessionId) : Bridge :=
  match b.guest? id with
  | some _ => b.update id fun g => { g with waiting := g.waiting.tail }
  | none => { b with
      departed := b.departed.map fun d => if d.1 = id then (id, d.2.tail) else d }

/-! ## Guests who come, go and are named -/

theorem mem_seats {b : Bridge} {g : Guest} (h : g ∈ b.guests) : (g.id, g.nickname) ∈ b.seats :=
  List.mem_map_of_mem h

theorem seats_nickname (b : Bridge) (id : SessionId) (name : Text) :
    (b.nickname id name).seats =
      b.seats.map fun s => if s.1 = id then (s.1, some name) else s := by
  simp only [nickname, update, seats, List.map_map]
  refine List.map_congr_left fun g _ => ?_
  simp only [Function.comp_apply]
  split <;> rfl

theorem seats_detach {b b' : Bridge} {id : SessionId} {g : Guest}
    (h : b.detach? id = some (g, b')) :
    (id, g.nickname) ∈ b.seats ∧ b'.seats = b.seats.filter (·.1 ≠ id) := by
  obtain ⟨hg, hguests, -⟩ := detach?_some h
  obtain ⟨hm, rfl⟩ := guest?_some hg
  refine ⟨mem_seats hm, ?_⟩
  rw [seats, hguests, seats, List.filter_map]
  rfl

theorem seats_attach {b : Bridge} {id : SessionId} (h : b.guest? id = none) :
    (b.attach id).seats = b.seats ++ [(id, none)] := by
  have hf : b.guests.filter (·.id ≠ id) = b.guests := by
    rw [List.filter_eq_self]
    intro g hg
    have := List.find?_eq_none.1 h g hg
    simpa using this
  simp only [attach, hf, seats, List.map_append, List.map_cons, List.map_nil]

/-- The other seats stay when a guest goes. -/
theorem seats_detach_perm {b b' : Bridge} {id : SessionId} {g : Guest}
    (hn : (b.seats.map (·.1)).Nodup) (h : b.detach? id = some (g, b')) :
    b.seats.Perm ((id, g.nickname) :: b'.seats) := by
  obtain ⟨hm, hseats⟩ := seats_detach h
  obtain ⟨before, after, hsplit, hothers⟩ := exists_split hn hm
  have hrest : b'.seats = before ++ after := by
    rw [hseats, hsplit, List.filter_append, List.filter_cons_of_neg (by simp),
      ← List.filter_append, List.filter_eq_self]
    exact fun s hs => by simpa using hothers s hs
  rw [hrest, hsplit]
  exact List.perm_middle

/-- The other seats stay when a guest is named. -/
theorem seats_nickname_perm {b : Bridge} {id : SessionId} {g : Guest} (name : Text)
    (hn : (b.seats.map (·.1)).Nodup) (h : b.guest? id = some g) :
    ∃ rest, b.seats.Perm ((id, g.nickname) :: rest) ∧
      (b.nickname id name).seats.Perm ((id, some name) :: rest) := by
  obtain ⟨hm, rfl⟩ := guest?_some h
  obtain ⟨before, after, hsplit, hothers⟩ := exists_split hn (mem_seats hm)
  have hsame : ((before ++ after).map fun s => if s.1 = g.id then (s.1, some name) else s) =
      before ++ after :=
    (List.map_congr_left fun s hs => if_neg (hothers s hs)).trans (List.map_id' _)
  have hperm : b.seats.Perm ((g.id, g.nickname) :: (before ++ after)) :=
    hsplit ▸ List.perm_middle
  refine ⟨before ++ after, hperm, ?_⟩
  rw [seats_nickname]
  refine (hperm.map _).trans ?_
  rw [List.map_cons, if_pos rfl, hsame]

/-! ## Mailboxes -/

theorem seats_map (f : Guest → Guest) (hid : ∀ g, (f g).id = g.id)
    (hnick : ∀ g, (f g).nickname = g.nickname) (b : Bridge) :
    ({ b with guests := b.guests.map f } : Bridge).seats = b.seats := by
  simp only [seats, List.map_map]
  refine List.map_congr_left fun g _ => ?_
  simp only [Function.comp_apply, hid, hnick]

theorem seats_update (b : Bridge) (id : SessionId) (change : Guest → Guest)
    (hid : ∀ g, (change g).id = g.id) (hnick : ∀ g, (change g).nickname = g.nickname) :
    (b.update id change).seats = b.seats := by
  refine seats_map _ (fun g => ?_) (fun g => ?_) b
  · split
    · exact hid g
    · rfl
  · split
    · exact hnick g
    · rfl

theorem seats_readNext (b : Bridge) (id : SessionId) : (b.readNext id).seats = b.seats := by
  unfold readNext
  split
  · exact seats_update b id _ (fun _ => rfl) fun _ => rfl
  · rfl

theorem seats_read {b b' : Bridge} {id : SessionId} {frames : List Text} {more : Bool}
    (h : b.read? id = some (frames, more, b')) : b'.seats = b.seats := by
  unfold read? at h
  split at h
  · split at h
    · cases h; exact seats_update b id _ (fun _ => rfl) fun _ => rfl
    · cases h
  · obtain ⟨d, -, h⟩ := Option.map_eq_some_iff.1 h
    cases h; rfl

theorem seats_stopReading {b b' : Bridge} {id : SessionId} (h : b.stopReading? id = some b') :
    b'.seats = b.seats := by
  unfold stopReading? at h
  split at h
  · split at h
    · cases h; exact seats_update b id _ (fun _ => rfl) fun _ => rfl
    · cases h
  · split at h
    · cases h; rfl
    · cases h

end Parley.Bridge
