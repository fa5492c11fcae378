/-
The mailboxes of a bridge. A guest's mailbox is read for as long as somebody holds on to it: while
the guest is attached and afterwards. Each change of a bridge says here what it does to the guest
with some id and to what one who had that id has left unread.
-/
import Parley.Proofs.Bridge.Seats

namespace Parley.Bridge

/-- What a guest that has gone has left unread, for as long as it reads. -/
def left? (b : Bridge) (id : SessionId) : Option (List Text) :=
  (b.departed.find? (·.1 = id)).map (·.2)

/-- What waits in the mailbox of whoever has or had an id, for as long as somebody reads it. -/
def mailbox? (b : Bridge) (id : SessionId) : Option (List Text) :=
  match b.guest? id with
  | some g => if g.reading then some g.waiting else none
  | none => b.left? id

/-! ## The guest with an id -/

/-- A guest that is changed keeps its place. -/
theorem guest?_map (b : Bridge) {f : Guest → Guest} (hf : ∀ g, (f g).id = g.id)
    (id : SessionId) :
    ({ b with guests := b.guests.map f } : Bridge).guest? id = (b.guest? id).map f := by
  simp only [guest?, List.find?_map]
  have hsame : ((fun g : Guest => decide (g.id = id)) ∘ f) = fun g => decide (g.id = id) := by
    funext g
    simp [hf]
  rw [hsame]

theorem guest?_update (b : Bridge) {f : Guest → Guest} (hf : ∀ g, (f g).id = g.id)
    (changed id : SessionId) : (b.update changed f).guest? id =
      if id = changed then (b.guest? id).map f else b.guest? id := by
  have hmap : ∀ g : Guest, (if g.id = changed then f g else g).id = g.id := fun g => by
    split
    · exact hf g
    · rfl
  rw [update, guest?_map b hmap]
  cases hg : b.guest? id with
  | none => simp
  | some g =>
    obtain ⟨-, rfl⟩ := guest?_some hg
    by_cases h : g.id = changed <;> simp [h]

theorem guest?_without (b : Bridge) (departed : List (SessionId × List Text))
    (gone id : SessionId) :
    ({ b with guests := b.guests.filter (·.id ≠ gone), departed } : Bridge).guest? id =
      if id = gone then none else b.guest? id :=
  find?_key_filter_ne b.guests gone id

theorem guest?_attach (b : Bridge) (new id : SessionId) : (b.attach new).guest? id =
    if id = new then some { id, waiting := [Wire.greeting id] } else b.guest? id := by
  simp only [attach, guest?, List.find?_append]
  have hothers := b.guest?_without b.departed new id
  simp only [guest?] at hothers
  rw [hothers]
  split
  · rename_i h
    simp [h]
  · rename_i h
    simp [Ne.symm h]

/-! ## What one who had an id has left -/

theorem left?_attach (b : Bridge) (new id : SessionId) : (b.attach new).left? id =
    if id = new then none else b.left? id := by
  rw [left?, attach, find?_key_filter_ne b.departed new id, left?]
  split <;> rfl

theorem left?_cons (b : Bridge) (guests : List Guest) (gone id : SessionId)
    (waiting : List Text) :
    ({ b with guests, departed := (gone, waiting) :: b.departed } : Bridge).left? id =
      if id = gone then some waiting else b.left? id := by
  simp only [left?, List.find?_cons]
  by_cases h : id = gone
  · simp [h]
  · simp [h, Ne.symm h]

/-- What has been left is changed where it stands. -/
theorem left?_map (b : Bridge) (f : List Text → List Text) (changed id : SessionId) :
    ({ b with departed := b.departed.map fun d =>
        if d.1 = changed then (changed, f d.2) else d } : Bridge).left? id =
      if id = changed then (b.left? id).map f else b.left? id := by
  have hsame : ((fun d : SessionId × List Text => decide (d.1 = id)) ∘
      fun d => if d.1 = changed then (changed, f d.2) else d) = fun d => decide (d.1 = id) := by
    funext d
    by_cases hd : d.1 = changed <;> simp [hd]
  simp only [left?, List.find?_map, hsame, Option.map_map]
  cases hfound : b.departed.find? (·.1 = id) with
  | none => simp
  | some d =>
    have hid : d.1 = id := by simpa using List.find?_some hfound
    by_cases h : id = changed <;> simp [hid, h]

theorem left?_drop (b : Bridge) (dropped id : SessionId) :
    ({ b with departed := b.departed.filter (·.1 ≠ dropped) } : Bridge).left? id =
      if id = dropped then none else b.left? id := by
  have h := left?_attach b dropped id
  simpa only [left?, attach] using h

end Parley.Bridge
