/-
The bridge: guests who take part without a session. A guest has an id, may reserve a nickname, and
reads its frames from a mailbox that holds a bounded number of them. A mailbox that is full
refuses a frame; one whose reader has gone takes none.
-/
import Parley.Session
import Parley.Wire.Chat

namespace Parley

/-- A guest who is attached: its nickname, the frames it has yet to read, and whether it still
reads. -/
structure Guest where
  id : SessionId
  nickname : Option Text := none
  waiting : List Text := []
  reading : Bool := true
  deriving DecidableEq, Repr

/-- What becomes of a frame for a guest. -/
inductive Receipt where
  | taken
  | full
  | gone
  deriving DecidableEq, Repr

namespace Guest

/-- What a guest's mailbox does with one more frame. -/
def receipt (capacity : Nat) (g : Guest) : Receipt :=
  if !g.reading then .gone else if g.waiting.length < capacity then .taken else .full

/-- The guest after a frame was put into its mailbox, if it was taken. -/
def take (capacity : Nat) (frame : Text) (g : Guest) : Guest :=
  if g.receipt capacity = .taken then { g with waiting := g.waiting ++ [frame] } else g

/-- Whether a guest goes by a name, be it its id or its nickname. -/
def answersTo (g : Guest) (name : Text) : Bool := g.id = name || g.nickname = some name

@[simp] theorem id_take (capacity : Nat) (frame : Text) (g : Guest) :
    (g.take capacity frame).id = g.id := by
  unfold take; split <;> rfl

@[simp] theorem nickname_take (capacity : Nat) (frame : Text) (g : Guest) :
    (g.take capacity frame).nickname = g.nickname := by
  unfold take; split <;> rfl

/-- A mailbox never holds more than it can. -/
theorem length_waiting_take {capacity : Nat} {g : Guest} (frame : Text)
    (h : g.waiting.length ≤ capacity) : (g.take capacity frame).waiting.length ≤ capacity := by
  unfold take
  split
  · rename_i taken
    simp only [receipt] at taken
    split at taken
    · cases taken
    · split at taken
      · simp only [List.length_append, List.length_singleton]; omega
      · cases taken
  · exact h

end Guest

/-- How many frames a mailbox holds, the guests in the order in which they came, and the mailboxes
of guests who have left and still read. -/
structure Bridge where
  capacity : Nat
  guests : List Guest := []
  departed : List (SessionId × List Text) := []
  deriving DecidableEq, Repr

namespace Bridge

/-- A bridge without guests; a mailbox holds at least one frame. -/
def new (capacity : Nat) : Bridge := { capacity := max 1 capacity }

/-! ## Questions -/

/-- The guest with an id. -/
def guest? (b : Bridge) (id : SessionId) : Option Guest := b.guests.find? (·.id = id)

/-- The nickname of the guest with an id. -/
def nicknameOf? (b : Bridge) (id : SessionId) : Option Text :=
  (b.guest? id).bind (·.nickname)

/-- The first guest with a nickname. -/
def named? (b : Bridge) (name : Text) : Option Guest :=
  b.guests.find? (·.nickname = some name)

/-- How many guests there are. -/
def size (b : Bridge) : Nat := b.guests.length

/-! ## Changes -/

/-- Changes the guest with an id. -/
def update (b : Bridge) (id : SessionId) (change : Guest → Guest) : Bridge :=
  { b with guests := b.guests.map fun g => if g.id = id then change g else g }

/-- Adds a guest, whose first frame greets it by its id. A guest who had that id before is
forgotten, and so is what it has yet to read. -/
def attach (b : Bridge) (id : SessionId) : Bridge :=
  { b with
    guests := b.guests.filter (·.id ≠ id) ++ [{ id, waiting := [Wire.greeting id] }]
    departed := b.departed.filter (·.1 ≠ id) }

/-- Takes a guest out; what it has yet to read stays readable for as long as it reads. -/
def detach? (b : Bridge) (id : SessionId) : Option (Guest × Bridge) :=
  (b.guest? id).map fun g => (g, { b with
    guests := b.guests.filter (·.id ≠ id)
    departed := if g.reading then (id, g.waiting) :: b.departed else b.departed })

/-- Gives a guest a nickname. -/
def nickname (b : Bridge) (id : SessionId) (name : Text) : Bridge :=
  b.update id fun g => { g with nickname := some name }

/-! ## Reading -/

/-- Takes all frames out of a mailbox; also says whether more may come. -/
def read? (b : Bridge) (id : SessionId) : Option (List Text × Bool × Bridge) :=
  match b.guest? id with
  | some g =>
    if g.reading then some (g.waiting, true, b.update id fun g => { g with waiting := [] })
    else none
  | none =>
    (b.departed.find? (·.1 = id)).map fun (_, waiting) =>
      (waiting, false, { b with
        departed := b.departed.map fun d => if d.1 = id then (id, []) else d })

/-- Ends the reading of a mailbox; what it holds is lost. -/
def stopReading? (b : Bridge) (id : SessionId) : Option Bridge :=
  match b.guest? id with
  | some g =>
    if g.reading then some (b.update id fun g => { g with waiting := [], reading := false })
    else none
  | none =>
    if b.departed.any (·.1 = id) then
      some { b with departed := b.departed.filter (·.1 ≠ id) }
    else none

/-! ## What changes leave as it was -/

theorem guest?_some {b : Bridge} {id : SessionId} {g : Guest} (h : b.guest? id = some g) :
    g ∈ b.guests ∧ g.id = id :=
  ⟨List.mem_of_find?_eq_some h, by simpa using List.find?_some h⟩

theorem named?_some {b : Bridge} {name : Text} {g : Guest} (h : b.named? name = some g) :
    g ∈ b.guests ∧ g.nickname = some name :=
  ⟨List.mem_of_find?_eq_some h, by simpa using List.find?_some h⟩

/-- A mailbox holds at least one frame. -/
theorem capacity_new_pos (capacity : Nat) : 0 < (new capacity).capacity := by
  simp only [new]; omega

theorem detach?_some {b b' : Bridge} {id : SessionId} {g : Guest}
    (h : b.detach? id = some (g, b')) :
    b.guest? id = some g ∧ b'.guests = b.guests.filter (·.id ≠ id) ∧
      b'.capacity = b.capacity := by
  obtain ⟨g', found, h⟩ := Option.map_eq_some_iff.1 h
  cases h
  exact ⟨found, rfl, rfl⟩

@[simp] theorem capacity_update (b : Bridge) (id : SessionId) (change : Guest → Guest) :
    (b.update id change).capacity = b.capacity := rfl

@[simp] theorem capacity_attach (b : Bridge) (id : SessionId) :
    (b.attach id).capacity = b.capacity := rfl

end Bridge
end Parley
