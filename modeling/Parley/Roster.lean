/-
Who takes part: the sessions, an index of their names, and the names that are reserved without a
session. Sessions and reservations share one space of names. An operation that is refused has no
result, so it leaves the roster as it was.
-/
import Parley.Session

namespace Parley

/-- The sessions in the order of registration, the id that holds each of their names, the reserved
names, and the number of registrations so far. -/
structure Roster where
  sessions : List Session := []
  holders : List (Text × SessionId) := []
  reserved : List Text := []
  registered : Nat := 0
  deriving DecidableEq, Repr

namespace Roster

/-! ## Questions -/

/-- The session with an id. -/
def lookup? (r : Roster) (id : SessionId) : Option Session :=
  r.sessions.find? (·.id = id)

/-- The id that holds a name. -/
def holder? (r : Roster) (name : Text) : Option SessionId :=
  (r.holders.find? (·.1 = name)).map (·.2)

/-- The session that holds a name. -/
def named? (r : Roster) (name : Text) : Option Session :=
  (r.holder? name).bind r.lookup?

/-- The first session bound to a connection. -/
def bound? (r : Roster) (link : ConnId) : Option Session :=
  r.sessions.find? (·.link = link)

/-- Whether a name is held by a session or reserved. -/
def isActive (r : Roster) (name : Text) : Bool :=
  (r.holder? name).isSome || r.reserved.contains name

/-- Whether a session has an id. -/
def contains (r : Roster) (id : SessionId) : Bool := (r.lookup? id).isSome

/-- The name of a session. -/
def nameOf? (r : Roster) (id : SessionId) : Option Text := (r.lookup? id).map (·.name)

/-- The last sign of life of a session. -/
def markOf? (r : Roster) (id : SessionId) : Option Nat := (r.lookup? id).map (·.mark)

/-- Every held or reserved name, in the order of their characters. -/
def activeNames (r : Roster) : List Text :=
  (r.holders.map (·.1) ++ r.reserved).mergeSort Text.atMost

/-- How many sessions there are. -/
def size (r : Roster) : Nat := r.sessions.length

/-! ## Changes -/

/-- Adds a session, unless its name is active or its id taken. -/
def register? (r : Roster) (id : SessionId) (name : Text) (link : ConnId) (mark : Nat) :
    Option Roster :=
  if r.isActive name || r.contains id then none
  else
    let sequence := r.registered + 1
    some { r with
      sessions := r.sessions ++ [⟨id, name, link, sequence, mark⟩]
      holders := (name, id) :: r.holders
      registered := sequence }

/-- Takes a session out and frees its name. -/
def remove? (r : Roster) (id : SessionId) : Option (Session × Roster) :=
  (r.lookup? id).map fun s => (s, { r with
    sessions := r.sessions.filter (·.id ≠ id)
    holders := if r.holder? s.name = some id then r.holders.filter (·.1 ≠ s.name)
      else r.holders })

/-- Reserves a name, unless it is active. -/
def reserve? (r : Roster) (name : Text) : Option Roster :=
  if r.isActive name then none else some { r with reserved := name :: r.reserved }

/-- Ends the reservation of a name. -/
def release? (r : Roster) (name : Text) : Option Roster :=
  if r.reserved.contains name then some { r with reserved := r.reserved.filter (· ≠ name) }
  else none

/-- Advances a session's last sign of life; an earlier one changes nothing. -/
def touch? (r : Roster) (id : SessionId) (mark : Nat) : Option Roster :=
  if r.contains id then
    some { r with sessions := r.sessions.map fun s =>
      if s.id = id then { s with mark := max s.mark mark } else s }
  else none

/-- Takes all sessions and reservations out; registrations go on being counted. -/
def clear (r : Roster) : List Session × Roster :=
  (r.sessions, { registered := r.registered })

/-! ## When questions and changes have a result -/

theorem contains_iff {r : Roster} {id : SessionId} :
    r.contains id = true ↔ ∃ s ∈ r.sessions, s.id = id := by
  simp [contains, lookup?, List.find?_isSome]

theorem isActive_iff {r : Roster} {name : Text} :
    r.isActive name = true ↔ name ∈ r.holders.map (·.1) ∨ name ∈ r.reserved := by
  simp [isActive, holder?, List.find?_isSome]

theorem lookup?_some {r : Roster} {id : SessionId} {s : Session} (h : r.lookup? id = some s) :
    s ∈ r.sessions ∧ s.id = id :=
  ⟨List.mem_of_find?_eq_some h, by simpa using List.find?_some h⟩

theorem bound?_some {r : Roster} {link : ConnId} {s : Session} (h : r.bound? link = some s) :
    s ∈ r.sessions ∧ s.link = link :=
  ⟨List.mem_of_find?_eq_some h, by simpa using List.find?_some h⟩

/-- A registration is refused exactly when its name is active or its id taken. -/
theorem register?_eq_none {r : Roster} {id : SessionId} {name : Text} {link : ConnId} {mark : Nat} :
    r.register? id name link mark = none ↔ r.isActive name = true ∨ r.contains id = true := by
  rw [← Bool.or_eq_true]
  unfold register?
  split <;> simp_all

theorem register?_some {r r' : Roster} {id : SessionId} {name : Text} {link : ConnId} {mark : Nat}
    (h : r.register? id name link mark = some r') :
    r.isActive name = false ∧ r.contains id = false ∧
      r' = { r with
        sessions := r.sessions ++ [⟨id, name, link, r.registered + 1, mark⟩]
        holders := (name, id) :: r.holders
        registered := r.registered + 1 } := by
  unfold register? at h
  split at h
  · cases h
  · rename_i free
    simp only [Bool.or_eq_true, not_or, Bool.not_eq_true] at free
    exact ⟨free.1, free.2, (Option.some.inj h).symm⟩

/-- Taking a session out is refused exactly when there is none with its id. -/
theorem remove?_eq_none {r : Roster} {id : SessionId} :
    r.remove? id = none ↔ r.contains id = false := by
  simp [remove?, contains]

theorem remove?_sessions {r r' : Roster} {id : SessionId} {s : Session}
    (h : r.remove? id = some (s, r')) :
    r.lookup? id = some s ∧ r'.sessions = r.sessions.filter (·.id ≠ id) ∧
      r'.reserved = r.reserved ∧ r'.registered = r.registered := by
  obtain ⟨s', found, h⟩ := Option.map_eq_some_iff.1 h
  cases h
  exact ⟨found, rfl, rfl, rfl⟩

/-- A reservation is refused exactly when its name is active. -/
theorem reserve?_eq_none {r : Roster} {name : Text} :
    r.reserve? name = none ↔ r.isActive name = true := by
  unfold reserve?
  split <;> simp_all

theorem reserve?_some {r r' : Roster} {name : Text} (h : r.reserve? name = some r') :
    r.isActive name = false ∧ r' = { r with reserved := name :: r.reserved } := by
  unfold reserve? at h
  split at h
  · cases h
  · rename_i free
    exact ⟨by simpa using free, (Option.some.inj h).symm⟩

theorem release?_some {r r' : Roster} {name : Text} (h : r.release? name = some r') :
    name ∈ r.reserved ∧ r' = { r with reserved := r.reserved.filter (· ≠ name) } := by
  unfold release? at h
  split at h
  · rename_i held
    exact ⟨by simpa using held, (Option.some.inj h).symm⟩
  · cases h

@[simp] theorem clear_fst (r : Roster) : r.clear.1 = r.sessions := rfl

@[simp] theorem clear_snd (r : Roster) : r.clear.2 = { registered := r.registered } := rfl

end Roster
end Parley
